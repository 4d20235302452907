import DocSync.Config.Definition
import DocSync.Proofs.Json.Reading

/-!
# What a server definition says

A definition has to name a language. Its extensions and the languages of extensions may be missing,
and are none then; what is written has to be well formed throughout.
-/
namespace DocSync.ServerDefinition

open Json (Fields)

/-- A definition with all that its record says, and nothing else. -/
structure Faithful (get : Fields) (d : ServerDefinition) : Prop where
  languageId : get "language_id" = some (.str d.languageId)
  fileExtensions : get "file_extensions" = none ∧ d.fileExtensions = [] ∨
    get "file_extensions" = some (.arr (d.fileExtensions.map .str))
  languages : get "languages" = none ∧ d.languages = [] ∨
    ∃ entries : List (String × String),
      get "languages" = some (.obj (entries.map fun x => (x.1, .str x.2))) ∧
      d.languages = Sorted.ofList entries

/-- A value that is well formed as a definition, and the definition that it is. -/
def WellFormed (j : Json) (d : ServerDefinition) : Prop :=
  ∃ get, j.fields? fieldNames = some get ∧ Faithful get d

theorem languagesOfJson?_eq_some_iff {j : Json} {languages : List (String × String)} :
    languagesOfJson? j = some languages ↔ ∃ entries : List (String × String),
      j = .obj (entries.map fun x => (x.1, .str x.2)) ∧ languages = Sorted.ofList entries := by
  have hentry (x : String × Json) (y : String × String) :
      (x.2.string?.map fun id => (x.1, id)) = some y ↔ x = (y.1, .str y.2) := by
    obtain ⟨key, value⟩ := x
    obtain ⟨name, id⟩ := y
    simp [Option.map_eq_some_iff, Json.string?_eq_some_iff, and_comm]
  cases j with
  | obj fields =>
    have hread : languagesOfJson? (.obj fields) =
        (fields.mapM fun (x : String × Json) => x.2.string?.map fun id => (x.1, id)).map
          Sorted.ofList := by
      rw [Option.map_eq_bind]
      rfl
    rw [hread, Option.map_eq_some_iff]
    apply exists_congr
    intro entries
    rw [Json.mapM_eq_some_iff, Json.obj.injEq, eq_comm (a := Sorted.ofList entries)]
    apply and_congr_left'
    simp only [hentry]
    rw [← List.forall₂_eq_eq_eq, List.forall₂_map_right_iff]
  | _ => simp [languagesOfJson?, Json.object?]

theorem ofJson?_eq_some_iff {j : Json} {d : ServerDefinition} :
    ofJson? j = some d ↔ WellFormed j d := by
  unfold ofJson?
  constructor
  · intro h
    obtain ⟨get, hget, h⟩ := Option.bind_eq_some_iff.mp h
    obtain ⟨languageId, hlanguageId, h⟩ := Option.bind_eq_some_iff.mp h
    obtain ⟨fileExtensions, hextensions, h⟩ := Option.bind_eq_some_iff.mp h
    obtain ⟨languages, hlanguages, h⟩ := Option.bind_eq_some_iff.mp h
    cases h
    refine ⟨get, hget, Fields.required_string_iff.mp hlanguageId, ?_, ?_⟩
    · obtain hmissing | ⟨j, hj, hread⟩ := Fields.withDefault_eq_some_iff.mp hextensions
      · exact .inl hmissing
      · exact .inr (Json.list?_string?_eq_some_iff.mp hread ▸ hj)
    · obtain hmissing | ⟨j, hj, hread⟩ := Fields.withDefault_eq_some_iff.mp hlanguages
      · exact .inl hmissing
      · obtain ⟨entries, rfl, hsorted⟩ := languagesOfJson?_eq_some_iff.mp hread
        exact .inr ⟨entries, hj, hsorted⟩
  · rintro ⟨get, hget, hlanguageId, hextensions, hlanguages⟩
    have hextensions : get.withDefault "file_extensions" [] (Json.list? Json.string?) =
        some d.fileExtensions := by
      apply Fields.withDefault_eq_some_iff.mpr
      apply hextensions.imp_right
      intro hwritten
      exact ⟨_, hwritten, Json.list?_string?_eq_some_iff.mpr rfl⟩
    have hlanguages : get.withDefault "languages" [] languagesOfJson? = some d.languages := by
      apply Fields.withDefault_eq_some_iff.mpr
      apply hlanguages.imp_right
      rintro ⟨entries, hwritten, hsorted⟩
      exact ⟨_, hwritten, languagesOfJson?_eq_some_iff.mpr ⟨entries, rfl, hsorted⟩⟩
    simp only [hget, Fields.required_string_iff.mpr hlanguageId, hextensions, hlanguages,
      Option.bind_eq_bind, Option.bind_some]

end DocSync.ServerDefinition
