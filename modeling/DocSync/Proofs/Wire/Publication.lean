import DocSync.Proofs.Wire.Diagnostic

/-!
# What a publication says

A publication is read whole or not at all. Its record has to name a file and to list diagnostics,
all of which can be read; a version may be left out or be null, but it has to be one if it is
written.
-/
namespace DocSync

open Json (Fields)

namespace Publication

/-- A publication with all that its record says, its diagnostics one by one and in their order. -/
structure Faithful (get : Fields) (p : Publication) : Prop where
  uri : get "uri" = some (.str p.uri)
  version : p.version = none ∧ (get "version" = none ∨ get "version" = some .null) ∨
    ∃ j v, get "version" = some j ∧ j ≠ .null ∧ Version.ofJson? j = some v ∧ p.version = some v
  items : ∃ written, get "diagnostics" = some (.arr written) ∧
    List.Forall₂ Diagnostic.WellFormed written p.items

/-- What keeps a value from being read as a publication. -/
inductive Malformed (j : Json) : Prop
  | record (h : j.fields? fieldNames = none)
  | uri {get : Fields} (h : j.fields? fieldNames = some get)
      (hbad : ∀ text, get "uri" ≠ some (.str text))
  | version {get : Fields} {written : Json} (h : j.fields? fieldNames = some get)
      (hversion : get "version" = some written) (hnull : written ≠ .null)
      (hbad : Version.ofJson? written = none)
  | diagnostics {get : Fields} (h : j.fields? fieldNames = some get)
      (hbad : ∀ written, get "diagnostics" ≠ some (.arr written))
  /-- One diagnostic among the others. -/
  | item {get : Fields} {written : List Json} {item : Json} (h : j.fields? fieldNames = some get)
      (hdiagnostics : get "diagnostics" = some (.arr written)) (hmem : item ∈ written)
      (hbad : Diagnostic.Malformed item)

theorem required_list_iff {get : Fields} {name : String} {items : List Diagnostic} :
    get.required name (Json.list? Diagnostic.ofJson?) = some items ↔
      ∃ written, get name = some (.arr written) ∧
        List.Forall₂ Diagnostic.WellFormed written items := by
  unfold Fields.required
  cases get name with
  | none => simp
  | some j => cases j <;> simp [Json.list?, Json.array?, Diagnostic.mapM_ofJson?_eq_some_iff]

theorem required_list_eq_none_iff {get : Fields} {name : String} :
    get.required name (Json.list? Diagnostic.ofJson?) = none ↔
      (∀ written, get name ≠ some (.arr written)) ∨
        ∃ written, get name = some (.arr written) ∧ ∃ item ∈ written, Diagnostic.Malformed item := by
  unfold Fields.required
  cases get name with
  | none => simp
  | some j => cases j <;> simp [Json.list?, Json.array?, Diagnostic.mapM_ofJson?_eq_none_iff]

theorem ofJson?_eq_some_iff {j : Json} {p : Publication} :
    ofJson? j = some p ↔ ∃ get, j.fields? fieldNames = some get ∧ Faithful get p := by
  unfold ofJson?
  constructor
  · intro h
    obtain ⟨get, hget, h⟩ := Option.bind_eq_some_iff.mp h
    obtain ⟨uri, huri, h⟩ := Option.bind_eq_some_iff.mp h
    obtain ⟨version, hversion, h⟩ := Option.bind_eq_some_iff.mp h
    obtain ⟨items, hitems, h⟩ := Option.bind_eq_some_iff.mp h
    cases h
    exact ⟨get, hget, Fields.required_string_iff.mp huri, Fields.optional_eq_some_iff.mp hversion,
      required_list_iff.mp hitems⟩
  · rintro ⟨get, hget, huri, hversion, hitems⟩
    simp only [hget, Fields.required_string_iff.mpr huri, Fields.optional_eq_some_iff.mpr hversion,
      required_list_iff.mpr hitems, Option.bind_eq_bind, Option.bind_some]

theorem Malformed.ofJson? {j : Json} (h : Malformed j) : Publication.ofJson? j = none := by
  unfold Publication.ofJson?
  cases h with
  | record h => rw [h, Option.bind_eq_bind, Option.bind_none]
  | uri h hbad => simp [h, Fields.required_string_eq_none_iff.mpr hbad]
  | version h hversion hnull hbad =>
    simp [h, Fields.optional_eq_none_iff.mpr ⟨_, hversion, hnull, hbad⟩]
  | diagnostics h hbad => simp [h, required_list_eq_none_iff.mpr (.inl hbad)]
  | item h hdiagnostics hmem hbad =>
    simp [h, required_list_eq_none_iff.mpr (.inr ⟨_, hdiagnostics, _, hmem, hbad⟩)]

theorem ofJson?_eq_none_iff {j : Json} : ofJson? j = none ↔ Malformed j := by
  refine ⟨fun h => ?_, Malformed.ofJson?⟩
  cases hget : j.fields? fieldNames with
  | none => exact .record hget
  | some get =>
    cases huri : get.required "uri" Json.string? with
    | none => exact .uri hget (Fields.required_string_eq_none_iff.mp huri)
    | some uri =>
      cases hversion : get.optional "version" Version.ofJson? with
      | none =>
        obtain ⟨written, hwritten, hnull, hbad⟩ := Fields.optional_eq_none_iff.mp hversion
        exact .version hget hwritten hnull hbad
      | some version =>
        cases hitems : get.required "diagnostics" (Json.list? Diagnostic.ofJson?) with
        | none =>
          obtain hbad | ⟨written, hwritten, item, hmem, hbad⟩ :=
            required_list_eq_none_iff.mp hitems
          · exact .diagnostics hget hbad
          · exact .item hget hwritten hmem hbad
        | some items => simp [ofJson?, hget, huri, hversion, hitems] at h

end Publication

end DocSync
