import DocSync.Proofs.Data.ByteOrder
import DocSync.Proofs.Data.Table
import DocSync.Proofs.Wire.Diagnostic

/-!
# What a report says

A report is read whole or not at all. A value that is no report has one of the defects that
`Malformed` lists, down to a single diagnostic of a single related document; every other value is
rendered without loss, and none is told apart from one that has other unknown fields.
-/
namespace DocSync

open Json (Elements Fields Known Likeness NoVariant Record Table Variant)

/-! ## Known fields -/

def Position.known : Known := [("line", Eq), ("character", Eq)]

def Span.known : Known :=
  [("start", Record Position.known), ("end", Record Position.known)]

def Diagnostic.known : Known :=
  [("range", Record Span.known), ("severity", Eq), ("source", Eq), ("message", Eq), ("code", Eq)]

theorem Position.ofJson?_congr {j k : Json} (h : Record Position.known j k) :
    Position.ofJson? j = Position.ofJson? k := by
  refine Record.fields?_congr (fun get get' halike => ?_) h
  have hline : get "line" = get' "line" := halike.value (by simp [Position.known])
  have hcharacter : get "character" = get' "character" := halike.value (by simp [Position.known])
  simp only [Fields.required, hline, hcharacter]

theorem Span.ofJson?_congr {j k : Json} (h : Record Span.known j k) :
    Span.ofJson? j = Span.ofJson? k := by
  refine Record.fields?_congr (fun get get' halike => ?_) h
  have hread : ∀ j k, Record Position.known j k → Position.ofJson? j = Position.ofJson? k :=
    fun _ _ => Position.ofJson?_congr
  rw [Fields.required_congr halike (by simp [Span.known]) hread,
    Fields.required_congr halike (by simp [Span.known]) hread]

theorem Diagnostic.ofJson?_congr {j k : Json} (h : Record Diagnostic.known j k) :
    Diagnostic.ofJson? j = Diagnostic.ofJson? k := by
  refine Record.fields?_congr (fun get get' halike => ?_) h
  have hspan : get.required "range" Span.ofJson? = get'.required "range" Span.ofJson? :=
    Fields.required_congr halike (List.mem_cons_self ..) fun _ _ => Span.ofJson?_congr
  have hseverity : get "severity" = get' "severity" := halike.value (by simp [Diagnostic.known])
  have hsource : get "source" = get' "source" := halike.value (by simp [Diagnostic.known])
  have hmessage : get "message" = get' "message" := halike.value (by simp [Diagnostic.known])
  have hcode : get "code" = get' "code" := halike.value (by simp [Diagnostic.known])
  rw [hspan]
  simp only [Fields.required, Fields.optional, hseverity, hsource, hmessage, hcode]

namespace Report

/-- The diagnostics of the document itself. -/
def own : Report → Option (List Diagnostic)
  | direct items => some items
  | related own _ => own

/-- What a report brings along on other documents. -/
def documents : Report → List (String × Option (List Diagnostic))
  | direct _ => []
  | related _ documents => documents

def items : Likeness := Elements (Record Diagnostic.known)

def Kind.innerKnown : Kind → Known
  | .full => [("items", items)]
  | .unchanged => []

def relatedDocuments : Likeness := Table (Variant "kind" Kind.ofInnerTag? Kind.innerKnown)

def Kind.known : Kind → Known
  | .full => [("items", items), ("relatedDocuments", relatedDocuments)]
  | .unchanged => [("relatedDocuments", relatedDocuments)]

/-- Answers that differ only in fields that are not known where they stand. -/
def Alike : Likeness := Variant "kind" Kind.ofLabel? Kind.known

/-! ## Kind and fields -/

/-- A report as a record of its kind. -/
def outer? : Json → Option (Kind × Fields) :=
  Json.variant? "kind" Kind.ofLabel? fun kind => kind.known.names

/-- A report inside another one as a record of its kind. -/
def innerRecord? : Json → Option (Kind × Fields) :=
  Json.variant? "kind" Kind.ofInnerTag? fun kind => kind.innerKnown.names

def entryOf? : Kind × Fields → Option (Option (List Diagnostic))
  | (.full, get) => (items? get).map some
  | (.unchanged, _) => some none

def ofFields? : Kind × Fields → Option Report
  | (.full, get) => do
    let items ← items? get
    match ← get.optional "relatedDocuments" documents? with
    | none => some (.direct items)
    | some documents => some (.related (some items) documents)
  | (.unchanged, get) => do
    some (.related none ((← get.optional "relatedDocuments" documents?).getD []))

theorem inner?_eq (j : Json) : inner? j = (innerRecord? j).bind entryOf? := by
  unfold inner? innerRecord? Json.variant?
  cases j.tagged? "kind" with
  | none => rfl
  | some tagged =>
    cases hkind : Kind.ofInnerTag? tagged.tag with
    | none => simp [hkind]
    | some kind =>
      cases kind <;>
        simp [hkind, Option.bind_assoc, entryOf?, Kind.innerKnown, Known.names]

theorem read?_eq (j : Json) : read? j = (outer? j).bind ofFields? := by
  unfold read? outer? Json.variant?
  cases j.tagged? "kind" with
  | none => rfl
  | some tagged =>
    cases hkind : Kind.ofLabel? tagged.tag with
    | none => simp [hkind]
    | some kind =>
      cases kind <;>
        simp only [hkind, Option.bind_eq_bind, Option.bind_some, Option.bind_assoc] <;> rfl

/-! ## Defects -/

/-- What keeps the items of a full report from being read. -/
inductive BadItems (get : Fields) : Prop
  | mistyped {j : Json} (h : get "items" = some j) (harray : j.array? = none)
  | item {written : List Json} {j : Json} (h : get "items" = some (.arr written))
      (hmem : j ∈ written) (hbad : Diagnostic.Malformed j)

/-- What keeps a report on a related document from being read. -/
inductive BadEntry (j : Json) : Prop
  | record (h : NoVariant "kind" Kind.ofInnerTag? (fun kind => kind.innerKnown.names) j)
  | items {get : Fields} (h : innerRecord? j = some (.full, get)) (hbad : BadItems get)

/-- What keeps the reports on related documents from being read. -/
inductive BadDocuments (get : Fields) : Prop
  | mistyped {j : Json} (h : get "relatedDocuments" = some j) (hnull : j ≠ .null)
      (hobject : j.object? = none)
  | entry {fields : List (String × Json)} {x : String × Json}
      (h : get "relatedDocuments" = some (.obj fields)) (hmem : x ∈ fields) (hbad : BadEntry x.2)

/-- What keeps a value from being read as a report. -/
inductive Malformed (j : Json) : Prop
  | record (h : NoVariant "kind" Kind.ofLabel? (fun kind => kind.known.names) j)
  | items {get : Fields} (h : outer? j = some (.full, get)) (hbad : BadItems get)
  | documents {kind : Kind} {get : Fields} (h : outer? j = some (kind, get))
      (hbad : BadDocuments get)

theorem items?_eq_none_iff {get : Fields} : items? get = none ↔ BadItems get := by
  unfold items? Fields.withDefault
  constructor
  · intro h
    split at h
    · cases h
    · rename_i j hj
      cases harray : j.array? with
      | none => exact .mistyped hj harray
      | some written =>
        rw [Json.list?, harray, Option.bind_some, Diagnostic.mapM_ofJson?_eq_none_iff] at h
        obtain ⟨item, hmem, hbad⟩ := h
        cases j <;> cases harray
        exact .item hj hmem hbad
  · rintro (⟨hj, harray⟩ | ⟨hj, hmem, hbad⟩)
    · rw [hj]
      simp only [Json.list?, harray, Option.bind_none]
    · rw [hj]
      exact Diagnostic.mapM_ofJson?_eq_none_iff.mpr ⟨_, hmem, hbad⟩

theorem inner?_eq_none_iff {j : Json} : inner? j = none ↔ BadEntry j := by
  rw [inner?_eq]
  constructor
  · intro h
    cases hrecord : innerRecord? j with
    | none => exact .record (Json.variant?_eq_none_iff.mp hrecord)
    | some record =>
      obtain ⟨kind, get⟩ := record
      rw [hrecord] at h
      cases kind with
      | full => exact .items hrecord (items?_eq_none_iff.mp (Option.map_eq_none_iff.mp h))
      | unchanged => cases h
  · rintro (h | ⟨h, hbad⟩)
    · have hrecord : innerRecord? j = none := Json.variant?_eq_none_iff.mpr h
      rw [hrecord, Option.bind_none]
    · rw [h]
      exact Option.map_eq_none_iff.mpr (items?_eq_none_iff.mpr hbad)

theorem documents?_obj (fields : List (String × Json)) :
    documents? (.obj fields) = (fields.mapM fun x => (inner? x.2).map fun items => (x.1, items)).map
      Sorted.ofList := by
  rw [Option.map_eq_bind]
  rfl

theorem documents?_eq_none_iff {j : Json} : documents? j = none ↔
    j.object? = none ∨ ∃ fields x, j = .obj fields ∧ x ∈ fields ∧ BadEntry x.2 := by
  cases j with
  | obj fields =>
    rw [documents?_obj, Option.map_eq_none_iff, Json.mapM_eq_none_iff]
    simp [Json.object?, Option.map_eq_none_iff, inner?_eq_none_iff]
  | _ => simp [documents?, Json.object?]

theorem optional_documents?_eq_none_iff {get : Fields} :
    get.optional "relatedDocuments" documents? = none ↔ BadDocuments get := by
  rw [Fields.optional_eq_none_iff]
  constructor
  · rintro ⟨j, hj, hnull, hread⟩
    rcases documents?_eq_none_iff.mp hread with hobject | ⟨fields, x, rfl, hmem, hbad⟩
    · exact .mistyped hj hnull hobject
    · exact .entry hj hmem hbad
  · rintro (⟨hj, hnull, hobject⟩ | ⟨hj, hmem, hbad⟩)
    · exact ⟨_, hj, hnull, documents?_eq_none_iff.mpr (.inl hobject)⟩
    · exact ⟨_, hj, nofun, documents?_eq_none_iff.mpr (.inr ⟨_, _, rfl, hmem, hbad⟩)⟩

theorem read?_eq_none_iff {j : Json} : read? j = none ↔ Malformed j := by
  rw [read?_eq]
  constructor
  · intro h
    cases hrecord : outer? j with
    | none => exact .record (Json.variant?_eq_none_iff.mp hrecord)
    | some record =>
      obtain ⟨kind, get⟩ := record
      rw [hrecord, Option.bind_some] at h
      cases hdocuments : get.optional "relatedDocuments" documents? with
      | none => exact .documents hrecord (optional_documents?_eq_none_iff.mp hdocuments)
      | some documents =>
        cases kind with
        | unchanged => simp [ofFields?, hdocuments] at h
        | full =>
          cases hitems : items? get with
          | none => exact .items hrecord (items?_eq_none_iff.mp hitems)
          | some items => cases documents <;> simp [ofFields?, hdocuments, hitems] at h
  · rintro (h | ⟨h, hbad⟩ | ⟨h, hbad⟩)
    · have hrecord : outer? j = none := Json.variant?_eq_none_iff.mpr h
      rw [hrecord, Option.bind_none]
    · rw [h, Option.bind_some, ofFields?, items?_eq_none_iff.mpr hbad]
      rfl
    · rename_i kind get
      rw [h, Option.bind_some]
      have hnone := optional_documents?_eq_none_iff.mpr hbad
      cases kind with
      | unchanged => simp [ofFields?, hnone]
      | full => cases hitems : items? get <;> simp [ofFields?, hitems, hnone]

/-! ## Rendering -/

/-- The diagnostics that a full report has, one for every item, in their order. -/
inductive Items (get : Fields) : List Diagnostic → Prop
  | missing (h : get "items" = none) : Items get []
  | written {written : List Json} {items : List Diagnostic} (h : get "items" = some (.arr written))
      (hread : List.Forall₂ Diagnostic.WellFormed written items) :
      Items get items

/-- What a report of a kind says of its document: an unchanged one says nothing. -/
inductive Says (get : Fields) : Kind → Option (List Diagnostic) → Prop
  | full {items : List Diagnostic} (h : Items get items) : Says get .full (some items)
  | unchanged : Says get .unchanged none

/-- The reports on related documents, in the order of writing. -/
def relatedFields (get : Fields) : List (String × Json) :=
  match get "relatedDocuments" with
  | some (.obj fields) => fields
  | _ => []

/-- A report with all that its record says, and nothing else. -/
structure Faithful (kind : Kind) (get : Fields) (r : Report) : Prop where
  own : Says get kind r.own
  direct : (∃ items, r = .direct items) ↔
    kind = .full ∧ (get "relatedDocuments" = none ∨ get "relatedDocuments" = some .null)
  ascending : (r.documents.map fun x => utf8Bytes x.1).Pairwise (· < ·)
  keys : ∀ uri, uri ∈ r.documents.map Prod.fst ↔ uri ∈ (relatedFields get).map Prod.fst
  entries : ∀ x ∈ r.documents, ∃ report innerKind innerGet,
    (relatedFields get).reverse.lookup x.1 = some report ∧
    innerRecord? report = some (innerKind, innerGet) ∧ Says innerGet innerKind x.2

theorem items_of_items? {get : Fields} {items : List Diagnostic} (h : items? get = some items) :
    Items get items := by
  unfold items? Fields.withDefault at h
  split at h
  · rename_i hmissing
    cases h
    exact .missing hmissing
  · rename_i j hj
    obtain ⟨written, harray, hread⟩ := Option.bind_eq_some_iff.mp h
    cases j <;> cases harray
    exact .written hj (Diagnostic.mapM_ofJson?_eq_some_iff.mp hread)

theorem says_of_inner? {j : Json} {items : Option (List Diagnostic)} (h : inner? j = some items) :
    ∃ kind get, innerRecord? j = some (kind, get) ∧ Says get kind items := by
  rw [inner?_eq] at h
  obtain ⟨⟨kind, get⟩, hrecord, hentry⟩ := Option.bind_eq_some_iff.mp h
  refine ⟨kind, get, hrecord, ?_⟩
  cases kind with
  | full =>
    obtain ⟨items, hitems, rfl⟩ := Option.map_eq_some_iff.mp hentry
    exact .full (items_of_items? hitems)
  | unchanged =>
    cases hentry
    exact .unchanged

/-- Every field of the object is read as the report on the document that it names. -/
theorem entries_of_mapM {fields : List (String × Json)}
    {entries : List (String × Option (List Diagnostic))}
    (h : (fields.mapM fun x => (inner? x.2).map fun items => (x.1, items)) = some entries) :
    List.Forall₂ (fun x y => x.1 = y.1 ∧ inner? x.2 = some y.2) fields entries := by
  refine (Json.mapM_eq_some_iff.mp h).imp fun x y hxy => ?_
  obtain ⟨items, hitems, rfl⟩ := Option.map_eq_some_iff.mp hxy
  exact ⟨rfl, hitems⟩

theorem forall₂_of_documents? {fields : List (String × Json)}
    {documents : List (String × Option (List Diagnostic))}
    (h : documents? (.obj fields) = some documents) :
    ∃ entries, List.Forall₂ (fun x y => x.1 = y.1 ∧ inner? x.2 = some y.2) fields entries ∧
      Sorted.ofList entries = documents := by
  rw [documents?_obj] at h
  obtain ⟨entries, hentries, hsorted⟩ := Option.map_eq_some_iff.mp h
  exact ⟨entries, entries_of_mapM hentries, hsorted⟩

/-- What is read of related documents. -/
structure Documents (fields : List (String × Json))
    (documents : List (String × Option (List Diagnostic))) : Prop where
  ascending : Sorted.Ascending documents
  lookup : ∀ uri, Option.Rel (fun j items => inner? j = some items) (fields.reverse.lookup uri)
    (documents.lookup uri)

theorem documents_of_documents? {fields : List (String × Json)}
    {documents : List (String × Option (List Diagnostic))}
    (h : documents? (.obj fields) = some documents) : Documents fields documents := by
  obtain ⟨entries, hentries, rfl⟩ := forall₂_of_documents? h
  refine ⟨Sorted.ascending_ofList entries, fun uri => ?_⟩
  rw [Sorted.lookup_ofList]
  exact Table.lookup_rel (List.forall₂_reverse_iff.mpr hentries) uri

/-- Related documents that are missing or null are none. -/
theorem documents_of_optional {get : Fields}
    {documents : Option (List (String × Option (List Diagnostic)))}
    (h : get.optional "relatedDocuments" documents? = some documents) :
    Documents (relatedFields get) (documents.getD []) ∧ (documents = none ↔
      get "relatedDocuments" = none ∨ get "relatedDocuments" = some .null) := by
  have hnone : Documents [] [] := ⟨List.Pairwise.nil, fun _ => .none⟩
  rcases Fields.optional_eq_some_iff.mp h with
    ⟨rfl, hmissing | hnull⟩ | ⟨j, documents, hj, hne, hread, rfl⟩
  · simp [relatedFields, hmissing, hnone]
  · simp [relatedFields, hnull, hnone]
  · cases j with
    | obj fields => simp [relatedFields, hj, documents_of_documents? hread]
    | _ => cases hread

theorem Documents.keys {fields : List (String × Json)}
    {documents : List (String × Option (List Diagnostic))} (h : Documents fields documents)
    (uri : String) : uri ∈ documents.map Prod.fst ↔ uri ∈ fields.map Prod.fst := by
  have hrel := h.lookup uri
  have hfields : (fields.reverse.lookup uri).isSome ↔ uri ∈ fields.map Prod.fst := by
    rw [Table.isSome_lookup_iff, List.map_reverse, List.mem_reverse]
  rw [← Table.isSome_lookup_iff, ← hfields]
  generalize fields.reverse.lookup uri = a, documents.lookup uri = b at hrel
  cases hrel <;> simp

theorem Documents.entries {fields : List (String × Json)}
    {documents : List (String × Option (List Diagnostic))} (h : Documents fields documents)
    {x : String × Option (List Diagnostic)} (hx : x ∈ documents) :
    ∃ report kind get, fields.reverse.lookup x.1 = some report ∧
      innerRecord? report = some (kind, get) ∧ Says get kind x.2 := by
  have hrel := h.lookup x.1
  rw [Sorted.lookup_of_mem h.ascending hx] at hrel
  generalize hreport : fields.reverse.lookup x.1 = a at hrel ⊢
  cases hrel with
  | @some report _ hinner =>
    obtain ⟨kind, get, hrecord, hsays⟩ := says_of_inner? hinner
    exact ⟨report, kind, get, rfl, hrecord, hsays⟩

theorem Documents.ascending_bytes {fields : List (String × Json)}
    {documents : List (String × Option (List Diagnostic))} (h : Documents fields documents) :
    (documents.map fun x => utf8Bytes x.1).Pairwise (· < ·) := by
  have hascending := List.pairwise_map.mp h.ascending
  exact List.pairwise_map.mpr (hascending.imp fun hlt => (lt_iff_utf8Bytes_lt _ _).mp hlt)

/-- What the fields of a report are read as. -/
theorem ofFields?_cases {kind : Kind} {get : Fields} {r : Report}
    (h : ofFields? (kind, get) = some r) :
    ∃ documents, get.optional "relatedDocuments" documents? = some documents ∧
      r.documents = documents.getD [] ∧ Says get kind r.own ∧
      ((∃ items, r = .direct items) ↔ kind = .full ∧ documents = none) := by
  cases kind with
  | full =>
    obtain ⟨items, hitems, h⟩ := Option.bind_eq_some_iff.mp h
    obtain ⟨documents, hdocuments, h⟩ := Option.bind_eq_some_iff.mp h
    have hsays := Says.full (items_of_items? hitems)
    cases documents with
    | none =>
      cases h
      exact ⟨none, hdocuments, rfl, hsays, by simp⟩
    | some documents =>
      cases h
      exact ⟨some documents, hdocuments, rfl, hsays, by simp⟩
  | unchanged =>
    obtain ⟨documents, hdocuments, h⟩ := Option.bind_eq_some_iff.mp h
    cases h
    exact ⟨documents, hdocuments, rfl, .unchanged, by simp⟩

theorem faithful {kind : Kind} {get : Fields} {r : Report}
    (h : ofFields? (kind, get) = some r) : Faithful kind get r := by
  obtain ⟨documents, hdocuments, hr, hsays, hdirect⟩ := ofFields?_cases h
  obtain ⟨hread, hnone⟩ := documents_of_optional hdocuments
  rw [hnone] at hdirect
  rw [← hr] at hread
  exact {
    own := hsays
    direct := hdirect
    ascending := hread.ascending_bytes
    keys := hread.keys
    entries := fun _ => hread.entries }

theorem ofAnswer_of_ne_null {j : Json} (h : j ≠ .null) :
    ofAnswer j = match read? j with
      | some report => .ok (some report)
      | none => .error .malformed := by
  unfold ofAnswer
  split
  · exact absurd rfl h
  · rfl

theorem read?_of_ofAnswer {j : Json} {r : Report} (h : ofAnswer j = .ok (some r)) :
    read? j = some r := by
  by_cases hnull : j = .null
  · subst hnull
    cases h
  · rw [ofAnswer_of_ne_null hnull] at h
    cases hread : read? j with
    | none =>
      rw [hread] at h
      cases h
    | some report =>
      rw [hread] at h
      cases h
      rfl

theorem faithful_of_ofAnswer {j : Json} {r : Report} (h : ofAnswer j = .ok (some r)) :
    ∃ kind get, outer? j = some (kind, get) ∧ Faithful kind get r := by
  have hread := read?_of_ofAnswer h
  rw [read?_eq] at hread
  obtain ⟨⟨kind, get⟩, hrecord, hfields⟩ := Option.bind_eq_some_iff.mp hread
  exact ⟨kind, get, hrecord, faithful hfields⟩

/-! ## Order -/

theorem documents?_perm {fields fields' : List (String × Json)}
    (h : (fields.map Prod.fst).Nodup) (hperm : fields.Perm fields') :
    documents? (.obj fields) = documents? (.obj fields') := by
  rw [documents?_obj, documents?_obj]
  let read (x : String × Json) : Option (String × Option (List Diagnostic)) :=
    (inner? x.2).map fun items => (x.1, items)
  have hrel := Json.mapM_perm (f := read) hperm
  change (fields.mapM read).map _ = (fields'.mapM read).map _
  generalize hentries : fields.mapM read = a, fields'.mapM read = b at hrel ⊢
  cases hrel with
  | none => rfl
  | some hentries' =>
    have hnames := Table.names_eq (R := fun j items => inner? j = some items)
      (entries_of_mapM hentries)
    exact congrArg some (Sorted.ofList_congr (hnames ▸ h) hentries')

/-- Answers that differ in the order of the reports on related documents. As in every object, no
two of these have one key. -/
inductive Reordered (j k : Json) : Prop
  | intro {kind : Kind} {get get' : Fields} {fields fields' : List (String × Json)}
      (hj : outer? j = some (kind, get)) (hk : outer? k = some (kind, get'))
      (hfields : get "relatedDocuments" = some (.obj fields))
      (hfields' : get' "relatedDocuments" = some (.obj fields'))
      (hdistinct : (fields.map Prod.fst).Nodup) (hperm : fields.Perm fields')
      (hothers : ∀ name ∈ kind.known.names, name ≠ "relatedDocuments" → get name = get' name)

theorem ofAnswer_reordered {j k : Json} (h : Reordered j k) : ofAnswer j = ofAnswer k := by
  obtain ⟨hj, hk, hfields, hfields', hdistinct, hperm, hothers⟩ := h
  rename_i kind get get' fields fields'
  have hnull {j : Json} {record : Kind × Fields} (h : outer? j = some record) : j ≠ .null := by
    rintro rfl
    cases h
  have hdocuments : get.optional "relatedDocuments" documents? =
      get'.optional "relatedDocuments" documents? := by
    rw [Fields.optional, Fields.optional, hfields, hfields']
    exact congrArg (Option.map some) (documents?_perm hdistinct hperm)
  have hread : read? j = read? k := by
    rw [read?_eq, read?_eq, hj, hk, Option.bind_some, Option.bind_some]
    cases kind with
    | full =>
      have hitems : items? get = items? get' := by
        rw [items?, items?, Fields.withDefault, Fields.withDefault,
          hothers "items" List.mem_cons_self (by decide)]
      rw [ofFields?, ofFields?, hitems, hdocuments]
    | unchanged => rw [ofFields?, ofFields?, hdocuments]
  rw [ofAnswer_of_ne_null (hnull hj), ofAnswer_of_ne_null (hnull hk), hread]

/-! ## Unknown fields -/

theorem items?_congr {known : Known} {get get' : Fields} (h : Fields.Alike known get get')
    (hmem : ("items", items) ∈ known) : items? get = items? get' := by
  have hread : ∀ j k, Record Diagnostic.known j k → Diagnostic.ofJson? j = Diagnostic.ofJson? k :=
    fun _ _ => Diagnostic.ofJson?_congr
  exact Fields.withDefault_congr h hmem [] fun _ _ => Elements.list?_congr hread

theorem inner?_congr {j k : Json} (h : Variant "kind" Kind.ofInnerTag? Kind.innerKnown j k) :
    inner? j = inner? k := by
  rw [inner?_eq, inner?_eq]
  refine Variant.variant?_congr (fun kind get get' halike => ?_) h
  cases kind with
  | full => exact congrArg (Option.map some) (items?_congr halike List.mem_cons_self)
  | unchanged => rfl

theorem documents?_congr {j k : Json} (h : relatedDocuments j k) :
    documents? j = documents? k := by
  cases h with
  | same => rfl
  | object h =>
    rw [documents?_obj, documents?_obj]
    refine congrArg _ (Json.mapM_congr (fun x y hxy => ?_) h)
    rw [hxy.1, inner?_congr hxy.2]

theorem ofFields?_congr {kind : Kind} {get get' : Fields}
    (h : Fields.Alike kind.known get get') : ofFields? (kind, get) = ofFields? (kind, get') := by
  cases kind with
  | full =>
    have hdocuments := Table.optional_congr h (List.mem_cons_of_mem _ List.mem_cons_self)
      fun _ _ => documents?_congr
    rw [ofFields?, ofFields?, items?_congr h List.mem_cons_self, hdocuments]
  | unchanged =>
    have hdocuments := Table.optional_congr h List.mem_cons_self fun _ _ => documents?_congr
    rw [ofFields?, ofFields?, hdocuments]

theorem read?_congr {j k : Json} (h : Alike j k) : read? j = read? k := by
  rw [read?_eq, read?_eq]
  exact Variant.variant?_congr (fun _ _ _ => ofFields?_congr) h

theorem ofAnswer_congr {j k : Json} (h : Alike j k) : ofAnswer j = ofAnswer k := by
  have hread := read?_congr h
  cases h with
  | same => rfl
  | object => rw [ofAnswer_of_ne_null (by simp), ofAnswer_of_ne_null (by simp), hread]
  | array => rw [ofAnswer_of_ne_null (by simp), ofAnswer_of_ne_null (by simp), hread]

theorem Kind.known_refl (kind : Kind) : ∀ x ∈ kind.known, ∀ j, x.2 j j := by
  intro x hx j
  cases kind with
  | full =>
    rcases List.mem_cons.mp hx with rfl | hx
    · exact .same j
    · rw [List.mem_singleton.mp hx]
      exact .same j
  | unchanged =>
    rw [List.mem_singleton.mp hx]
    exact .same j

/-- A field that the kind of a report does not have may be added to the report at any place. -/
theorem ofAnswer_extra {fs gs : List (String × Json)} {name : String} (htag : name ≠ "kind")
    (hname : ∀ kind, ((fs ++ gs).lookup "kind").bind Kind.ofLabel? = some kind →
      name ∉ kind.known.names) (value : Json) :
    ofAnswer (.obj (fs ++ (name, value) :: gs)) = ofAnswer (.obj (fs ++ gs)) :=
  (ofAnswer_congr (Variant.extra Kind.known_refl htag hname value)).symm

/-- An unchanged report has no items, so that it does not matter what its field of that name is. -/
example (value : Json) :
    ofAnswer (.obj [("kind", .str "unchanged"), ("items", value)]) =
      .ok (some (.related none [])) :=
  rfl

/-- An answer is read as no report exactly if it is null, and refused exactly if it has a defect.
A report that was read says all that its record says and nothing else, and answers that differ
in unknown fields, wherever those stand, are read alike. -/
theorem decoding (j : Json) :
    (ofAnswer j = .ok none ↔ j = .null) ∧
    (ofAnswer j = .error .malformed ↔ j ≠ .null ∧ Malformed j) ∧
    (∀ r, ofAnswer j = .ok (some r) →
      ∃ kind get, outer? j = some (kind, get) ∧ Faithful kind get r) ∧
    ∀ k, Alike j k → ofAnswer k = ofAnswer j := by
  have hunknown : ∀ k, Alike j k → ofAnswer k = ofAnswer j := fun k h => (ofAnswer_congr h).symm
  by_cases hnull : j = .null
  · subst hnull
    refine ⟨by simp [ofAnswer], by simp [ofAnswer], ?_, hunknown⟩
    intro r h
    cases h
  · have hread := ofAnswer_of_ne_null hnull
    refine ⟨?_, ?_, ?_, hunknown⟩
    · rw [hread]
      cases read? j <;> simp [hnull]
    · rw [hread, ← read?_eq_none_iff]
      cases read? j <;> simp [hnull]
    · intro r h
      rw [hread] at h
      cases hread : read? j with
      | none =>
        rw [hread] at h
        cases h
      | some r' =>
        rw [hread] at h
        cases h
        rw [read?_eq] at hread
        obtain ⟨⟨kind, get⟩, hrecord, hfields⟩ := Option.bind_eq_some_iff.mp hread
        exact ⟨kind, get, hrecord, faithful hfields⟩

end Report

end DocSync
