import DocSync.Json.Decode
import Mathlib.Data.List.Forall2
import Mathlib.Data.Option.Basic

/-!
# What readers look at

A reader of records looks up the fields that it knows and nothing else. Values are alike for a
reader if they differ only in fields that it does not know, at whatever depth, and no reader tells
values apart that are alike for it.
-/
namespace DocSync.Json

/-! ## Reading every element -/

section Elements

variable {α β : Type} {f : α → Option β}

theorem mapM_eq_some_iff {xs : List α} {ys : List β} :
    xs.mapM f = some ys ↔ List.Forall₂ (fun x y => f x = some y) xs ys := by
  induction xs generalizing ys with
  | nil => cases ys <;> simp
  | cons x xs ih =>
    cases ys with
    | nil => simp [List.mapM_cons, Option.bind_eq_some_iff]
    | cons y ys => simp [List.mapM_cons, Option.bind_eq_some_iff, ih]

theorem mapM_eq_none_iff {xs : List α} : xs.mapM f = none ↔ ∃ x ∈ xs, f x = none := by
  induction xs with
  | nil => simp
  | cons x xs ih =>
    simp only [List.mapM_cons, List.mem_cons, exists_eq_or_imp, ← ih]
    cases f x with
    | none => simp
    | some y => cases xs.mapM f <;> simp

theorem mapM_congr {R : α → α → Prop} (hf : ∀ x y, R x y → f x = f y) {xs ys : List α}
    (h : List.Forall₂ R xs ys) : xs.mapM f = ys.mapM f := by
  induction h with
  | nil => rfl
  | cons hxy _ ih => rw [List.mapM_cons, List.mapM_cons, hf _ _ hxy, ih]

theorem mapM_perm {xs ys : List α} (h : xs.Perm ys) :
    Option.Rel List.Perm (xs.mapM f) (ys.mapM f) := by
  induction h with
  | nil => exact .some .nil
  | @cons x xs ys _ ih =>
    rw [List.mapM_cons, List.mapM_cons]
    generalize xs.mapM f = a, ys.mapM f = b at ih
    cases f x with
    | none => exact .none
    | some y =>
      cases ih with
      | none => exact .none
      | some hperm => exact .some (hperm.cons y)
  | swap x y xs =>
    simp only [List.mapM_cons]
    cases f x <;> cases f y <;> cases xs.mapM f
    case some.some.some => exact .some (.swap ..)
    all_goals exact .none
  | @trans xs ys zs _ _ ih ih' =>
    generalize xs.mapM f = a, ys.mapM f = b, zs.mapM f = c at ih ih' ⊢
    cases ih with
    | none => exact ih'
    | some hab =>
      cases ih' with
      | some hbc => exact .some (hab.trans hbc)

end Elements

/-! ## Likeness -/

/-- When two values count as the same. -/
abbrev Likeness := Json → Json → Prop

/-- The fields that a reader knows of a record, in the order of declaration, each with what counts
as the same value of it. -/
abbrev Known := List (String × Likeness)

def Known.names (known : Known) : List String := known.map Prod.fst

/-- Known fields are there or missing alike. -/
def Fields.Alike (known : Known) (get get' : Fields) : Prop :=
  ∀ x ∈ known, Option.Rel x.2 (get x.1) (get' x.1)

/-- Records that are the same but for the fields that are not known. -/
inductive Record (known : Known) : Likeness
  | same (j : Json) : Record known j j
  | object {fs gs : List (String × Json)}
      (h : Fields.Alike known (fun name => fs.lookup name) fun name => gs.lookup name) :
      Record known (.obj fs) (.obj gs)
  | array {xs ys : List Json} (hlength : xs.length = ys.length)
      (h : Fields.Alike known (fun name => (known.names.zip xs).lookup name)
        fun name => (known.names.zip ys).lookup name) :
      Record known (.arr xs) (.arr ys)

/-- Arrays whose elements are alike. -/
inductive Elements (alike : Likeness) : Likeness
  | same (j : Json) : Elements alike j j
  | array {xs ys : List Json} (h : List.Forall₂ alike xs ys) : Elements alike (.arr xs) (.arr ys)

/-- Objects in which every key counts, with values that are alike. -/
inductive Table (alike : Likeness) : Likeness
  | same (j : Json) : Table alike j j
  | object {fs gs : List (String × Json)}
      (h : List.Forall₂ (fun x y => x.1 = y.1 ∧ alike x.2 y.2) fs gs) :
      Table alike (.obj fs) (.obj gs)

/-- Records of one of several kinds, with the same tag, and alike as records of its kind. -/
inductive Variant {κ : Type} (tagName : String) (kind? : Json → Option κ) (known : κ → Known) :
    Likeness
  | same (j : Json) : Variant tagName kind? known j j
  | object {fs gs : List (String × Json)} (htag : fs.lookup tagName = gs.lookup tagName)
      (h : ∀ kind, (fs.lookup tagName).bind kind? = some kind →
        Record (known kind) (.obj fs) (.obj gs)) :
      Variant tagName kind? known (.obj fs) (.obj gs)
  | array (tag : Json) {xs ys : List Json}
      (h : ∀ kind, kind? tag = some kind → Record (known kind) (.arr xs) (.arr ys)) :
      Variant tagName kind? known (.arr (tag :: xs)) (.arr (tag :: ys))

/-! ### Fields that are not known -/

theorem lookup_extra {fs gs : List (String × Json)} {name key : String} (value : Json)
    (h : key ≠ name) : (fs ++ (name, value) :: gs).lookup key = (fs ++ gs).lookup key := by
  rw [List.lookup_append, List.lookup_append, List.lookup_cons, beq_false_of_ne h]

/-- A field of another name may be added to an object at any place. -/
theorem Record.extra {known : Known} (hrefl : ∀ x ∈ known, ∀ j, x.2 j j) {name : String}
    (hname : name ∉ known.names) (value : Json) (fs gs : List (String × Json)) :
    Record known (.obj (fs ++ gs)) (.obj (fs ++ (name, value) :: gs)) := by
  refine .object fun x hx => ?_
  have hne : x.1 ≠ name := fun h => hname (h ▸ List.mem_map_of_mem hx)
  dsimp only
  rw [lookup_extra value hne]
  cases (fs ++ gs).lookup x.1 with
  | none => exact .none
  | some j => exact .some (hrefl x hx j)

theorem Variant.extra {κ : Type} {tagName : String} {kind? : Json → Option κ} {known : κ → Known}
    (hrefl : ∀ kind, ∀ x ∈ known kind, ∀ j, x.2 j j) {name : String} (htag : name ≠ tagName)
    {fs gs : List (String × Json)}
    (hname : ∀ kind, ((fs ++ gs).lookup tagName).bind kind? = some kind →
      name ∉ (known kind).names) (value : Json) :
    Variant tagName kind? known (.obj (fs ++ gs)) (.obj (fs ++ (name, value) :: gs)) :=
  .object (lookup_extra value htag.symm).symm fun kind hkind =>
    Record.extra (hrefl kind) (hname kind hkind) value fs gs

/-! ## Readers -/

theorem bool?_eq_some_iff {j : Json} {b : Bool} : j.bool? = some b ↔ j = .bool b := by
  cases j <;> simp [bool?]

theorem string?_eq_some_iff {j : Json} {text : String} : j.string? = some text ↔ j = .str text := by
  cases j <;> simp [string?]

/-- Words are the natural numbers below a power of two, written without fraction or exponent. -/
theorem word?_eq_some_iff {bits n : Nat} {j : Json} :
    j.word? bits = some n ↔ j = .ofNat n ∧ n < Nat.pow 2 bits := by
  unfold word? ofNat
  cases j with
  | num number =>
    cases number with
    | int i =>
      simp only [intIn?, num.injEq, Number.int.injEq]
      split_ifs with hin
      · simp only [Option.map_some, Option.some.injEq]
        omega
      · simp only [Option.map_none, reduceCtorEq, false_iff]
        omega
    | float => simp [intIn?]
  | _ => simp [intIn?]

theorem bool?_eq_none_iff {j : Json} : j.bool? = none ↔ ∀ b, j ≠ .bool b := by
  cases j <;> simp [bool?]

theorem string?_eq_none_iff {j : Json} : j.string? = none ↔ ∀ text, j ≠ .str text := by
  cases j <;> simp [string?]

theorem word?_eq_none_iff {bits : Nat} {j : Json} :
    j.word? bits = none ↔ ∀ n, n < Nat.pow 2 bits → j ≠ .ofNat n := by
  rw [Option.eq_none_iff_forall_ne_some]
  apply forall_congr'
  intro n
  rw [Ne, word?_eq_some_iff, not_and, imp_not_comm]

theorem list?_string?_eq_some_iff {j : Json} {texts : List String} :
    list? string? j = some texts ↔ j = .arr (texts.map .str) := by
  cases j with
  | arr items =>
    simp only [list?, array?, Option.bind_some, mapM_eq_some_iff, string?_eq_some_iff, arr.injEq]
    rw [← List.forall₂_eq_eq_eq, List.forall₂_map_right_iff]
  | _ => simp [list?, array?]

namespace Fields

variable {known : Known} {get get' : Fields} {alike : Likeness} {name : String} {α : Type}
  {read : Json → Option α}

theorem required_eq_some_iff {value : α} : get.required name read = some value ↔
    ∃ j, get name = some j ∧ read j = some value :=
  Option.bind_eq_some_iff

theorem required_string_iff {text : String} :
    get.required name string? = some text ↔ get name = some (.str text) := by
  simp [required_eq_some_iff, string?_eq_some_iff]

theorem required_string_eq_none_iff :
    get.required name string? = none ↔ ∀ text, get name ≠ some (.str text) := by
  simp only [Option.eq_none_iff_forall_ne_some, ne_eq, required_string_iff]

theorem required_word_iff {bits n : Nat} : get.required name (word? bits) = some n ↔
    get name = some (.ofNat n) ∧ n < Nat.pow 2 bits := by
  simp [required_eq_some_iff, word?_eq_some_iff]

/-- A field with a default is missing, or has a value that can be read. -/
theorem withDefault_eq_some_iff {default value : α} :
    get.withDefault name default read = some value ↔
      get name = none ∧ value = default ∨ ∃ j, get name = some j ∧ read j = some value := by
  unfold withDefault
  cases get name <;> simp [eq_comm]

theorem optional_of_ne_null {j : Json} (h : get name = some j) (hne : j ≠ .null) :
    get.optional name read = (read j).map some := by
  unfold optional
  rw [h]
  cases j <;> first | exact absurd rfl hne | rfl

/-- An optional field is absent, or has a value that can be read. -/
theorem optional_eq_some_iff {value : Option α} : get.optional name read = some value ↔
    value = none ∧ (get name = none ∨ get name = some .null) ∨
      ∃ j x, get name = some j ∧ j ≠ .null ∧ read j = some x ∧ value = some x := by
  constructor
  · intro h
    unfold optional at h
    split at h
    · rename_i hmissing
      cases h
      exact .inl ⟨rfl, .inl hmissing⟩
    · rename_i hnull
      cases h
      exact .inl ⟨rfl, .inr hnull⟩
    · rename_i j hne hj
      obtain ⟨x, hx, rfl⟩ := Option.map_eq_some_iff.mp h
      exact .inr ⟨j, x, hj, hne, hx, rfl⟩
  · rintro (⟨rfl, hmissing | hnull⟩ | ⟨j, x, hj, hne, hx, rfl⟩)
    · rw [optional, hmissing]
    · rw [optional, hnull]
    · rw [optional_of_ne_null hj hne, hx, Option.map_some]

theorem optional_eq_none_iff :
    get.optional name read = none ↔ ∃ j, get name = some j ∧ j ≠ .null ∧ read j = none := by
  constructor
  · intro h
    unfold optional at h
    split at h
    · cases h
    · cases h
    · rename_i j hne hj
      exact ⟨j, hj, hne, Option.map_eq_none_iff.mp h⟩
  · rintro ⟨j, hj, hne, hread⟩
    rw [optional_of_ne_null hj hne, hread, Option.map_none]

/-- What is made of an optional field, said by the value that is written for it. -/
theorem eq_of_optional {β : Type} (made : Option α → β) (said : Option Json → β)
    (hmissing : made none = said none) (hnull : made none = said (some .null))
    (hread : ∀ j x, read j = some x → made (some x) = said (some j)) {value : Option α}
    (h : get.optional name read = some value) : made value = said (get name) := by
  obtain ⟨rfl, hget | hget⟩ | ⟨j, x, hget, -, hx, rfl⟩ := optional_eq_some_iff.mp h
  · rw [hget, hmissing]
  · rw [hget, hnull]
  · rw [hget, hread j x hx]

/-- A field of which every value counts has the same one. -/
theorem Alike.value (h : Alike known get get') (hmem : (name, Eq) ∈ known) :
    get name = get' name := by
  have hfield := h _ hmem
  generalize get name = a, get' name = b at hfield ⊢
  cases hfield with
  | some hab => exact congrArg some hab
  | none => rfl

theorem required_congr (h : Alike known get get') (hmem : (name, alike) ∈ known)
    (hread : ∀ j k, alike j k → read j = read k) :
    get.required name read = get'.required name read := by
  have hfield := h _ hmem
  unfold required
  generalize get name = a, get' name = b at hfield ⊢
  cases hfield with
  | some hab => exact hread _ _ hab
  | none => rfl

theorem withDefault_congr (h : Alike known get get') (hmem : (name, alike) ∈ known)
    (default : α) (hread : ∀ j k, alike j k → read j = read k) :
    get.withDefault name default read = get'.withDefault name default read := by
  have hfield := h _ hmem
  unfold withDefault
  generalize get name = a, get' name = b at hfield ⊢
  cases hfield with
  | some hab => exact hread _ _ hab
  | none => rfl

theorem optional_congr (h : Alike known get get') (hmem : (name, alike) ∈ known)
    (hnull : ∀ j k, alike j k → (j = .null ↔ k = .null))
    (hread : ∀ j k, alike j k → read j = read k) :
    get.optional name read = get'.optional name read := by
  have hfield := h _ hmem
  generalize ha : get name = a, hb : get' name = b at hfield
  cases hfield with
  | none => rw [optional, optional, ha, hb]
  | @some j k hab =>
    by_cases hj : j = .null
    · rw [optional, optional, ha, hb, hj, (hnull _ _ hab).mp hj]
    · have hk : k ≠ .null := mt (hnull _ _ hab).mpr hj
      rw [optional_of_ne_null ha hj, optional_of_ne_null hb hk, hread _ _ hab]

end Fields

theorem Record.null_iff {known : Known} {j k : Json} (h : Record known j k) :
    j = .null ↔ k = .null := by
  cases h <;> simp

theorem Table.null_iff {alike : Likeness} {j k : Json} (h : Table alike j k) :
    j = .null ↔ k = .null := by
  cases h <;> simp

theorem Table.optional_congr {known : Known} {get get' : Fields} (h : Fields.Alike known get get')
    {alike : Likeness} {name : String} (hmem : (name, Table alike) ∈ known) {α : Type}
    {read : Json → Option α} (hread : ∀ j k, Table alike j k → read j = read k) :
    get.optional name read = get'.optional name read :=
  Fields.optional_congr h hmem (fun _ _ => Table.null_iff) hread

theorem Elements.list?_congr {alike : Likeness} {α : Type} {read : Json → Option α}
    (hread : ∀ j k, alike j k → read j = read k) {j k : Json} (h : Elements alike j k) :
    list? read j = list? read k := by
  cases h with
  | same => rfl
  | array h => exact mapM_congr hread h

theorem Record.fields?_congr {known : Known} {α : Type} {read : Fields → Option α}
    (hread : ∀ get get', Fields.Alike known get get' → read get = read get') {j k : Json}
    (h : Record known j k) :
    (j.fields? known.names).bind read = (k.fields? known.names).bind read := by
  cases h with
  | same => rfl
  | object h => exact hread _ _ h
  | @array xs ys hlength h =>
    unfold fields?
    dsimp only
    rw [hlength]
    split_ifs
    · exact hread _ _ h
    · rfl

/-! ### Records of two fields -/

/-- A record of two fields that both have to be there, with their values. -/
inductive Pair (first second : String) (x y : Json) : Json → Prop
  | object {fs : List (String × Json)} (hfirst : fs.lookup first = some x)
      (hsecond : fs.lookup second = some y) : Pair first second x y (.obj fs)
  | array : Pair first second x y (.arr [x, y])

theorem pair_iff {first second : String} (hne : second ≠ first) {x y j : Json} :
    Pair first second x y j ↔
      ∃ get, j.fields? [first, second] = some get ∧ get first = some x ∧ get second = some y := by
  constructor
  · intro h
    cases h with
    | object hfirst hsecond => exact ⟨_, rfl, hfirst, hsecond⟩
    | array => exact ⟨_, rfl, by simp, by simp [List.lookup_cons, beq_false_of_ne hne]⟩
  · rintro ⟨get, hget, hfirst, hsecond⟩
    unfold fields? at hget
    split at hget
    · cases hget
      exact .object hfirst hsecond
    · split_ifs at hget with hlength
      cases hget
      rename_i items
      rcases items with _ | ⟨a, _ | ⟨b, _ | ⟨c, rest⟩⟩⟩
      · cases hfirst
      · simp [List.lookup_cons, beq_false_of_ne hne] at hsecond
      · simp only [List.zip_cons_cons, List.lookup_cons, beq_self_eq_true, beq_false_of_ne hne,
          Option.some.injEq] at hfirst hsecond
        rw [hfirst, hsecond]
        exact .array
      · exact absurd hlength (by simp)
    · cases hget

/-! ### Records of several kinds -/

section Variants

variable {κ : Type} {tagName : String} {kind? : Json → Option κ}

/-- The kind of a record and how to find its fields. -/
def variant? (tagName : String) (kind? : Json → Option κ) (names : κ → List String) (j : Json) :
    Option (κ × Fields) := do
  let tagged ← j.tagged? tagName
  let kind ← kind? tagged.tag
  let get ← tagged.body.fields? (names kind)
  some (kind, get)

/-- What is no record of any of the kinds. -/
inductive NoVariant (tagName : String) (kind? : Json → Option κ) (names : κ → List String)
    (j : Json) : Prop
  | untagged (h : j.tagged? tagName = none)
  | kind {tag body : Json} (h : j.tagged? tagName = some ⟨tag, body⟩) (hkind : kind? tag = none)
  /-- Written as an array that is longer than the record has fields. -/
  | surplus {tag : Json} {items : List Json} {kind : κ}
      (h : j.tagged? tagName = some ⟨tag, .arr items⟩) (hkind : kind? tag = some kind)
      (hlong : (names kind).length < items.length)

/-- The fields of a tagged record can be found unless there are too many. -/
theorem fields?_of_tagged? {j tag body : Json} (h : j.tagged? tagName = some ⟨tag, body⟩)
    {names : List String} (hbody : body.fields? names = none) :
    ∃ items, body = .arr items ∧ names.length < items.length := by
  unfold tagged? at h
  split at h
  · obtain ⟨_, _, hbody'⟩ := Option.map_eq_some_iff.mp h
    cases hbody'
    cases hbody
  · cases h
    unfold fields? at hbody
    dsimp only at hbody
    split_ifs at hbody with hle
    exact ⟨_, rfl, Nat.not_le.mp hle⟩
  · cases h

theorem variant?_eq_none_iff {names : κ → List String} {j : Json} :
    variant? tagName kind? names j = none ↔ NoVariant tagName kind? names j := by
  constructor
  · intro h
    cases htagged : j.tagged? tagName with
    | none => exact .untagged htagged
    | some tagged =>
      obtain ⟨tag, body⟩ := tagged
      cases hkind : kind? tag with
      | none => exact .kind htagged hkind
      | some kind =>
        cases hfields : body.fields? (names kind) with
        | none =>
          obtain ⟨items, rfl, hlong⟩ := fields?_of_tagged? htagged hfields
          exact .surplus htagged hkind hlong
        | some get => simp [variant?, htagged, hkind, hfields] at h
  · intro h
    cases h with
    | untagged h => simp [variant?, h]
    | kind h hkind => simp [variant?, h, hkind]
    | surplus h hkind hlong => simp [variant?, h, hkind, fields?, hlong]

theorem Variant.variant?_congr {known : κ → Known} {α : Type} {read : κ × Fields → Option α}
    (hread : ∀ kind get get', Fields.Alike (known kind) get get' →
      read (kind, get) = read (kind, get'))
    {j k : Json} (h : Variant tagName kind? known j k) :
    (variant? tagName kind? (fun kind => (known kind).names) j).bind read =
      (variant? tagName kind? (fun kind => (known kind).names) k).bind read := by
  have hrecord (kind : κ) {j k : Json} (h : Record (known kind) j k) :
      (j.fields? (known kind).names).bind (fun get => read (kind, get)) =
        (k.fields? (known kind).names).bind fun get => read (kind, get) :=
    h.fields?_congr (hread kind)
  cases h with
  | same => rfl
  | @object fs gs htag h =>
    unfold variant? tagged?
    cases hlookup : fs.lookup tagName with
    | none => simp [← htag, hlookup]
    | some tag =>
      cases hkind : kind? tag with
      | none => simp [← htag, hlookup, hkind]
      | some kind =>
        have hlike := hrecord kind (h kind (by rw [hlookup]; exact hkind))
        simpa [← htag, hlookup, hkind, Option.bind_assoc] using hlike
  | @array tag xs ys h =>
    unfold variant? tagged?
    cases hkind : kind? tag with
    | none => simp [hkind]
    | some kind => simpa [hkind, Option.bind_assoc] using hrecord kind (h kind hkind)

end Variants

end DocSync.Json
