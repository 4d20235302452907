import DocSync.Proofs.Json.Reading
import DocSync.Server.Policy

/-!
# What a server wants

An entry on synchronization counts as a whole or not at all: one malformed part, however deep, and
the server has said nothing. In an entry that is well formed each option is taken for itself.
-/
namespace DocSync

open Json (Fields Known Likeness Record)

/-! ## Malformed entries -/

namespace SaveCapability

/-- What keeps a value from being read as a wish about saving. -/
inductive Malformed : Json → Prop
  | shape {j : Json} (hflag : ∀ wanted, j ≠ .bool wanted) (hobject : ∀ fields, j ≠ .obj fields) :
      Malformed j
  | includeText {fields : List (String × Json)} {written : Json}
      (h : fields.lookup "includeText" = some written) (hnull : written ≠ .null)
      (hbad : ∀ wanted, written ≠ .bool wanted) : Malformed (.obj fields)

theorem ofJson?_obj (fields : List (String × Json)) : ofJson? (.obj fields) =
    (Fields.optional (fun name => fields.lookup name) "includeText" Json.bool?).map options := by
  rw [Option.map_eq_bind]
  rfl

theorem ofJson?_eq_none_iff {j : Json} : ofJson? j = none ↔ Malformed j := by
  constructor
  · intro h
    cases j with
    | bool wanted => cases h
    | obj fields =>
      rw [ofJson?_obj, Option.map_eq_none_iff, Fields.optional_eq_none_iff] at h
      obtain ⟨written, hwritten, hnull, hbad⟩ := h
      exact .includeText hwritten hnull (Json.bool?_eq_none_iff.mp hbad)
    | _ => exact .shape nofun nofun
  · intro h
    cases h with
    | shape hflag hobject =>
      cases j with
      | bool wanted => exact absurd rfl (hflag wanted)
      | obj fields => exact absurd rfl (hobject fields)
      | _ => rfl
    | includeText hwritten hnull hbad =>
      rw [ofJson?_obj, Option.map_eq_none_iff, Fields.optional_eq_none_iff]
      exact ⟨_, hwritten, hnull, Json.bool?_eq_none_iff.mpr hbad⟩

end SaveCapability

namespace SyncCapability

/-- What keeps a value from being read as an entry on synchronization. -/
inductive Malformed (j : Json) : Prop
  /-- Neither a number of a kind nor a record; an array with more items than there are options
  is none. -/
  | shape (hnumber : ∀ n, n < Nat.pow 2 64 → j ≠ .ofNat n) (h : j.fields? fieldNames = none)
  | openClose {get : Fields} {written : Json} (h : j.fields? fieldNames = some get)
      (hwritten : get "openClose" = some written) (hnull : written ≠ .null)
      (hbad : ∀ wanted, written ≠ .bool wanted)
  /-- Among these are numbers below 0 and fractions. -/
  | change {get : Fields} {written : Json} (h : j.fields? fieldNames = some get)
      (hwritten : get "change" = some written) (hnull : written ≠ .null)
      (hbad : ∀ n, n < Nat.pow 2 64 → written ≠ .ofNat n)
  | save {get : Fields} {written : Json} (h : j.fields? fieldNames = some get)
      (hwritten : get "save" = some written) (hnull : written ≠ .null)
      (hbad : SaveCapability.Malformed written)

/-- Options that can all be read. -/
structure Reads (get : Fields) (openClose : Option Bool) (change : Option Nat)
    (save : Option SaveCapability) : Prop where
  openClose : get.optional "openClose" Json.bool? = some openClose
  change : get.optional "change" (Json.word? 64) = some change
  save : get.optional "save" SaveCapability.ofJson? = some save

theorem word?_of_fields? {j : Json} {get : Fields} (h : j.fields? fieldNames = some get)
    (bits : Nat) : j.word? bits = none := by
  cases j <;> first | rfl | cases h

theorem ofJson?_of_fields? {j : Json} {get : Fields} (h : j.fields? fieldNames = some get) :
    ofJson? j = (get.optional "openClose" Json.bool?).bind fun openClose =>
      (get.optional "change" (Json.word? 64)).bind fun change =>
      (get.optional "save" SaveCapability.ofJson?).bind fun save =>
      some (options openClose change save) := by
  simp only [ofJson?, word?_of_fields? h, optionsOfJson?, h, Option.bind_eq_bind, Option.bind_some]

theorem Reads.ofJson? {j : Json} {get : Fields} {openClose : Option Bool} {change : Option Nat}
    {save : Option SaveCapability} (h : Reads get openClose change save)
    (hget : j.fields? fieldNames = some get) :
    SyncCapability.ofJson? j = some (options openClose change save) := by
  simp only [ofJson?_of_fields? hget, h.openClose, h.change, h.save, Option.bind_some]

/-- A record has a malformed option, or all of its options can be read. -/
theorem malformed_or_reads {j : Json} {get : Fields} (h : j.fields? fieldNames = some get) :
    Malformed j ∨ ∃ openClose change save, Reads get openClose change save := by
  cases hopenClose : get.optional "openClose" Json.bool? with
  | none =>
    obtain ⟨written, hwritten, hnull, hbad⟩ := Fields.optional_eq_none_iff.mp hopenClose
    exact .inl (.openClose h hwritten hnull (Json.bool?_eq_none_iff.mp hbad))
  | some openClose =>
    cases hchange : get.optional "change" (Json.word? 64) with
    | none =>
      obtain ⟨written, hwritten, hnull, hbad⟩ := Fields.optional_eq_none_iff.mp hchange
      exact .inl (.change h hwritten hnull (Json.word?_eq_none_iff.mp hbad))
    | some change =>
      cases hsave : get.optional "save" SaveCapability.ofJson? with
      | none =>
        obtain ⟨written, hwritten, hnull, hbad⟩ := Fields.optional_eq_none_iff.mp hsave
        exact .inl (.save h hwritten hnull (SaveCapability.ofJson?_eq_none_iff.mp hbad))
      | some save => exact .inr ⟨openClose, change, save, hopenClose, hchange, hsave⟩

theorem Malformed.ofJson? {j : Json} (h : Malformed j) : SyncCapability.ofJson? j = none := by
  cases h with
  | shape hnumber h =>
    simp only [SyncCapability.ofJson?, Json.word?_eq_none_iff.mpr hnumber, optionsOfJson?, h,
      Option.bind_eq_bind, Option.bind_none]
  | openClose h hwritten hnull hbad =>
    have hnone := Fields.optional_eq_none_iff.mpr
      ⟨_, hwritten, hnull, Json.bool?_eq_none_iff.mpr hbad⟩
    simp [ofJson?_of_fields? h, hnone]
  | change h hwritten hnull hbad =>
    have hnone := Fields.optional_eq_none_iff.mpr
      ⟨_, hwritten, hnull, Json.word?_eq_none_iff.mpr hbad⟩
    simp [ofJson?_of_fields? h, hnone]
  | save h hwritten hnull hbad =>
    have hnone := Fields.optional_eq_none_iff.mpr
      ⟨_, hwritten, hnull, SaveCapability.ofJson?_eq_none_iff.mpr hbad⟩
    simp [ofJson?_of_fields? h, hnone]

theorem ofJson?_eq_none_iff {j : Json} : ofJson? j = none ↔ Malformed j := by
  refine ⟨fun h => ?_, Malformed.ofJson?⟩
  cases hword : j.word? 64 with
  | some n => simp [ofJson?, hword] at h
  | none =>
    cases hget : j.fields? fieldNames with
    | none => exact .shape (Json.word?_eq_none_iff.mp hword) hget
    | some get =>
      obtain hbad | ⟨openClose, change, save, hreads⟩ := malformed_or_reads hget
      · exact hbad
      · rw [hreads.ofJson? hget] at h
        cases h

end SyncCapability

/-! ## One option at a time -/

/-- Whether an option is switched on. -/
def Json.isOn : Option Json → Bool
  | some (.bool wanted) => wanted
  | _ => false

/-- What a number asks for: 0 for no word on changes, 2 for the replaced spans, and every other one
for the full text. -/
def SyncKind.asked (n : Nat) : SyncKind :=
  if n = 0 then .none else if n = 2 then .incremental else .full

/-- What the option on changes asks for; the full text if it is missing. -/
def SyncKind.ofOption : Option Json → SyncKind
  | some (.num (.int (.ofNat n))) => asked n
  | _ => .full

/-- What the option on saving asks for. -/
def SavePolicy.ofOption : Option Json → SavePolicy
  | some (.bool true) => .notify
  | some (.obj fields) =>
    if Json.isOn (fields.lookup "includeText") then .notifyWithText else .notify
  | _ => .disabled

section Options

variable {get : Fields} {name : String}

theorem getD_of_optional {wanted : Option Bool}
    (h : get.optional name Json.bool? = some wanted) : wanted.getD false = Json.isOn (get name) := by
  refine Fields.eq_of_optional (fun wanted => wanted.getD false) Json.isOn rfl rfl ?_ h
  intro j b hread
  obtain rfl := Json.bool?_eq_some_iff.mp hread
  rfl

theorem SyncPolicy.kindOrFull_some (n : Nat) : kindOrFull (some n) = .asked n := by
  unfold kindOrFull SyncKind.asked
  rcases n with _ | _ | _ | n
  · rfl
  · rfl
  · rfl
  · simp [SyncKind.ofNumber?]

theorem kindOrFull_of_optional {change : Option Nat} {bits : Nat}
    (h : get.optional name (Json.word? bits) = some change) :
    SyncPolicy.kindOrFull change = .ofOption (get name) := by
  refine Fields.eq_of_optional SyncPolicy.kindOrFull SyncKind.ofOption rfl rfl ?_ h
  intro j n hread
  obtain ⟨rfl, -⟩ := Json.word?_eq_some_iff.mp hread
  exact SyncPolicy.kindOrFull_some n

theorem ofCapability_of_optional {save : Option SaveCapability}
    (h : get.optional name SaveCapability.ofJson? = some save) :
    SavePolicy.ofCapability save = .ofOption (get name) := by
  refine Fields.eq_of_optional SavePolicy.ofCapability SavePolicy.ofOption rfl rfl ?_ h
  intro j c hread
  cases j with
  | bool wanted =>
    cases hread
    cases wanted <;> rfl
  | obj fields =>
    rw [SaveCapability.ofJson?_obj] at hread
    obtain ⟨includeText, hincludeText, rfl⟩ := Option.map_eq_some_iff.mp hread
    have hon := getD_of_optional hincludeText
    unfold SavePolicy.ofCapability SavePolicy.ofOption
    dsimp only
    rw [hon]
  | _ => cases hread

end Options

/-! ## Fields that are not known -/

def SaveCapability.known : Known := [("includeText", Eq)]

def SyncCapability.known : Known :=
  [("openClose", Eq), ("change", Eq), ("save", Record SaveCapability.known)]

theorem SaveCapability.ofJson?_congr {j k : Json} (h : Record known j k) :
    ofJson? j = ofJson? k := by
  cases h with
  | same => rfl
  | object halike =>
    have hmem : ("includeText", Eq) ∈ known := List.mem_cons_self
    rw [ofJson?_obj, ofJson?_obj, Fields.optional, Fields.optional, halike.value hmem]
  | array => rfl

theorem SyncCapability.optionsOfJson?_congr {j k : Json} (h : Record known j k) :
    optionsOfJson? j = optionsOfJson? k := by
  refine Record.fields?_congr (fun get get' halike => ?_) h
  have hopenClose : get "openClose" = get' "openClose" := halike.value (by simp [known])
  have hchange : get "change" = get' "change" := halike.value (by simp [known])
  have hmem : ("save", Record SaveCapability.known) ∈ known := by simp [known]
  have hsave := Fields.optional_congr halike hmem (fun _ _ => Record.null_iff)
    fun _ _ => SaveCapability.ofJson?_congr
  simp only [Fields.optional, hopenClose, hchange] at hsave ⊢
  rw [hsave]

theorem SyncCapability.ofJson?_congr {j k : Json} (h : Record known j k) :
    ofJson? j = ofJson? k := by
  have hword : j.word? 64 = k.word? 64 := by cases h <;> rfl
  rw [ofJson?, ofJson?, hword, optionsOfJson?_congr h]

/-! ## Policies -/

namespace SyncPolicy

/-- Capabilities that differ only in fields that are not known where they stand. -/
def Alike : Likeness := Record [("textDocumentSync", Record SyncCapability.known)]

/-- Capabilities that say nothing on synchronization, or nothing that counts. -/
inductive Silent : Json → Prop
  | noObject {capabilities : Json} (h : ∀ fields, capabilities ≠ .obj fields) : Silent capabilities
  | missing {fields : List (String × Json)} (h : fields.lookup "textDocumentSync" = none) :
      Silent (.obj fields)
  | null {fields : List (String × Json)} (h : fields.lookup "textDocumentSync" = some .null) :
      Silent (.obj fields)
  | malformed {fields : List (String × Json)} {entry : Json}
      (h : fields.lookup "textDocumentSync" = some entry) (hbad : SyncCapability.Malformed entry) :
      Silent (.obj fields)

/-- The policy that options ask for, each of them by itself. -/
def ofOptions (get : Fields) : SyncPolicy where
  kind := .ofOption (get "change")
  openClose := Json.isOn (get "openClose")
  save := .ofOption (get "save")

theorem ofServer_of_entry {capabilities entry : Json} {c : SyncCapability}
    (h : capabilities.field? "textDocumentSync" = some entry)
    (hread : SyncCapability.ofJson? entry = some c) :
    ofServer capabilities = ofCapability (some c) := by
  rw [ofServer, h, Option.bind_some, hread]

theorem ofServer_of_silent {capabilities : Json} (h : Silent capabilities) :
    ofServer capabilities = ⟨.full, true, .disabled⟩ := by
  cases h with
  | noObject h =>
    cases capabilities with
    | obj fields => exact absurd rfl (h fields)
    | _ => rfl
  | missing h => rw [ofServer, Json.field?, h]; rfl
  | null h => rw [ofServer, Json.field?, h]; rfl
  | malformed h hbad => rw [ofServer, Json.field?, h, Option.bind_some, hbad.ofJson?]; rfl

theorem ofCapability_of_reads {get : Fields} {openClose : Option Bool} {change : Option Nat}
    {save : Option SaveCapability} (h : SyncCapability.Reads get openClose change save) :
    ofCapability (some (.options openClose change save)) = ofOptions get := by
  unfold ofCapability ofOptions
  dsimp only
  rw [getD_of_optional h.openClose, kindOrFull_of_optional h.change,
    ofCapability_of_optional h.save]

theorem ofServer_congr {j k : Json} (h : Alike j k) : ofServer j = ofServer k := by
  cases h with
  | same => rfl
  | @object fs gs halike =>
    have hentry := halike _ List.mem_cons_self
    unfold ofServer Json.field?
    dsimp only at hentry ⊢
    generalize fs.lookup "textDocumentSync" = a, gs.lookup "textDocumentSync" = b at hentry ⊢
    cases hentry with
    | none => rfl
    | some hab => rw [Option.bind_some, Option.bind_some, SyncCapability.ofJson?_congr hab]
  | array => rfl

/-- How the policy for a server follows from its capabilities. -/
structure FollowsFrom (capabilities : Json) : Prop where
  silent : Silent capabilities → ofServer capabilities = ⟨.full, true, .disabled⟩
  number : ∀ n, n < Nat.pow 2 64 → capabilities.field? "textDocumentSync" = some (.ofNat n) →
    ofServer capabilities = ⟨.asked n, true, .disabled⟩
  options : ∀ entry get, capabilities.field? "textDocumentSync" = some entry →
    entry.fields? SyncCapability.fieldNames = some get → ¬ SyncCapability.Malformed entry →
    ofServer capabilities = ofOptions get
  unknown : ∀ other, Alike capabilities other → ofServer other = ofServer capabilities
  agrees : ∀ entry c, capabilities.field? "textDocumentSync" = some entry →
    SyncCapability.ofJson? entry = some c →
    ofServer capabilities = ofCapability (some c) ∧ c.syncKind = (ofServer capabilities).kind

/-- An entry is refused exactly if some part of it is malformed, and then it counts for nothing;
otherwise all of its options count, each by itself. -/
theorem whole_or_nothing :
    (∀ entry, SyncCapability.ofJson? entry = none ↔ SyncCapability.Malformed entry) ∧
      ∀ capabilities, FollowsFrom capabilities := by
  refine ⟨fun entry => SyncCapability.ofJson?_eq_none_iff, fun capabilities =>
    ⟨ofServer_of_silent, ?number, ?options, fun other h => (ofServer_congr h).symm, ?agrees⟩⟩
  case number =>
    intro n hn h
    have hread : SyncCapability.ofJson? (.ofNat n) = some (.kind n) := by
      rw [SyncCapability.ofJson?, Json.word?_eq_some_iff.mpr ⟨rfl, hn⟩]
    rw [ofServer_of_entry h hread, ofCapability, kindOrFull_some]
  case options =>
    intro entry get h hget hwell
    obtain hbad | ⟨openClose, change, save, hreads⟩ := SyncCapability.malformed_or_reads hget
    · exact absurd hbad hwell
    · rw [ofServer_of_entry h (hreads.ofJson? hget), ofCapability_of_reads hreads]
  case agrees =>
    intro entry c h hread
    have hserver := ofServer_of_entry h hread
    exact ⟨hserver, by rw [hserver, SyncCapability.syncKind]⟩

/-- A text where a flag belongs, at the innermost place, and a number of no kind, which harms nothing
else. -/
theorem whole_or_nothing_innermost :
    let malformed : Json := .obj [("textDocumentSync", .obj [
      ("change", .ofNat 2), ("save", .obj [("includeText", .str "yes")])])]
    let options := [.bool true, .ofNat 7, .obj [("includeText", .bool true), ("other", .null)]]
    let wellFormed : Json := .obj [("textDocumentSync", .arr options)]
    ofServer malformed = ⟨.full, true, .disabled⟩ ∧
      ofServer wellFormed = ⟨.full, true, .notifyWithText⟩ := by
  intro malformed options wellFormed
  have hsave : SaveCapability.Malformed (.obj [("includeText", .str "yes")]) :=
    .includeText rfl nofun nofun
  have hwell : ¬ SyncCapability.Malformed (.arr options) := by
    intro h
    have hnone := (whole_or_nothing.1 _).mpr h
    exact absurd hnone (by decide)
  refine ⟨(whole_or_nothing.2 malformed).silent (.malformed rfl (.save rfl rfl nofun hsave)), ?_⟩
  rw [(whole_or_nothing.2 wellFormed).options (.arr options) _ rfl rfl hwell]
  rfl

end SyncPolicy

end DocSync
