import DocSync.Proofs.Json.Reading
import DocSync.Wire.Notification

/-!
# Changes that come back from the wire

A change has two written forms, and what is needed for the shorter one is part of the longer one. A
reader takes the longer form for what it is, whenever all of it is there and well formed, and falls
back on the shorter one. So a change that is written and read again is the same change, and a change
that was read can be written and read once more.
-/
namespace DocSync

open Json (Fields)

/-! ## Positions and spans -/

namespace Position

variable {p : Position}

/-- A position that a message can hold. -/
def Fits (p : Position) : Prop := p.line < Nat.pow 2 32 ∧ p.character < Nat.pow 2 32

/-- A value that is well formed as a position, and the position that it is. -/
def WellFormed (j : Json) (p : Position) : Prop :=
  p.Fits ∧ Json.Pair "line" "character" (.ofNat p.line) (.ofNat p.character) j

theorem ofJson?_eq_some_iff {j : Json} : ofJson? j = some p ↔ WellFormed j p := by
  unfold ofJson? WellFormed
  rw [Json.pair_iff (by decide)]
  constructor
  · intro h
    obtain ⟨get, hget, h⟩ := Option.bind_eq_some_iff.mp h
    obtain ⟨line, hline, h⟩ := Option.bind_eq_some_iff.mp h
    obtain ⟨character, hcharacter, h⟩ := Option.bind_eq_some_iff.mp h
    cases h
    obtain ⟨hline, hfits⟩ := Fields.required_word_iff.mp hline
    obtain ⟨hcharacter, hfits'⟩ := Fields.required_word_iff.mp hcharacter
    exact ⟨⟨hfits, hfits'⟩, get, hget, hline, hcharacter⟩
  · rintro ⟨⟨hfits, hfits'⟩, get, hget, hline, hcharacter⟩
    simp only [hget, Fields.required_word_iff.mpr ⟨hline, hfits⟩,
      Fields.required_word_iff.mpr ⟨hcharacter, hfits'⟩, Option.bind_eq_bind, Option.bind_some]

theorem Fits.wellFormed (h : p.Fits) : WellFormed p.toJson p := ⟨h, .object rfl rfl⟩

end Position

namespace Span

variable {s : Span}

/-- A span that a message can hold. -/
def Fits (s : Span) : Prop := s.start.Fits ∧ s.stop.Fits

/-- A value that is well formed as a span, and the span that it is. -/
def WellFormed (j : Json) (s : Span) : Prop :=
  ∃ start stop, Position.WellFormed start s.start ∧ Position.WellFormed stop s.stop ∧
    Json.Pair "start" "end" start stop j

theorem ofJson?_eq_some_iff {j : Json} : ofJson? j = some s ↔ WellFormed j s := by
  unfold ofJson? WellFormed
  constructor
  · intro h
    obtain ⟨get, hget, h⟩ := Option.bind_eq_some_iff.mp h
    obtain ⟨start, hstart, h⟩ := Option.bind_eq_some_iff.mp h
    obtain ⟨stop, hstop, h⟩ := Option.bind_eq_some_iff.mp h
    cases h
    obtain ⟨written, hwritten, hstart⟩ := Fields.required_eq_some_iff.mp hstart
    obtain ⟨written', hwritten', hstop⟩ := Fields.required_eq_some_iff.mp hstop
    exact ⟨written, written', Position.ofJson?_eq_some_iff.mp hstart,
      Position.ofJson?_eq_some_iff.mp hstop,
      (Json.pair_iff (by decide)).mpr ⟨get, hget, hwritten, hwritten'⟩⟩
  · rintro ⟨written, written', hstart, hstop, hpair⟩
    obtain ⟨get, hget, hwritten, hwritten'⟩ := (Json.pair_iff (by decide)).mp hpair
    have hstart : get.required "start" Position.ofJson? = some s.start :=
      Fields.required_eq_some_iff.mpr ⟨written, hwritten, Position.ofJson?_eq_some_iff.mpr hstart⟩
    have hstop : get.required "end" Position.ofJson? = some s.stop :=
      Fields.required_eq_some_iff.mpr ⟨written', hwritten', Position.ofJson?_eq_some_iff.mpr hstop⟩
    simp only [hget, hstart, hstop, Option.bind_eq_bind, Option.bind_some]

theorem Fits.wellFormed (h : s.Fits) : WellFormed s.toJson s :=
  ⟨_, _, h.1.wellFormed, h.2.wellFormed, .object rfl rfl⟩

theorem WellFormed.fits {j : Json} (h : WellFormed j s) : s.Fits := by
  obtain ⟨_, _, hstart, hstop, -⟩ := h
  exact ⟨hstart.1, hstop.1⟩

end Span

/-! ## Changes -/

namespace Change

variable {c : Change} {j : Json} {fields : List (String × Json)}

/-- A change that a message can hold. -/
def Fits : Change → Prop
  | .full _ => True
  | .incremental span rangeLength _ => span.Fits ∧ rangeLength < Nat.pow 2 32

/-- An object with all that an incremental change needs, well formed. A length that is missing
is 0. -/
structure Incremental (fields : List (String × Json)) (span : Span) (rangeLength : Nat)
    (text : String) : Prop where
  range : ∃ written, fields.lookup "range" = some written ∧ Span.WellFormed written span
  rangeLength : fields.lookup "rangeLength" = none ∧ rangeLength = 0 ∨
    fields.lookup "rangeLength" = some (.ofNat rangeLength) ∧ rangeLength < Nat.pow 2 32
  text : fields.lookup "text" = some (.str text)

theorem Incremental.fits {span : Span} {rangeLength : Nat} {text : String}
    (h : Incremental fields span rangeLength text) : (incremental span rangeLength text).Fits := by
  obtain ⟨written, -, hspan⟩ := h.range
  refine ⟨hspan.fits, ?_⟩
  obtain ⟨-, rfl⟩ | ⟨-, hlength⟩ := h.rangeLength
  · decide
  · exact hlength

theorem incrementalOfJson?_eq_some_iff : incrementalOfJson? (.obj fields) = some c ↔
    ∃ span rangeLength text, c = .incremental span rangeLength text ∧
      Incremental fields span rangeLength text := by
  unfold incrementalOfJson?
  constructor
  · intro h
    obtain ⟨get, hget, h⟩ := Option.bind_eq_some_iff.mp h
    obtain ⟨span, hspan, h⟩ := Option.bind_eq_some_iff.mp h
    obtain ⟨rangeLength, hlength, h⟩ := Option.bind_eq_some_iff.mp h
    obtain ⟨text, htext, h⟩ := Option.bind_eq_some_iff.mp h
    cases h
    cases hget
    refine ⟨span, rangeLength, text, rfl, ?range, ?length, Fields.required_string_iff.mp htext⟩
    case range =>
      obtain ⟨written, hwritten, hspan⟩ := Fields.required_eq_some_iff.mp hspan
      exact ⟨written, hwritten, Span.ofJson?_eq_some_iff.mp hspan⟩
    case length =>
      obtain hmissing | ⟨written, hwritten, hword⟩ := Fields.withDefault_eq_some_iff.mp hlength
      · exact .inl hmissing
      · obtain ⟨rfl, hfits⟩ := Json.word?_eq_some_iff.mp hword
        exact .inr ⟨hwritten, hfits⟩
  · rintro ⟨span, rangeLength, text, rfl, ⟨written, hwritten, hspan⟩, hlength, htext⟩
    have hspan : Fields.required (fun name => fields.lookup name) "range" Span.ofJson? =
        some span :=
      Fields.required_eq_some_iff.mpr ⟨written, hwritten, Span.ofJson?_eq_some_iff.mpr hspan⟩
    have hlength : Fields.withDefault (fun name => fields.lookup name) "rangeLength" 0
        (Json.word? 32) = some rangeLength := by
      apply Fields.withDefault_eq_some_iff.mpr
      apply hlength.imp_right
      rintro ⟨hwritten, hfits⟩
      exact ⟨_, hwritten, Json.word?_eq_some_iff.mpr ⟨rfl, hfits⟩⟩
    have htext : Fields.required (fun name => fields.lookup name) "text" Json.string? =
        some text :=
      Fields.required_string_iff.mpr htext
    simp only [Json.objectFields?, hspan, hlength, htext, Option.bind_eq_bind, Option.bind_some]

theorem fullOfJson?_eq_some_iff : fullOfJson? (.obj fields) = some c ↔
    ∃ text, c = .full text ∧ fields.lookup "text" = some (.str text) := by
  unfold fullOfJson?
  constructor
  · intro h
    obtain ⟨get, hget, h⟩ := Option.bind_eq_some_iff.mp h
    obtain ⟨text, htext, h⟩ := Option.bind_eq_some_iff.mp h
    cases h
    cases hget
    exact ⟨text, rfl, Fields.required_string_iff.mp htext⟩
  · rintro ⟨text, rfl, htext⟩
    have htext : Fields.required (fun name => fields.lookup name) "text" Json.string? =
        some text :=
      Fields.required_string_iff.mpr htext
    simp only [Json.objectFields?, htext, Option.bind_eq_bind, Option.bind_some]

/-- The longer form is tried first. -/
theorem ofJson?_eq_some_iff : ofJson? j = some c ↔ incrementalOfJson? j = some c ∨
    incrementalOfJson? j = none ∧ fullOfJson? j = some c := by
  unfold ofJson?
  cases incrementalOfJson? j <;> simp

theorem ofJson?_eq_incremental_iff {span : Span} {rangeLength : Nat} {text : String} :
    ofJson? (.obj fields) = some (.incremental span rangeLength text) ↔
      Incremental fields span rangeLength text := by
  rw [ofJson?_eq_some_iff, incrementalOfJson?_eq_some_iff, fullOfJson?_eq_some_iff]
  constructor
  · rintro (⟨_, _, _, heq, h⟩ | ⟨-, _, heq, -⟩)
    · cases heq
      exact h
    · cases heq
  · intro h
    exact .inl ⟨_, _, _, rfl, h⟩

theorem ofJson?_eq_full_iff {text : String} : ofJson? (.obj fields) = some (.full text) ↔
    fields.lookup "text" = some (.str text) ∧
      ∀ span rangeLength, ¬ Incremental fields span rangeLength text := by
  rw [ofJson?_eq_some_iff, incrementalOfJson?_eq_some_iff, fullOfJson?_eq_some_iff]
  constructor
  · rintro (⟨_, _, _, heq, -⟩ | ⟨hnone, _, heq, htext⟩)
    · cases heq
    · cases heq
      refine ⟨htext, fun span rangeLength h => ?_⟩
      rw [incrementalOfJson?_eq_some_iff.mpr ⟨_, _, _, rfl, h⟩] at hnone
      cases hnone
  · rintro ⟨htext, hnot⟩
    refine .inr ⟨?_, _, rfl, htext⟩
    rw [Option.eq_none_iff_forall_ne_some]
    intro c hc
    obtain ⟨_, _, text', -, h⟩ := incrementalOfJson?_eq_some_iff.mp hc
    have htext' : text' = text := by simpa [htext] using h.text.symm
    exact hnot _ _ (htext' ▸ h)

theorem exists_fields (h : ofJson? j = some c) : ∃ fields, j = .obj fields := by
  cases j with
  | obj fields => exact ⟨fields, rfl⟩
  | _ => cases h

theorem Fits.ofJson?_toJson (h : c.Fits) : ofJson? c.toJson = some c := by
  cases c with
  | full text =>
    refine ofJson?_eq_full_iff.mpr ⟨rfl, fun span rangeLength hincremental => ?_⟩
    obtain ⟨_, hrange, -⟩ := hincremental.range
    cases hrange
  | incremental span rangeLength text =>
    exact ofJson?_eq_incremental_iff.mpr ⟨⟨_, rfl, h.1.wellFormed⟩, .inr ⟨rfl, h.2⟩, rfl⟩

theorem fits_of_ofJson? (h : ofJson? j = some c) : c.Fits := by
  obtain ⟨fields, rfl⟩ := exists_fields h
  cases c with
  | full text => trivial
  | incremental span rangeLength text => exact (ofJson?_eq_incremental_iff.mp h).fits

/-- The changes of a notification are read as they were sent, and whatever is read as a change is
the same change when it is written and read once more. An object is read as incremental exactly if
it has all that is needed for it. -/
theorem wire_roundTrip :
    (∀ uri version changes, (∀ c ∈ changes, Fits c) →
      ((Notification.didChange uri version changes).params.field? "contentChanges").bind
        (Json.list? ofJson?) = some changes) ∧
    (∀ j c, ofJson? j = some c → (∃ fields, j = .obj fields) ∧ c.Fits ∧
      ofJson? c.toJson = some c) ∧
    (∀ fields span rangeLength text,
      ofJson? (.obj fields) = some (.incremental span rangeLength text) ↔
        Incremental fields span rangeLength text) ∧
    ∀ fields text, ofJson? (.obj fields) = some (.full text) ↔
      fields.lookup "text" = some (.str text) ∧
        ∀ span rangeLength, ¬ Incremental fields span rangeLength text := by
  refine ⟨?sent, ?again, fun _ _ _ _ => ofJson?_eq_incremental_iff,
    fun _ _ => ofJson?_eq_full_iff⟩
  case sent =>
    intro uri version changes hfits
    have hread : (changes.map toJson).mapM ofJson? = some changes := by
      apply Json.mapM_eq_some_iff.mpr
      apply List.forall₂_map_left_iff.mpr
      apply List.forall₂_same.mpr
      intro c hc
      exact (hfits c hc).ofJson?_toJson
    exact hread
  case again =>
    intro j c h
    have hfits := fits_of_ofJson? h
    exact ⟨exists_fields h, hfits, hfits.ofJson?_toJson⟩

/-- The longest change that a message can hold, and one with an empty text. -/
theorem wire_roundTrip_longest :
    let longest : Change := .incremental ⟨⟨0, 0⟩, ⟨4294967295, 4294967295⟩⟩ 4294967295 "é\r\n"
    let changes := [longest, .full ""]
    (∀ c ∈ changes, Fits c) ∧
      ((Notification.didChange ⟨"file:///w/a.rs"⟩ ⟨3⟩ changes).params.field? "contentChanges").bind
        (Json.list? ofJson?) = some changes := by
  intro longest changes
  have hlongest : longest.Fits := by
    refine ⟨⟨⟨?_, ?_⟩, ?_, ?_⟩, ?_⟩
    all_goals decide
  have hfits : ∀ c ∈ changes, Fits c := by
    intro c hc
    obtain rfl | rfl : c = longest ∨ c = .full "" := by simpa [changes] using hc
    · exact hlongest
    · trivial
  exact ⟨hfits, wire_roundTrip.1 _ _ changes hfits⟩

/-- A length of null is not a missing one. -/
example : ofJson? (.obj [("range", (⟨⟨0, 0⟩, ⟨0, 1⟩⟩ : Span).toJson), ("rangeLength", .null),
    ("text", .str "a")]) = some (.full "a") := by decide

end Change

end DocSync
