import DocSync.Proofs.Text.Replay
import DocSync.Proofs.Text.Scan

/-!
# An edit and the change it is reported as

An edit names what it replaces by bytes, its change by two positions. Both are refused on the same
texts and for the same reason, and lead to the same text otherwise. Every span of a text is the span
of exactly one edit, up to the text that comes in. An edit cuts the text at two of its places or not
at all, also if its bytes would end beyond the largest word.
-/
namespace DocSync

/-- A text has no two places of one position. -/
theorem between_inj {before after left right : List Char} (htext : before ++ after = left ++ right)
    (h : Position.between before after = .between left right) : before = left ∧ after = right := by
  have hcut := splitPosition_between before after
  rw [htext, h, splitPosition_between, Except.ok.injEq, Prod.mk.injEq] at hcut
  exact ⟨hcut.1.symm, hcut.2.symm⟩

theorem eq_nil_of_byteLength {cs : List Char} (h : byteLength cs = 0) : cs = [] := by
  cases cs with
  | nil => rfl
  | cons c cs =>
    have hpos := c.utf8Size_pos
    rw [byteLength] at h
    omega

/-- Of two places of a text the one with the lesser offset comes first. -/
theorem exists_middle {before after left right : List Char} (htext : before ++ after = left ++ right)
    (h : byteLength before ≤ byteLength left) :
    ∃ middle, left = before ++ middle ∧ after = middle ++ right := by
  rcases List.append_eq_append_iff.mp htext with hmiddle | ⟨middle, rfl, rfl⟩
  · exact hmiddle
  · rw [byteLength_append] at h
    obtain rfl : middle = [] := eq_nil_of_byteLength (by omega)
    exact ⟨[], by rw [List.append_nil, List.append_nil], rfl⟩

namespace Edit

/-- The parts that an edit cuts a text into: what stands before the bytes it replaces, these bytes,
and what stands after them. -/
structure Cuts (e : Edit) (old : String) (before replaced after : List Char) : Prop where
  text : old.toList = before ++ (replaced ++ after)
  offset : byteLength before = e.offset
  length : byteLength replaced = e.oldLength

theorem stop_eq {e : Edit} (h : e.offset + e.oldLength ≤ wordLimit) :
    e.stop = e.offset + e.oldLength :=
  Nat.min_eq_left h

variable {e : Edit} {old : String} {before replaced after : List Char}

/-- An end that does not fit a word is out of bounds already. -/
theorem lt_stop_iff (hword : old.utf8ByteSize < wordLimit) :
    old.utf8ByteSize < e.stop ↔ old.utf8ByteSize < e.offset + e.oldLength := by
  rw [stop]
  omega

namespace Cuts

theorem size (h : e.Cuts old before replaced after) :
    old.utf8ByteSize = e.offset + (e.oldLength + byteLength after) := by
  rw [← byteLength_toList, h.text, byteLength_append, byteLength_append, h.offset, h.length]

theorem start (h : e.Cuts old before replaced after) : IsBoundary old e.offset := by
  rw [← h.offset]
  exact isBoundary_of_append h.text

theorem stop (h : e.Cuts old before replaced after) :
    IsBoundary old (e.offset + e.oldLength) := by
  have htext := h.text
  rw [← List.append_assoc] at htext
  rw [← h.offset, ← h.length, ← byteLength_append]
  exact isBoundary_of_append htext

end Cuts

theorem cut_eq_ok_iff (hword : old.utf8ByteSize < wordLimit) :
    e.cut old.toList = .ok (before, replaced, after) ↔ e.Cuts old before replaced after := by
  constructor
  · intro h
    rw [cut, byteLength_toList] at h
    split at h
    · cases h
    · rename_i hinside
      have hstop : e.stop = e.offset + e.oldLength := by
        rw [lt_stop_iff hword] at hinside
        exact stop_eq (by omega)
      split at h
      · cases h
      · rename_i start rest hstart
        split at h
        · cases h
        · rename_i gone left hgone
          cases h
          obtain ⟨htext, hoffset⟩ := splitBytes_inv hstart
          obtain ⟨rfl, hlength⟩ := splitBytes_inv hgone
          exact ⟨htext, hoffset, by omega⟩
  · intro h
    have hsize := h.size
    have hstop : e.stop = e.offset + e.oldLength := stop_eq (by omega)
    have hleft : e.offset + e.oldLength - e.offset = byteLength replaced := by
      rw [h.length]
      omega
    rw [cut, byteLength_toList, hstop, if_neg (by omega), hleft, h.text, ← h.offset,
      splitBytes_byteLength]
    dsimp only
    rw [splitBytes_byteLength]

/-- An edit is refused because it ends behind the text, or starts or ends inside a character. -/
inductive Refused (e : Edit) (old : String) : PositionError → Prop
  | long (h : old.utf8ByteSize < e.offset + e.oldLength) :
      Refused e old (.offsetOutOfBounds e.stop old.utf8ByteSize)
  | start (h : e.offset + e.oldLength ≤ old.utf8ByteSize) (hstart : ¬ IsBoundary old e.offset) :
      Refused e old (.notCharBoundary e.offset)
  | stop (h : e.offset + e.oldLength ≤ old.utf8ByteSize) (hstart : IsBoundary old e.offset)
      (hstop : ¬ IsBoundary old (e.offset + e.oldLength)) :
      Refused e old (.notCharBoundary (e.offset + e.oldLength))

theorem refused_of_cut {fault : PositionError} (hword : old.utf8ByteSize < wordLimit)
    (h : e.cut old.toList = .error fault) : e.Refused old fault := by
  rw [cut, byteLength_toList] at h
  split at h
  · rename_i hlong
    cases h
    exact .long ((lt_stop_iff hword).mp hlong)
  · rename_i hinside
    rw [lt_stop_iff hword] at hinside
    have hfits : e.offset + e.oldLength ≤ old.utf8ByteSize := Nat.not_lt.mp hinside
    rw [stop_eq (by omega), Nat.add_sub_cancel_left] at h
    split at h
    · rename_i hstart
      cases h
      exact .start hfits (splitBytes_eq_none_iff.mp hstart)
    · rename_i before rest hstart
      obtain ⟨htext, hoffset⟩ := splitBytes_inv hstart
      split at h
      · rename_i hgone
        cases h
        refine .stop hfits (isBoundary_iff.mpr ⟨before, rest, htext, hoffset⟩) fun hstop => ?_
        obtain ⟨left, right, hleft, hlength⟩ := isBoundary_iff.mp hstop
        obtain ⟨replaced, rfl, rfl⟩ := exists_middle (htext.symm.trans hleft) (by omega)
        rw [byteLength_append, hoffset, Nat.add_left_cancel_iff] at hlength
        rw [← hlength, splitBytes_byteLength] at hgone
        cases hgone
      · cases h

theorem Cuts.not_refused {fault : PositionError} (h : e.Cuts old before replaced after) :
    ¬ e.Refused old fault := by
  intro hrefused
  cases hrefused with
  | long hlong =>
    have hsize := h.size
    omega
  | start _ hstart => exact hstart h.start
  | stop _ _ hstop => exact hstop h.stop

theorem Refused.unique {fault other : PositionError} (h : e.Refused old fault)
    (hother : e.Refused old other) : fault = other := by
  cases h with
  | long hlong =>
    cases hother with
    | long => rfl
    | start hfits => exact absurd hlong (Nat.not_lt.mpr hfits)
    | stop hfits => exact absurd hlong (Nat.not_lt.mpr hfits)
  | start hfits hstart =>
    cases hother with
    | long hlong => exact absurd hlong (Nat.not_lt.mpr hfits)
    | start => rfl
    | stop _ hboundary => exact absurd hboundary hstart
  | stop hfits hboundary =>
    cases hother with
    | long hlong => exact absurd hlong (Nat.not_lt.mpr hfits)
    | start _ hstart => exact absurd hboundary hstart
    | stop => rfl

theorem cut_eq_error_iff {fault : PositionError} (hword : old.utf8ByteSize < wordLimit) :
    e.cut old.toList = .error fault ↔ e.Refused old fault := by
  constructor
  · exact refused_of_cut hword
  · intro h
    cases hcut : e.cut old.toList with
    | error other => rw [(refused_of_cut hword hcut).unique h]
    | ok parts =>
      obtain ⟨before, replaced, after⟩ := parts
      exact absurd h ((cut_eq_ok_iff hword).mp hcut).not_refused

/-! ## What is made of the parts -/

theorem map_eq_error_iff {α β : Type} {f : α → β} {a : Except PositionError α}
    {fault : PositionError} : a.map f = .error fault ↔ a = .error fault := by
  cases a <;> simp [Except.map]

/-- The change of an edit spans what the edit replaces. -/
theorem toChange_eq_ok_iff {c : Change} (hword : old.utf8ByteSize < wordLimit) :
    e.toChange old = .ok c ↔ ∃ before replaced after, e.Cuts old before replaced after ∧
      c = .incremental ⟨.between before (replaced ++ after), .between (before ++ replaced) after⟩
        (unitLength replaced) e.newText := by
  rw [toChange]
  constructor
  · intro h
    cases hcut : e.cut old.toList with
    | error fault =>
      rw [hcut] at h
      cases h
    | ok parts =>
      obtain ⟨before, replaced, after⟩ := parts
      rw [hcut] at h
      cases h
      exact ⟨before, replaced, after, (cut_eq_ok_iff hword).mp hcut, rfl⟩
  · rintro ⟨before, replaced, after, hcuts, rfl⟩
    rw [(cut_eq_ok_iff hword).mpr hcuts]
    rfl

theorem Cuts.apply_eq (h : e.Cuts old before replaced after)
    (hword : old.utf8ByteSize < wordLimit) :
    e.apply old = .ok (String.ofList (before ++ e.newText.toList ++ after)) := by
  rw [apply, (cut_eq_ok_iff hword).mpr h]
  rfl

/-- The change of an edit is refused where the edit is, and for the same reason. -/
theorem toChange_fails_iff {fault : PositionError} :
    e.toChange old = .error fault ↔ e.apply old = .error fault :=
  map_eq_error_iff.trans map_eq_error_iff.symm

theorem apply_eq_error_iff {fault : PositionError} (hword : old.utf8ByteSize < wordLimit) :
    e.apply old = .error fault ↔ e.Refused old fault :=
  map_eq_error_iff.trans (cut_eq_error_iff hword)

end Edit

/-- A span whose ends are places of a text, in order, spans a part of it. -/
theorem exists_spanned {old : String} {span : Span} {start stop : Nat}
    (hstart : offsetAt old.toList span.start = .ok start)
    (hstop : offsetAt old.toList span.stop = .ok stop)
    (horder : span.stop.before span.start = false) :
    ∃ before replaced after, old.toList = before ++ (replaced ++ after) ∧
      span = ⟨.between before (replaced ++ after), .between (before ++ replaced) after⟩ := by
  obtain ⟨before, rest, htext, -, hbefore⟩ := offsetAt_eq_ok_iff.mp hstart
  obtain ⟨left, after, hleft, -, hspan⟩ := offsetAt_eq_ok_iff.mp hstop
  have hparts := htext.symm.trans hleft
  have hle : byteLength before ≤ byteLength left := by
    by_contra hlt
    obtain ⟨middle, rfl, rfl⟩ := exists_middle hparts.symm (by omega)
    have hmiddle : middle ≠ [] := by
      rintro rfl
      rw [List.append_nil] at hlt
      exact hlt (Nat.le_refl _)
    have hbehind := between_before hmiddle left rest
    rw [← hbefore, ← hspan, horder] at hbehind
    cases hbehind
  obtain ⟨replaced, rfl, rfl⟩ := exists_middle hparts hle
  obtain ⟨p, q⟩ := span
  dsimp only at hbefore hspan
  exact ⟨before, replaced, after, htext, by rw [hbefore, hspan]⟩

/-- What the change of an edit says, and that it does what the edit does. -/
structure Edit.Reported (e : Edit) (old : String) (c : Change)
    (before replaced after : List Char) : Prop extends e.Cuts old before replaced after where
  applied : e.apply old = .ok (String.ofList (before ++ e.newText.toList ++ after))
  same : c.apply old = e.apply old
  spans : ∃ span, c = .incremental span (unitLength replaced) e.newText ∧
    positionAt old.toList e.offset = .ok span.start ∧
    positionAt old.toList (e.offset + e.oldLength) = .ok span.stop ∧
    span.stop.before span.start = false
  /-- The length of the span fits a machine word of 32 bits. -/
  units : unitLength replaced < 2 ^ 32

/-- Edits of a text and their changes. -/
structure Agreement (old : String) : Prop where
  refused : ∀ (e : Edit) fault, e.toChange old = .error fault ↔ e.apply old = .error fault
  reasons : ∀ (e : Edit) fault, e.apply old = .error fault ↔ e.Refused old fault
  /-- Otherwise both cut the text at the same places. -/
  reported : ∀ (e : Edit) c, e.toChange old = .ok c →
    ∃ before replaced after, e.Reported old c before replaced after
  /-- Every span is the span of one edit, whatever comes in. -/
  spanned : ∀ (span : Span) (newText : String) start stop,
    offsetAt old.toList span.start = .ok start → offsetAt old.toList span.stop = .ok stop →
    span.stop.before span.start = false →
    ∃! place : Nat × Nat, ∃ units,
      Edit.toChange ⟨place.1, place.2, newText⟩ old = .ok (.incremental span units newText)
  /-- The end of an edit stops at the largest word, which is no place of the text. -/
  beyond : ∀ e : Edit, Edit.wordLimit < e.offset + e.oldLength →
    e.apply old = .error (.offsetOutOfBounds Edit.wordLimit old.utf8ByteSize)

theorem Edit.Cuts.reported {e : Edit} {old : String} {before replaced after : List Char}
    (h : e.Cuts old before replaced after) (hsize : old.utf8ByteSize < 2 ^ 32)
    (hword : old.utf8ByteSize < Edit.wordLimit) {c : Change} (hc : e.toChange old = .ok c)
    (hspan : c = .incremental
      ⟨.between before (replaced ++ after), .between (before ++ replaced) after⟩
      (unitLength replaced) e.newText) : e.Reported old c before replaced after where
  toCuts := h
  applied := h.apply_eq hword
  same := Edit.apply_toChange hc
  spans := by
    have hstop : old.toList = before ++ replaced ++ after := by rw [h.text, List.append_assoc]
    refine ⟨_, hspan, ?_, ?_, not_before_between before replaced after⟩
    · exact positionAt_eq_ok_iff.mpr ⟨before, replaced ++ after, h.text, h.offset, rfl⟩
    · refine positionAt_eq_ok_iff.mpr ⟨before ++ replaced, after, hstop, ?_, rfl⟩
      rw [byteLength_append, h.offset, h.length]
  units := by
    have hunits := unitLength_le replaced
    have hlength := h.length
    have htotal := h.size
    omega

theorem agreement (old : String) (h : old.utf8ByteSize < 2 ^ 32) : Agreement old := by
  have hword : old.utf8ByteSize < Edit.wordLimit := Nat.lt_of_lt_of_le h (by decide)
  constructor
  case refused => exact fun e fault => Edit.toChange_fails_iff
  case reasons => exact fun e fault => Edit.apply_eq_error_iff hword
  case reported =>
    intro e c hc
    obtain ⟨before, replaced, after, hcuts, hspan⟩ := (Edit.toChange_eq_ok_iff hword).mp hc
    exact ⟨before, replaced, after, hcuts.reported h hword hc hspan⟩
  case spanned =>
    intro span newText start stop hstart hstop horder
    obtain ⟨before, replaced, after, htext, rfl⟩ := exists_spanned hstart hstop horder
    refine ⟨(byteLength before, byteLength replaced), ⟨unitLength replaced, ?_⟩, ?_⟩
    · exact (Edit.toChange_eq_ok_iff hword).mpr
        ⟨before, replaced, after, ⟨htext, rfl, rfl⟩, rfl⟩
    · rintro ⟨offset, length⟩ ⟨units, hchange⟩
      obtain ⟨left, gone, right, hcuts, hspan⟩ := (Edit.toChange_eq_ok_iff hword).mp hchange
      simp only [Change.incremental.injEq, Span.mk.injEq] at hspan
      obtain ⟨⟨hleft, hright⟩, -, -⟩ := hspan
      -- The text has one place for each end, so the parts are those of the span.
      have hparts : before ++ (replaced ++ after) = left ++ (gone ++ right) :=
        htext.symm.trans hcuts.text
      obtain ⟨rfl, -⟩ := between_inj hparts hleft
      rw [← List.append_assoc, ← List.append_assoc] at hparts
      obtain ⟨hgone, -⟩ := between_inj hparts hright
      obtain rfl := List.append_cancel_left hgone
      have hoffset := hcuts.offset
      have hlength := hcuts.length
      dsimp only at hoffset hlength
      rw [hoffset, hlength]
  case beyond =>
    intro e hbeyond
    have hstop : e.stop = Edit.wordLimit := Nat.min_eq_right (Nat.le_of_lt hbeyond)
    rw [Edit.apply_eq_error_iff hword, ← hstop]
    exact .long (by omega)

/-- A line end is cut in two, and a character of two units goes with it. -/
theorem agreement_mixed : mixed.utf8ByteSize < 2 ^ 32 ∧ Agreement mixed ∧
    Edit.toChange ⟨2, 5, "c"⟩ mixed = .ok (.incremental ⟨⟨0, 2⟩, ⟨1, 2⟩⟩ 3 "c") ∧
    Edit.apply ⟨2, 5, "c"⟩ mixed = .ok "a\rc\rb\n" ∧
    Edit.apply ⟨2, 3, "c"⟩ mixed = .error (.notCharBoundary 5) ∧
    Edit.apply ⟨2, Edit.wordLimit, "c"⟩ mixed = .error (.offsetOutOfBounds Edit.wordLimit 10) :=
  ⟨by decide, agreement mixed (by decide), by decide, by decide, by decide, by decide⟩

end DocSync
