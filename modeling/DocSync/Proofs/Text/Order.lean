import DocSync.Proofs.Text.Agreement

/-!
# Positions in order

Positions come in the order of the offsets that they stand for, also from one line to the next and
between the two characters of a line end. Therefore a change is taken exactly if both ends of its
span are places of the text and the span does not run backwards, and what it replaces are the bytes
between the two. Changes are taken one after the other, up to the first that is refused.
-/
namespace DocSync

/-- Positions are in the order of their offsets. -/
theorem before_iff_lt {text : List Char} {m n : Nat} {p q : Position}
    (hp : positionAt text m = .ok p) (hq : positionAt text n = .ok q) :
    p.before q = true ↔ m < n := by
  obtain ⟨before, after, htext, rfl, rfl⟩ := positionAt_eq_ok_iff.mp hp
  obtain ⟨left, right, hleft, rfl, rfl⟩ := positionAt_eq_ok_iff.mp hq
  have hparts : before ++ after = left ++ right := htext.symm.trans hleft
  constructor
  · intro hbefore
    by_contra hle
    obtain ⟨middle, rfl, rfl⟩ := exists_middle hparts.symm (Nat.not_lt.mp hle)
    rw [not_before_between] at hbefore
    cases hbefore
  · intro hlt
    obtain ⟨middle, rfl, rfl⟩ := exists_middle hparts (Nat.le_of_lt hlt)
    refine between_before ?_ before right
    rintro rfl
    rw [List.append_nil] at hlt
    exact Nat.lt_irrefl _ hlt

/-- The ends of a span that runs backwards have offsets in the other order. -/
theorem inverted_iff {text : List Char} {span : Span} {start stop : Nat}
    (hstart : offsetAt text span.start = .ok start) (hstop : offsetAt text span.stop = .ok stop) :
    span.stop.before span.start = true ↔ stop < start :=
  before_iff_lt (positionAt_eq_ok_iff.mpr (offsetAt_eq_ok_iff.mp hstop))
    (positionAt_eq_ok_iff.mpr (offsetAt_eq_ok_iff.mp hstart))

/-! ## One change -/

theorem utf8Bytes_inj {s t : String} : utf8Bytes s = utf8Bytes t ↔ s = t := by
  constructor
  · intro h
    exact String.toByteArray_inj.mp (ByteArray.ext (Array.toList_inj.mp h))
  · rintro rfl
    rfl

/-- The bytes from one offset to another are replaced. -/
def Replaces (old : String) (start stop : Nat) (inserted new : String) : Prop :=
  utf8Bytes new = (utf8Bytes old).take start ++ utf8Bytes inserted ++ (utf8Bytes old).drop stop

theorem replaces_of_parts {old : String} {before replaced after : List Char}
    (h : old.toList = before ++ (replaced ++ after)) (inserted : String) :
    Replaces old (byteLength before) (byteLength (before ++ replaced)) inserted
      (String.ofList (before ++ inserted.toList ++ after)) := by
  have hstart : (utf8Bytes old).take (byteLength before) =
      before.flatMap String.utf8EncodeChar := by
    rw [utf8Bytes_eq, h, List.flatMap_append, ← length_flatMap_utf8EncodeChar, List.take_left]
  have hstop : (utf8Bytes old).drop (byteLength (before ++ replaced)) =
      after.flatMap String.utf8EncodeChar := by
    rw [utf8Bytes_eq, h, ← List.append_assoc, List.flatMap_append, ← length_flatMap_utf8EncodeChar,
      List.drop_left]
  rw [Replaces, hstart, hstop, utf8Bytes_eq, utf8Bytes_eq, String.toList_ofList,
    List.flatMap_append, List.flatMap_append]

/-- A change is refused because its span starts or ends nowhere in the text, or runs backwards. -/
inductive Change.Refused (old : String) (span : Span) : PositionError → Prop
  | start {fault : PositionError} (h : offsetAt old.toList span.start = .error fault) :
      Refused old span fault
  | stop {fault : PositionError} {start : Nat} (hstart : offsetAt old.toList span.start = .ok start)
      (h : offsetAt old.toList span.stop = .error fault) : Refused old span fault
  | inverted {start stop : Nat} (hstart : offsetAt old.toList span.start = .ok start)
      (hstop : offsetAt old.toList span.stop = .ok stop)
      (h : span.stop.before span.start = true) :
      Refused old span (.characterOutOfRange span.stop)

/-- What a change makes of a text: another text, if the span leads somewhere, or a refusal. -/
inductive Change.Applies (old : String) (span : Span) (inserted : String) :
    Except PositionError String → Prop
  | taken {start stop : Nat} {new : String} (hstart : offsetAt old.toList span.start = .ok start)
      (hstop : offsetAt old.toList span.stop = .ok stop)
      (horder : span.stop.before span.start = false) (h : Replaces old start stop inserted new) :
      Applies old span inserted (.ok new)
  | refused {fault : PositionError} (h : Refused old span fault) :
      Applies old span inserted (.error fault)

namespace Change

variable {old : String} {span : Span}

theorem Refused.of_ok {fault : PositionError} {start stop : Nat} (h : Refused old span fault)
    (hstart : offsetAt old.toList span.start = .ok start)
    (hstop : offsetAt old.toList span.stop = .ok stop) :
    span.stop.before span.start = true ∧ fault = .characterOutOfRange span.stop := by
  cases h with
  | start hfault => cases hstart.symm.trans hfault
  | stop _ hfault => cases hstop.symm.trans hfault
  | inverted _ _ hinverted => exact ⟨hinverted, rfl⟩

theorem Refused.unique {fault other : PositionError} (h : Refused old span fault)
    (hother : Refused old span other) : fault = other := by
  cases h with
  | start hstart =>
    cases hother with
    | start hstart' => exact Except.error.inj (hstart.symm.trans hstart')
    | stop hstart' => cases hstart.symm.trans hstart'
    | inverted hstart' => cases hstart.symm.trans hstart'
  | stop hstart hstop =>
    cases hother with
    | start hstart' => cases hstart.symm.trans hstart'
    | stop _ hstop' => exact Except.error.inj (hstop.symm.trans hstop')
    | inverted _ hstop' => cases hstop.symm.trans hstop'
  | inverted hstart hstop => exact (hother.of_ok hstart hstop).2.symm

theorem splitPosition_of_offsetAt {text : List Char} {p : Position} {n : Nat}
    (h : offsetAt text p = .ok n) : ∃ before after, text = before ++ after ∧
      byteLength before = n ∧ splitPosition text p = .ok (before, after) := by
  obtain ⟨before, after, rfl, hoffset, rfl⟩ := offsetAt_eq_ok_iff.mp h
  exact ⟨before, after, rfl, hoffset, splitPosition_between before after⟩

theorem splitPosition_of_error {text : List Char} {p : Position} {fault : PositionError}
    (h : offsetAt text p = .error fault) : splitPosition text p = .error fault :=
  Edit.map_eq_error_iff.mp h

theorem applies_apply (old : String) (span : Span) (units : Nat) (inserted : String) :
    Applies old span inserted (apply old (.incremental span units inserted)) := by
  cases hstart : offsetAt old.toList span.start with
  | error fault =>
    rw [apply, splitPosition_of_error hstart]
    exact .refused (.start hstart)
  | ok start =>
    obtain ⟨before, rest, htext, hbefore, hcut⟩ := splitPosition_of_offsetAt hstart
    cases hstop : offsetAt old.toList span.stop with
    | error fault =>
      rw [apply, hcut, splitPosition_of_error hstop]
      exact .refused (.stop hstart hstop)
    | ok stop =>
      cases horder : span.stop.before span.start with
      | false =>
        obtain ⟨left, replaced, after, hparts, rfl⟩ := exists_spanned hstart hstop horder
        rw [apply_between hparts]
        refine .taken hstart hstop horder ?_
        have hparts' : old.toList = left ++ replaced ++ after := by
          rw [hparts, List.append_assoc]
        have hleft := offsetAt_eq_ok_iff.mpr ⟨left, replaced ++ after, hparts, rfl, rfl⟩
        have hright := offsetAt_eq_ok_iff.mpr ⟨left ++ replaced, after, hparts', rfl, rfl⟩
        obtain rfl : byteLength left = start := Except.ok.inj (hleft.symm.trans hstart)
        obtain rfl : byteLength (left ++ replaced) = stop :=
          Except.ok.inj (hright.symm.trans hstop)
        exact replaces_of_parts hparts inserted
      | true =>
        obtain ⟨left, after, hleft, hlength, hcut'⟩ := splitPosition_of_offsetAt hstop
        have hlt := (inverted_iff hstart hstop).mp horder
        have hrest : byteLength rest < byteLength after := by
          have htotal := congrArg byteLength (htext.symm.trans hleft)
          rw [byteLength_append, byteLength_append] at htotal
          omega
        have happly : apply old (.incremental span units inserted) =
            .error (.characterOutOfRange span.stop) := by
          simp [apply, hcut, hcut', hrest, bind, Except.bind]
        rw [happly]
        exact .refused (.inverted hstart hstop horder)

theorem Applies.unique {inserted : String} {a b : Except PositionError String}
    (ha : Applies old span inserted a) (hb : Applies old span inserted b) : a = b := by
  cases ha with
  | taken hstart hstop horder hnew =>
    cases hb with
    | taken hstart' hstop' _ hnew' =>
      obtain rfl := Except.ok.inj (hstart.symm.trans hstart')
      obtain rfl := Except.ok.inj (hstop.symm.trans hstop')
      exact congrArg Except.ok (utf8Bytes_inj.mp (hnew.trans hnew'.symm))
    | refused hrefused =>
      rw [(hrefused.of_ok hstart hstop).1] at horder
      cases horder
  | refused hrefused =>
    cases hb with
    | taken hstart hstop horder =>
      rw [(hrefused.of_ok hstart hstop).1] at horder
      cases horder
    | refused hrefused' => rw [hrefused.unique hrefused']

theorem applies_iff {units : Nat} {inserted : String} {a : Except PositionError String} :
    apply old (.incremental span units inserted) = a ↔ Applies old span inserted a := by
  constructor
  · rintro rfl
    exact applies_apply old span units inserted
  · exact (applies_apply old span units inserted).unique

/-! ## Many changes -/

theorem replay_eq_foldlM (old : String) (cs : List Change) :
    replay old cs = cs.foldlM apply old := by
  induction cs generalizing old with
  | nil => rfl
  | cons c cs ih => simp only [replay, List.foldlM_cons, ih]

/-- A list of changes fails with the first of them that does, whatever follows. -/
theorem replay_eq_error_iff {cs : List Change} {fault : PositionError} :
    replay old cs = .error fault ↔ ∃ done c rest middle, cs = done ++ c :: rest ∧
      replay old done = .ok middle ∧ apply middle c = .error fault := by
  constructor
  · intro h
    induction cs generalizing old with
    | nil => cases h
    | cons c cs ih =>
      cases hc : apply old c with
      | error e =>
        rw [replay, hc] at h
        cases h
        exact ⟨[], c, cs, old, rfl, rfl, hc⟩
      | ok new =>
        rw [replay, hc] at h
        obtain ⟨done, d, rest, middle, rfl, hdone, hfault⟩ := ih h
        refine ⟨c :: done, d, rest, middle, rfl, ?_, hfault⟩
        rw [replay, hc]
        exact hdone
  · rintro ⟨done, c, rest, middle, rfl, hdone, hfault⟩
    rw [replay_append, hdone]
    simp [Except.bind, replay, hfault, bind]

end Change

/-- What follows for a text from the order of its positions. -/
structure Ordered (text : String) : Prop where
  increasing : ∀ m n, IsBoundary text m → IsBoundary text n → ∃ p q : Position,
    positionAt text.toList m = .ok p ∧ positionAt text.toList n = .ok q ∧
      (p.before q = true ↔ m < n)
  /-- No count leaves the range of machine words of 32 bits. -/
  counts : ∀ n p, positionAt text.toList n = .ok p → p.line < 2 ^ 32 ∧ p.character < 2 ^ 32
  accepted : ∀ (span : Span) units inserted,
    (∃ new, Change.apply text (.incremental span units inserted) = .ok new) ↔
      (∃ start, offsetAt text.toList span.start = .ok start) ∧
      (∃ stop, offsetAt text.toList span.stop = .ok stop) ∧
      span.stop.before span.start = false
  /-- What comes of a change, taken or refused. -/
  applied : ∀ (span : Span) units inserted a,
    Change.apply text (.incremental span units inserted) = a ↔
      Change.Applies text span inserted a
  folded : ∀ cs, Change.replay text cs = cs.foldlM Change.apply text
  stopped : ∀ cs fault, Change.replay text cs = .error fault ↔
    ∃ done c rest middle, cs = done ++ c :: rest ∧
      Change.replay text done = .ok middle ∧ Change.apply middle c = .error fault

theorem ordered (text : String) (h : text.utf8ByteSize < 2 ^ 32) : Ordered text where
  increasing m n hm hn := by
    obtain ⟨p, hp⟩ := positionAt_of_isBoundary hm
    obtain ⟨q, hq⟩ := positionAt_of_isBoundary hn
    exact ⟨p, q, hp, hq, before_iff_lt hp hq⟩
  counts _ _ hp := counts_of_positionAt h hp
  accepted span units inserted := by
    constructor
    · rintro ⟨new, hnew⟩
      cases Change.applies_iff.mp hnew with
      | taken hstart hstop horder => exact ⟨⟨_, hstart⟩, ⟨_, hstop⟩, horder⟩
    · rintro ⟨⟨start, hstart⟩, ⟨stop, hstop⟩, horder⟩
      obtain ⟨before, replaced, after, htext, rfl⟩ := exists_spanned hstart hstop horder
      exact ⟨_, Change.apply_between htext units inserted⟩
  applied _ _ _ _ := Change.applies_iff
  folded := Change.replay_eq_foldlM text
  stopped _ _ := Change.replay_eq_error_iff

/-- A span from within a line end to the end of a character of two units is taken, and refused when
it is turned around. -/
theorem ordered_mixed : mixed.utf8ByteSize < 2 ^ 32 ∧ Ordered mixed ∧
    Change.apply mixed (.incremental ⟨⟨0, 2⟩, ⟨1, 2⟩⟩ 3 "c") = .ok "a\rc\rb\n" ∧
    Change.apply mixed (.incremental ⟨⟨1, 2⟩, ⟨0, 2⟩⟩ 3 "c") =
      .error (.characterOutOfRange ⟨0, 2⟩) ∧
    Change.replay mixed [.full "d", .incremental ⟨⟨0, 2⟩, ⟨1, 2⟩⟩ 3 "c", .full "e"] =
      .error (.characterOutOfRange ⟨0, 2⟩) :=
  ⟨by decide, ordered mixed (by decide), by decide, by decide, by decide⟩

end DocSync
