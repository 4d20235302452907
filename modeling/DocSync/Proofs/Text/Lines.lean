import DocSync.Proofs.Text.Scan
import Mathlib.Algebra.GroupWithZero.Nat

/-!
# Lines

A text is cut into lines at its terminators: a line feed, a carriage return, or the two of them in
that order. A position has an offset exactly if there is a line of its number and its units end
between two characters of that line. Otherwise the error tells the first thing that is missing: the
line, a place at that distance because a character of two units is there, or the distance itself.
-/
namespace DocSync

/-- How many terminators a text has. -/
def terminators : List Char → Nat
  | [] => 0
  | '\r' :: '\n' :: cs => terminators cs + 1
  | c :: cs => if c = '\n' ∨ c = '\r' then terminators cs + 1 else terminators cs

/-- The lines of a text. The last unit of a terminator belongs to no line. Where a terminator has
two, the first is the last unit of the line. -/
def lines : List Char → List (List Char)
  | [] => [[]]
  | '\r' :: '\n' :: cs => ['\r'] :: lines cs
  | c :: cs => if c = '\n' ∨ c = '\r' then [] :: lines cs else (lines cs).modifyHead (c :: ·)

theorem length_lines (cs : List Char) : (lines cs).length = terminators cs + 1 := by
  fun_induction lines cs with
  | case1 => rfl
  | case2 cs ih => rw [List.length_cons, ih, terminators]
  | case3 c cs hpair hend ih =>
    rw [List.length_cons, ih, terminators, if_pos hend]
    exact hpair
  | case4 c cs hpair hend ih =>
    rw [List.length_modifyHead, ih, terminators, if_neg hend]
    exact hpair

/-- A character ends the first line, or is at the start of it. -/
theorem lines_cons (c : Char) (cs : List Char) :
    lines (c :: cs) =
      if endsLine c cs.head? then [] :: lines cs else (lines cs).modifyHead (c :: ·) := by
  by_cases hpair : c = '\r' ∧ cs.head? = some '\n'
  · obtain ⟨rfl, hhead⟩ := hpair
    obtain ⟨rest, rfl⟩ := List.head?_eq_some_iff.mp hhead
    simp [lines, endsLine]
  · have hend : endsLine c cs.head? = true ↔ c = '\n' ∨ c = '\r' := by
      rw [endsLine_iff]
      constructor
      · rintro (hfeed | ⟨hreturn, -⟩)
        · exact .inl hfeed
        · exact .inr hreturn
      · rintro (hfeed | hreturn)
        · exact .inl hfeed
        · exact .inr ⟨hreturn, fun hhead => hpair ⟨hreturn, hhead⟩⟩
    simp only [hend]
    rw [lines]
    rintro rest rfl rfl
    exact hpair ⟨rfl, rfl⟩

theorem exists_lines (cs : List Char) : ∃ line others, lines cs = line :: others := by
  cases hlines : lines cs with
  | nil =>
    have hlength := length_lines cs
    rw [hlines] at hlength
    cases hlength
  | cons line others => exact ⟨line, others, rfl⟩

theorem unitLength_lines_le (cs : List Char) :
    ∀ line ∈ lines cs, unitLength line ≤ unitLength cs := by
  fun_induction lines cs with
  | case1 => simp
  | case2 cs ih =>
    intro line hline
    rw [unitLength, unitLength]
    rcases List.mem_cons.mp hline with rfl | hline
    · exact Nat.add_le_add_left (Nat.zero_le _) _
    · have hrest := ih line hline
      omega
  | case3 c cs hpair hend ih =>
    intro line hline
    rcases List.mem_cons.mp hline with rfl | hline
    · exact Nat.zero_le _
    · exact Nat.le_trans (ih line hline) (Nat.le_add_left _ _)
  | case4 c cs hpair hend ih =>
    obtain ⟨first, others, hlines⟩ := exists_lines cs
    rw [hlines] at ih ⊢
    intro line hline
    rcases List.mem_cons.mp hline with rfl | hline
    · exact Nat.add_le_add_left (ih first List.mem_cons_self) _
    · exact Nat.le_trans (ih line (List.mem_cons_of_mem _ hline)) (Nat.le_add_left _ _)

theorem terminators_le (cs : List Char) : terminators cs ≤ byteLength cs := by
  fun_induction terminators cs with
  | case1 => exact Nat.le_refl 0
  | case2 cs ih =>
    have hsize : byteLength ('\r' :: '\n' :: cs) = 1 + (1 + byteLength cs) := rfl
    omega
  | case3 c cs hpair hend ih =>
    have hpos := c.utf8Size_pos
    rw [byteLength]
    omega
  | case4 c cs hpair hend ih => exact Nat.le_trans ih (Nat.le_add_left _ _)

/-! ## The start of a line -/

/-- The bytes before the line of the given number: those of the lines before it, and one more for
each of them, which ends it. -/
def lineStart (text : List Char) (n : Nat) : Nat :=
  (((lines text).take n).map fun line => byteLength line + 1).sum

theorem drop_lines_cons (c : Char) (cs : List Char) (n : Nat) :
    (lines (c :: cs)).drop (n + 1) =
      (lines cs).drop (if endsLine c cs.head? then n else n + 1) := by
  obtain ⟨line, others, hlines⟩ := exists_lines cs
  rw [lines_cons]
  cases endsLine c cs.head? with
  | true => rfl
  | false =>
    rw [hlines]
    rfl

theorem lineStart_cons (c : Char) (cs : List Char) (n : Nat) :
    lineStart (c :: cs) (n + 1) =
      c.utf8Size + lineStart cs (if endsLine c cs.head? then n else n + 1) := by
  obtain ⟨line, others, hlines⟩ := exists_lines cs
  rw [lineStart, lines_cons]
  cases hend : endsLine c cs.head? with
  | true => simp [lineStart, byteLength, utf8Size_of_endsLine hend]
  | false =>
    simp only [lineStart, hlines, Bool.false_eq_true, if_false, List.modifyHead_cons,
      List.take_succ_cons, List.map_cons, List.sum_cons, byteLength]
    omega

/-- A text is cut at the start of a line if there is one of that number. -/
theorem splitLine_spec (n : Nat) (cs : List Char) :
    match splitLine n cs with
    | none => (lines cs).drop n = []
    | some (above, rest) => (lines cs).drop n = lines rest ∧ byteLength above = lineStart cs n := by
  induction cs generalizing n with
  | nil =>
    cases n with
    | zero => exact ⟨rfl, rfl⟩
    | succ n => exact List.drop_nil
  | cons c cs ih =>
    cases n with
    | zero => exact ⟨rfl, rfl⟩
    | succ n =>
      have hrest := ih (if endsLine c cs.head? then n else n + 1)
      rw [splitLine, drop_lines_cons, lineStart_cons]
      generalize (if endsLine c cs.head? then n else n + 1) = left at hrest
      cases hcut : splitLine left cs with
      | none =>
        rw [hcut] at hrest
        exact hrest
      | some parts =>
        rw [hcut] at hrest
        obtain ⟨hdrop, hbytes⟩ := hrest
        exact ⟨hdrop, by rw [byteLength, hbytes]⟩

/-! ## A place on a line -/

theorem charUnits_le_two (c : Char) : charUnits c ≤ 2 := by
  unfold charUnits
  split <;> omega

/-- Whether some units of a line end inside a character of two. -/
def InsidePair (line : List Char) (units : Nat) : Prop :=
  ∃ before c after, line = before ++ c :: after ∧ charUnits c = 2 ∧
    unitLength before < units ∧ units < unitLength before + 2

/-- Whether some units of a line end between two characters of it, and `before` has these units. -/
def EndsAfter (line before : List Char) (units : Nat) : Prop :=
  before <+: line ∧ unitLength before = units

theorem InsidePair.lt {line : List Char} {units : Nat} (h : InsidePair line units) :
    units < unitLength line := by
  obtain ⟨before, c, after, rfl, hpair, -, hlt⟩ := h
  rw [unitLength_append, unitLength]
  omega

theorem EndsAfter.le {line before : List Char} {units : Nat} (h : EndsAfter line before units) :
    units ≤ unitLength line := by
  obtain ⟨⟨after, rfl⟩, rfl⟩ := h
  rw [unitLength_append]
  exact Nat.le_add_right _ _

theorem EndsAfter.not_insidePair {line before : List Char} {units : Nat}
    (h : EndsAfter line before units) : ¬ InsidePair line units := by
  rintro ⟨left, c, right, hline, hpair, hgt, hlt⟩
  obtain ⟨⟨after, rfl⟩, rfl⟩ := h
  rcases List.append_eq_append_iff.mp hline with ⟨more, rfl, -⟩ | ⟨more, rfl, hmore⟩
  · rw [unitLength_append] at hgt
    omega
  · rw [unitLength_append] at hgt hlt
    cases more with
    | nil => simp [unitLength] at hgt
    | cons d more =>
      obtain ⟨rfl, -⟩ := List.cons.inj hmore
      rw [unitLength] at hlt
      omega

theorem eq_nil_of_unitLength {cs : List Char} (h : unitLength cs = 0) : cs = [] := by
  cases cs with
  | nil => rfl
  | cons c cs =>
    have hpos := charUnits_pos c
    rw [unitLength] at h
    omega

theorem eq_of_unitLength {cs ds : List Char} (h : cs <+: ds)
    (hunits : unitLength cs = unitLength ds) : cs = ds := by
  obtain ⟨more, rfl⟩ := h
  rw [unitLength_append] at hunits
  rw [eq_nil_of_unitLength (by omega : unitLength more = 0), List.append_nil]

theorem EndsAfter.unique {line before left : List Char} {units : Nat}
    (h : EndsAfter line before units) (hleft : EndsAfter line left units) : before = left := by
  have hunits : unitLength before = unitLength left := h.2.trans hleft.2.symm
  rcases List.prefix_or_prefix_of_prefix h.1 hleft.1 with hbefore | hbefore
  · exact eq_of_unitLength hbefore hunits
  · exact (eq_of_unitLength hbefore hunits.symm).symm

/-- A cut of the first line is where its units end, and each error says why there is none. -/
theorem splitColumn_spec {cs line : List Char} {others : List (List Char)}
    (h : lines cs = line :: others) (n : Nat) :
    match splitColumn n cs with
    | .ok (before, _) => EndsAfter line before n
    | .error .insidePair => InsidePair line n
    | .error .pastEnd => unitLength line < n := by
  induction cs generalizing n line others with
  | nil =>
    cases h
    cases n with
    | zero => exact ⟨List.prefix_rfl, rfl⟩
    | succ n => exact Nat.succ_pos n
  | cons c cs ih =>
    cases n with
    | zero => exact ⟨List.nil_prefix, rfl⟩
    | succ n =>
      rw [lines_cons] at h
      rw [splitColumn]
      cases hend : endsLine c cs.head? with
      | true =>
        rw [hend, if_pos rfl] at h
        cases h
        exact Nat.succ_pos n
      | false =>
        obtain ⟨left, lower, hlines⟩ := exists_lines cs
        rw [hend, hlines] at h
        simp only [Bool.false_eq_true, if_false, List.modifyHead_cons, List.cons.injEq] at h ⊢
        obtain ⟨rfl, rfl⟩ := h
        by_cases hwide : n + 1 < charUnits c
        · rw [if_pos hwide]
          have hunits := charUnits_le_two c
          exact ⟨[], c, left, rfl, by omega, Nat.succ_pos n, by omega⟩
        · rw [if_neg hwide]
          have hrest := ih hlines (n + 1 - charUnits c)
          cases hcut : splitColumn (n + 1 - charUnits c) cs with
          | error fault =>
            rw [hcut] at hrest
            cases fault with
            | pastEnd =>
              simp only [Except.map, unitLength] at hrest ⊢
              omega
            | insidePair =>
              obtain ⟨before, d, after, rfl, hpair, hgt, hlt⟩ := hrest
              refine ⟨c :: before, d, after, rfl, hpair, ?_, ?_⟩
              · rw [unitLength]
                omega
              · rw [unitLength]
                omega
          | ok parts =>
            rw [hcut] at hrest
            obtain ⟨⟨after, rfl⟩, hunits⟩ := hrest
            refine ⟨⟨after, rfl⟩, ?_⟩
            rw [unitLength, hunits]
            omega

/-! ## The offset of a position -/

/-- What the lines of a text say about a position. -/
inductive Verdict (text : List Char) (p : Position) : Except PositionError Nat → Prop
  | noLine (h : (lines text)[p.line]? = none) : Verdict text p (.error (.lineOutOfRange p.line))
  | insidePair {line : List Char} (hline : (lines text)[p.line]? = some line)
      (h : InsidePair line p.character) : Verdict text p (.error (.splitsSurrogatePair p))
  | pastEnd {line : List Char} (hline : (lines text)[p.line]? = some line)
      (h : unitLength line < p.character) : Verdict text p (.error (.characterOutOfRange p))
  | place {line before : List Char} (hline : (lines text)[p.line]? = some line)
      (h : EndsAfter line before p.character) :
      Verdict text p (.ok (lineStart text p.line + byteLength before))

theorem verdict_offsetAt (text : List Char) (p : Position) : Verdict text p (offsetAt text p) := by
  have hstart := splitLine_spec p.line text
  unfold offsetAt splitPosition
  cases hcut : splitLine p.line text with
  | none =>
    rw [hcut] at hstart
    exact .noLine (List.getElem?_eq_none (List.drop_eq_nil_iff.mp hstart))
  | some parts =>
    obtain ⟨above, rest⟩ := parts
    rw [hcut] at hstart
    obtain ⟨hdrop, hbytes⟩ := hstart
    obtain ⟨line, others, hlines⟩ := exists_lines rest
    have hline : (lines text)[p.line]? = some line := by
      rw [← List.head?_drop, hdrop, hlines]
      rfl
    have hcolumn := splitColumn_spec hlines p.character
    dsimp only
    cases hplace : splitColumn p.character rest with
    | error fault =>
      rw [hplace] at hcolumn
      cases fault with
      | pastEnd => exact .pastEnd hline hcolumn
      | insidePair => exact .insidePair hline hcolumn
    | ok column =>
      rw [hplace] at hcolumn
      have hverdict := Verdict.place hline hcolumn
      rw [← hbytes, ← byteLength_append] at hverdict
      exact hverdict

/-- Different verdicts do not go together. -/
theorem Verdict.unique {text : List Char} {p : Position} {a b : Except PositionError Nat}
    (ha : Verdict text p a) (hb : Verdict text p b) : a = b := by
  -- Two verdicts speak of one line, or of none, and that line allows only one of them.
  cases ha <;> cases hb <;>
    grind [→ InsidePair.lt, → EndsAfter.le, → EndsAfter.not_insidePair, EndsAfter.unique]

theorem verdict_iff {text : List Char} {p : Position} {a : Except PositionError Nat} :
    offsetAt text p = a ↔ Verdict text p a := by
  constructor
  · rintro rfl
    exact verdict_offsetAt text p
  · exact (verdict_offsetAt text p).unique

/-- All that `offsetAt` can answer, and when it does. -/
structure Located (text : String) (p : Position) : Prop where
  /-- Lines are counted by their terminators. -/
  count : (lines text.toList).length = terminators text.toList + 1
  lineOutOfRange : offsetAt text.toList p = .error (.lineOutOfRange p.line) ↔
    terminators text.toList + 1 ≤ p.line
  splitsSurrogatePair : offsetAt text.toList p = .error (.splitsSurrogatePair p) ↔
    ∃ line, (lines text.toList)[p.line]? = some line ∧ InsidePair line p.character
  characterOutOfRange : offsetAt text.toList p = .error (.characterOutOfRange p) ↔
    ∃ line, (lines text.toList)[p.line]? = some line ∧ unitLength line < p.character
  found : ∀ offset, offsetAt text.toList p = .ok offset ↔
    ∃ line before, (lines text.toList)[p.line]? = some line ∧ EndsAfter line before p.character ∧
      offset = lineStart text.toList p.line + byteLength before
  /-- Nothing else is answered. -/
  answers : (∃ offset, offsetAt text.toList p = .ok offset) ∨
    offsetAt text.toList p = .error (.lineOutOfRange p.line) ∨
    offsetAt text.toList p = .error (.splitsSurrogatePair p) ∨
    offsetAt text.toList p = .error (.characterOutOfRange p)
  /-- No count leaves the range of machine words of 32 bits. -/
  counts : terminators text.toList < 2 ^ 32 ∧
    ∀ line ∈ lines text.toList, unitLength line < 2 ^ 32

theorem located (text : String) (h : text.utf8ByteSize < 2 ^ 32) (p : Position) :
    Located text p where
  count := length_lines text.toList
  lineOutOfRange := by
    rw [verdict_iff, ← length_lines, ← List.getElem?_eq_none_iff]
    constructor
    · intro hverdict
      cases hverdict with
      | noLine hnone => exact hnone
    · exact .noLine
  splitsSurrogatePair := by
    rw [verdict_iff]
    constructor
    · intro hverdict
      cases hverdict with
      | insidePair hline hpair => exact ⟨_, hline, hpair⟩
    · rintro ⟨line, hline, hpair⟩
      exact .insidePair hline hpair
  characterOutOfRange := by
    rw [verdict_iff]
    constructor
    · intro hverdict
      cases hverdict with
      | pastEnd hline hlt => exact ⟨_, hline, hlt⟩
    · rintro ⟨line, hline, hlt⟩
      exact .pastEnd hline hlt
  found offset := by
    rw [verdict_iff]
    constructor
    · intro hverdict
      cases hverdict with
      | place hline hends => exact ⟨_, _, hline, hends, rfl⟩
    · rintro ⟨line, before, hline, hends, rfl⟩
      exact .place hline hends
  answers := by
    have hverdict := verdict_offsetAt text.toList p
    generalize offsetAt text.toList p = answer at hverdict
    cases hverdict with
    | noLine => exact .inr (.inl rfl)
    | insidePair => exact .inr (.inr (.inl rfl))
    | pastEnd => exact .inr (.inr (.inr rfl))
    | place => exact .inl ⟨_, rfl⟩
  counts := by
    rw [← byteLength_toList] at h
    refine ⟨Nat.lt_of_le_of_lt (terminators_le text.toList) h, fun line hline => ?_⟩
    have hunits := unitLength_lines_le text.toList line hline
    have hbytes := unitLength_le text.toList
    omega

/-- A line that ends in two characters, one in between two of two units, and one behind the last
terminator. -/
theorem located_mixed : mixed.utf8ByteSize < 2 ^ 32 ∧ Located mixed ⟨1, 1⟩ ∧
    lines mixed.toList = ["a\r".toList, "😀".toList, "b".toList, []] ∧
    offsetAt mixed.toList ⟨1, 1⟩ = .error (.splitsSurrogatePair ⟨1, 1⟩) ∧
    offsetAt mixed.toList ⟨0, 3⟩ = .error (.characterOutOfRange ⟨0, 3⟩) ∧
    offsetAt mixed.toList ⟨4, 0⟩ = .error (.lineOutOfRange 4) :=
  ⟨by decide, located mixed (by decide) ⟨1, 1⟩, by decide, by decide, by decide, by decide⟩

end DocSync
