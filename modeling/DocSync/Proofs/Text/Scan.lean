import DocSync.Proofs.Data.ByteOrder
import DocSync.Proofs.Text.Offset
import Mathlib.Data.List.Induction

/-!
# Positions by a scan

The position of a place is found by going through the characters before it from left to right. A
character moves the position on by its units, and one that ends a line moves it to the start of the
next line. Going through the bytes instead comes to the same, because a byte that looks like a line
feed or a carriage return is never a part of another character.
-/
namespace DocSync

theorem unitLength_append (cs ds : List Char) :
    unitLength (cs ++ ds) = unitLength cs + unitLength ds := by
  induction cs with
  | nil => exact (Nat.zero_add _).symm
  | cons c cs ih => rw [List.cons_append, unitLength, unitLength, ih, Nat.add_assoc]

theorem endsLine_iff {c : Char} {next : Option Char} :
    endsLine c next = true ↔ c = '\n' ∨ c = '\r' ∧ next ≠ some '\n' := by
  simp [endsLine]

theorem utf8Size_of_endsLine {c : Char} {next : Option Char} (h : endsLine c next = true) :
    c.utf8Size = 1 := by
  rcases endsLine_iff.mp h with rfl | ⟨rfl, -⟩ <;> rfl

/-! ## Characters -/

/-- The position behind a character that `next` follows. -/
def Position.past (p : Position) (c : Char) (next : Option Char) : Position :=
  if c = '\n' ∨ c = '\r' ∧ next ≠ some '\n' then ⟨p.line + 1, 0⟩
  else ⟨p.line, p.character + charUnits c⟩

/-- The position behind some characters that `after` follows, when `p` is the one before them. -/
def scan (after : List Char) (p : Position) : List Char → Position
  | [] => p
  | c :: cs => scan after (p.past c (cs ++ after).head?) cs

theorem past_of_endsLine {p : Position} {c : Char} {next : Option Char}
    (h : endsLine c next = true) : p.past c next = ⟨p.line + 1, 0⟩ :=
  if_pos (endsLine_iff.mp h)

theorem past_of_not_endsLine {p : Position} {c : Char} {next : Option Char}
    (h : endsLine c next = false) : p.past c next = ⟨p.line, p.character + charUnits c⟩ := by
  rw [Position.past, if_neg]
  intro hend
  rw [endsLine_iff.mpr hend] at h
  cases h

theorem scan_append (after line : List Char) (p : Position) (above : List Char) :
    scan after p (above ++ line) = scan after (scan (line ++ after) p above) line := by
  induction above generalizing p with
  | nil => rfl
  | cons c above ih =>
    rw [List.cons_append, scan, scan, ih, List.append_assoc]

/-- A character that ends a line ends the one that it is in, whatever stands before it. -/
theorem lineTally_concat {next : Option Char} {c : Char} (h : endsLine c next = true)
    (above : List Char) :
    lineTally next (above ++ [c]) = ((lineTally (some c) above).1 + 1, []) := by
  induction above with
  | nil => simp [lineTally, h]
  | cons d above ih =>
    have hhead : (above ++ [c]).head?.or next = above.head?.or (some c) := by
      cases above <;> rfl
    rw [List.cons_append, lineTally, ih, hhead, lineTally]
    generalize lineTally (some c) above = tally
    obtain ⟨lines, rest⟩ := tally
    cases endsLine d (above.head?.or (some c)) with
    | true => rfl
    | false => cases lines <;> rfl

/-- One more character moves the position on. -/
theorem between_concat (before : List Char) (c : Char) (after : List Char) :
    Position.between (before ++ [c]) after =
      (Position.between before (c :: after)).past c after.head? := by
  cases hend : endsLine c after.head? with
  | true =>
    rw [past_of_endsLine hend, Position.between, lineTally_concat hend]
    rfl
  | false =>
    have hline : lineTally after.head? [c] = (0, [c]) := by simp [lineTally, hend]
    rw [past_of_not_endsLine hend, Position.between, lineTally_append hline]
    simp [Position.between, unitLength_append, unitLength]

theorem between_eq_scan (before after : List Char) :
    Position.between before after = scan after ⟨0, 0⟩ before := by
  induction before using List.reverseRecOn generalizing after with
  | nil => rfl
  | append_singleton before c ih =>
    rw [between_concat, ih, scan_append]
    rfl

/-! ## Bytes -/

/-- Whether a line ends with the byte at an index. -/
def endsLineAt (bytes : List UInt8) (i : Nat) : Bool :=
  bytes[i]? == some 0x0a || (bytes[i]? == some 0x0d && bytes[i + 1]? != some 0x0a)

/-- How many lines end in the first bytes of a text, and where the line after them starts. -/
def scanBytes (bytes : List UInt8) : Nat → Nat × Nat
  | 0 => (0, 0)
  | n + 1 => if endsLineAt bytes n then ((scanBytes bytes n).1 + 1, n + 1) else scanBytes bytes n

theorem length_flatMap_utf8EncodeChar (cs : List Char) :
    (cs.flatMap String.utf8EncodeChar).length = byteLength cs := by
  induction cs with
  | nil => rfl
  | cons c cs ih => rw [List.flatMap_cons, List.length_append, String.length_utf8EncodeChar, ih,
      byteLength]

/-- A character is one byte with its own number, or bytes that are no character's number. -/
theorem utf8EncodeChar_cases (c : Char) :
    c.toNat < 128 ∧ String.utf8EncodeChar c = [UInt8.ofNat c.toNat] ∨
      128 ≤ c.toNat ∧ ∀ b ∈ String.utf8EncodeChar c, 128 ≤ b.toNat := by
  have hnumber : c.val.toNat = c.toNat := rfl
  have hmax : c.val.toNat < 0x110000 := by
    have hvalid := c.valid
    simp only [UInt32.isValidChar, Nat.isValidChar] at hvalid
    omega
  unfold String.utf8EncodeChar
  rw [hnumber] at hmax ⊢
  generalize c.toNat = n at hmax
  dsimp only
  by_cases hone : n ≤ 127
  · rw [if_pos hone]
    exact .inl ⟨by omega, rfl⟩
  · refine .inr ⟨by omega, ?_⟩
    rw [if_neg hone]
    intro b hb
    split at hb
    · simp only [List.mem_cons, List.not_mem_nil, or_false] at hb
      rcases hb with rfl | rfl <;> rw [UInt8.toNat_ofNat'] <;> omega
    · split at hb
      · simp only [List.mem_cons, List.not_mem_nil, or_false] at hb
        rcases hb with rfl | rfl | rfl <;> rw [UInt8.toNat_ofNat'] <;> omega
      · simp only [List.mem_cons, List.not_mem_nil, or_false] at hb
        rcases hb with rfl | rfl | rfl | rfl <;> rw [UInt8.toNat_ofNat'] <;> omega

theorem ofNat_toNat_eq_iff {c d : Char} (hc : c.toNat < 128) (hd : d.toNat < 128) :
    UInt8.ofNat c.toNat = UInt8.ofNat d.toNat ↔ c = d := by
  constructor
  · intro h
    have hnat := congrArg UInt8.toNat h
    rw [UInt8.toNat_ofNat', UInt8.toNat_ofNat', Nat.mod_eq_of_lt (by omega),
      Nat.mod_eq_of_lt (by omega)] at hnat
    exact Char.toNat_inj.mp hnat
  · rintro rfl
    rfl

/-- An ASCII character is at the start of a text exactly if its byte is at the start of the bytes. -/
theorem head_bytes_iff {d : Char} (hd : d.toNat < 128) (cs : List Char) :
    (cs.flatMap String.utf8EncodeChar)[0]? = some (UInt8.ofNat d.toNat) ↔ cs.head? = some d := by
  cases cs with
  | nil => simp
  | cons c cs =>
    rw [List.flatMap_cons, List.head?_cons, Option.some.injEq]
    rcases utf8EncodeChar_cases c with ⟨hc, hbytes⟩ | ⟨hc, hbytes⟩
    · rw [hbytes, List.singleton_append, List.getElem?_cons_zero, Option.some.injEq,
        ofNat_toNat_eq_iff hc hd]
    · obtain ⟨b, rest, hform⟩ := List.exists_cons_of_ne_nil (String.utf8EncodeChar_ne_nil (c := c))
      have hb : 128 ≤ b.toNat := hbytes b (by simp [hform])
      rw [hform, List.cons_append, List.getElem?_cons_zero, Option.some.injEq]
      constructor
      · rintro rfl
        rw [UInt8.toNat_ofNat'] at hb
        omega
      · rintro rfl
        omega

/-- Every byte of a character says whether the character ends a line. -/
theorem endsLineAt_cons (c : Char) (cs : List Char) {i : Nat} (hi : i < c.utf8Size) :
    endsLineAt ((c :: cs).flatMap String.utf8EncodeChar) i = endsLine c cs.head? := by
  have hfeed : (0x0a : UInt8) = UInt8.ofNat '\n'.toNat := rfl
  have hreturn : (0x0d : UInt8) = UInt8.ofNat '\r'.toNat := rfl
  rw [Bool.eq_iff_iff, endsLine_iff, endsLineAt, List.flatMap_cons]
  simp only [Bool.or_eq_true, Bool.and_eq_true, beq_iff_eq, bne_iff_ne, ne_eq, hfeed, hreturn]
  rw [← String.length_utf8EncodeChar] at hi
  rcases utf8EncodeChar_cases c with ⟨hc, hbytes⟩ | ⟨hc, hbytes⟩
  · rw [hbytes] at hi ⊢
    obtain rfl : i = 0 := by simpa using hi
    rw [List.singleton_append, List.getElem?_cons_zero, List.getElem?_cons_succ,
      head_bytes_iff (by decide), Option.some.injEq, Option.some.injEq,
      ofNat_toNat_eq_iff hc (by decide), ofNat_toNat_eq_iff hc (by decide)]
  · have hbyte := hbytes _ (List.getElem_mem hi)
    rw [List.getElem?_append_left hi, List.getElem?_eq_getElem hi, Option.some.injEq,
      Option.some.injEq]
    generalize (String.utf8EncodeChar c)[i] = b at hbyte
    constructor
    · rintro (rfl | ⟨rfl, -⟩)
      · exact absurd hbyte (by decide)
      · exact absurd hbyte (by decide)
    · rintro (rfl | ⟨rfl, -⟩)
      · exact absurd hc (by decide)
      · exact absurd hc (by decide)

theorem endsLineAt_append (u v : List UInt8) (i : Nat) :
    endsLineAt (u ++ v) (u.length + i) = endsLineAt v i := by
  have hat (k : Nat) : (u ++ v)[u.length + k]? = v[k]? := by
    rw [List.getElem?_append_right (Nat.le_add_right _ _), Nat.add_sub_cancel_left]
  rw [endsLineAt, Nat.add_assoc, hat, hat]
  rfl

theorem scanBytes_stays {bytes : List UInt8} {n k : Nat}
    (h : ∀ i < k, endsLineAt bytes (n + i) = false) : scanBytes bytes (n + k) = scanBytes bytes n := by
  induction k with
  | zero => rfl
  | succ k ih =>
    rw [← Nat.add_assoc, scanBytes, h k (Nat.lt_succ_self k)]
    exact ih fun i hi => h i (Nat.lt_succ_of_lt hi)

/-- Going through the bytes before a place counts its line, and finds the start of it. -/
theorem scanBytes_between (before after : List Char) : ∃ above line, before = above ++ line ∧
    scanBytes ((before ++ after).flatMap String.utf8EncodeChar) (byteLength before) =
      ((Position.between before after).line, byteLength above) ∧
    (Position.between before after).character = unitLength line := by
  induction before using List.reverseRecOn generalizing after with
  | nil => exact ⟨[], [], rfl, rfl, rfl⟩
  | append_singleton before c ih =>
    obtain ⟨above, line, hbefore, hscan, hunits⟩ := ih (c :: after)
    have hbytes {i : Nat} (hi : i < c.utf8Size) :
        endsLineAt ((before ++ c :: after).flatMap String.utf8EncodeChar) (byteLength before + i) =
          endsLine c after.head? := by
      rw [List.flatMap_append, ← length_flatMap_utf8EncodeChar before, endsLineAt_append,
        endsLineAt_cons c after hi]
    have hlength : byteLength (before ++ [c]) = byteLength before + c.utf8Size := by
      rw [byteLength_append]
      rfl
    rw [List.append_assoc, List.singleton_append, between_concat, hlength]
    cases hend : endsLine c after.head? with
    | true =>
      have hone : c.utf8Size = 1 := utf8Size_of_endsLine hend
      refine ⟨before ++ [c], [], (List.append_nil _).symm, ?_, ?_⟩
      · have hthere := hbytes (i := 0) (by omega)
        rw [Nat.add_zero, hend] at hthere
        rw [hone, scanBytes, hthere, if_pos rfl, hscan, past_of_endsLine hend, hlength, hone]
      · rw [past_of_endsLine hend]
        rfl
    | false =>
      refine ⟨above, line ++ [c], by rw [hbefore, List.append_assoc], ?_, ?_⟩
      · rw [scanBytes_stays fun i hi => (hbytes hi).trans hend, hscan, past_of_not_endsLine hend]
      · rw [past_of_not_endsLine hend, hunits, unitLength_append]
        rfl

/-! ## Order -/

theorem before_iff {p q : Position} : p.before q = true ↔
    p.line < q.line ∨ p.line = q.line ∧ p.character < q.character := by
  simp [Position.before]

theorem before_irrefl (p : Position) : p.before p = false := by
  rw [← Bool.not_eq_true, before_iff]
  omega

theorem before_trans {p q r : Position} (hpq : p.before q = true) (hqr : q.before r = true) :
    p.before r = true := by
  rw [before_iff] at hpq hqr ⊢
  omega

theorem before_past (p : Position) (c : Char) (next : Option Char) :
    p.before (p.past c next) = true := by
  have hunits := charUnits_pos c
  rw [before_iff, Position.past]
  split
  · exact .inl (Nat.lt_succ_self p.line)
  · exact .inr ⟨rfl, Nat.lt_add_of_pos_right hunits⟩

/-- A place further on has a later position. -/
theorem between_before {line : List Char} (h : line ≠ []) (before after : List Char) :
    (Position.between before (line ++ after)).before (.between (before ++ line) after) = true := by
  induction line generalizing before with
  | nil => exact absurd rfl h
  | cons c line ih =>
    have hfirst : (Position.between before (c :: (line ++ after))).before
        (.between (before ++ [c]) (line ++ after)) = true := by
      rw [between_concat]
      exact before_past _ c _
    rw [List.cons_append, List.append_cons]
    by_cases hline : line = []
    · subst hline
      rwa [List.append_nil]
    · exact before_trans hfirst (ih hline (before ++ [c]))

/-- A place has no later position than any further on. -/
theorem not_before_between (before line after : List Char) :
    (Position.between (before ++ line) after).before (.between before (line ++ after)) = false := by
  by_cases hline : line = []
  · subst hline
    rw [List.append_nil, List.nil_append]
    exact before_irrefl _
  · rw [← Bool.not_eq_true]
    intro hahead
    have hself := before_trans (between_before hline before after) hahead
    rw [before_irrefl] at hself
    cases hself

/-! ## Offsets -/

theorem splitBytes_eq_none_iff {text : String} {offset : Nat} :
    splitBytes text.toList offset = none ↔ ¬ IsBoundary text offset := by
  constructor
  · intro h hboundary
    obtain ⟨before, after, htext, rfl⟩ := isBoundary_iff.mp hboundary
    rw [htext, splitBytes_byteLength] at h
    cases h
  · intro h
    cases hcut : splitBytes text.toList offset with
    | none => rfl
    | some parts =>
      obtain ⟨htext, hoffset⟩ := splitBytes_inv hcut
      exact absurd (isBoundary_iff.mpr ⟨parts.1, parts.2, htext, hoffset⟩) h

theorem positionAt_eq_error_iff {text : String} {offset : Nat} {e : PositionError} :
    positionAt text.toList offset = .error e ↔
      text.utf8ByteSize < offset ∧ e = .offsetOutOfBounds offset text.utf8ByteSize ∨
      offset ≤ text.utf8ByteSize ∧ ¬ IsBoundary text offset ∧ e = .notCharBoundary offset := by
  rw [positionAt, byteLength_toList]
  by_cases hlong : text.utf8ByteSize < offset
  · rw [if_pos hlong, Except.error.injEq]
    constructor
    · rintro rfl
      exact .inl ⟨hlong, rfl⟩
    · rintro (⟨-, rfl⟩ | ⟨hshort, -⟩)
      · rfl
      · exact absurd hlong (Nat.not_lt.mpr hshort)
  · rw [if_neg hlong]
    cases hcut : splitBytes text.toList offset with
    | none =>
      have hboundary := splitBytes_eq_none_iff.mp hcut
      dsimp only
      rw [Except.error.injEq]
      constructor
      · rintro rfl
        exact .inr ⟨Nat.not_lt.mp hlong, hboundary, rfl⟩
      · rintro (⟨hlonger, -⟩ | ⟨-, -, rfl⟩)
        · exact absurd hlonger hlong
        · rfl
    | some parts =>
      have hboundary : IsBoundary text offset := by
        by_contra hnot
        rw [splitBytes_eq_none_iff.mpr hnot] at hcut
        cases hcut
      dsimp only
      constructor
      · intro h
        cases h
      · rintro (⟨hlonger, -⟩ | ⟨-, hnot, -⟩)
        · exact absurd hlonger hlong
        · exact absurd hboundary hnot

/-- The positions of a text are those that a scan finds, and all other offsets are refused. -/
structure Scanned (text : String) : Prop where
  characters : ∀ offset, IsBoundary text offset → ∃ before after,
    text.toList = before ++ after ∧ byteLength before = offset ∧
      positionAt text.toList offset = .ok (scan after ⟨0, 0⟩ before)
  /-- The scan over the bytes up to an offset, and the units from the start of its last line on. -/
  bytes : ∀ offset, IsBoundary text offset → ∃ above line after,
    text.toList = above ++ line ++ after ∧ byteLength (above ++ line) = offset ∧
      (scanBytes (utf8Bytes text) offset).2 = byteLength above ∧
      positionAt text.toList offset =
        .ok ⟨(scanBytes (utf8Bytes text) offset).1, unitLength line⟩
  /-- No count leaves the range of machine words of 32 bits. -/
  counts : ∀ offset p, positionAt text.toList offset = .ok p →
    p.line < 2 ^ 32 ∧ p.character < 2 ^ 32
  refusals : ∀ offset e, positionAt text.toList offset = .error e ↔
    text.utf8ByteSize < offset ∧ e = .offsetOutOfBounds offset text.utf8ByteSize ∨
    offset ≤ text.utf8ByteSize ∧ ¬ IsBoundary text offset ∧ e = .notCharBoundary offset

theorem scanned (text : String) (h : text.utf8ByteSize < 2 ^ 32) : Scanned text where
  characters offset hboundary := by
    obtain ⟨before, after, htext, hoffset⟩ := isBoundary_iff.mp hboundary
    refine ⟨before, after, htext, hoffset, ?_⟩
    rw [← between_eq_scan]
    exact positionAt_eq_ok_iff.mpr ⟨before, after, htext, hoffset, rfl⟩
  bytes offset hboundary := by
    obtain ⟨before, after, htext, rfl⟩ := isBoundary_iff.mp hboundary
    obtain ⟨above, line, rfl, hscan, hunits⟩ := scanBytes_between before after
    rw [← htext, ← utf8Bytes_eq] at hscan
    refine ⟨above, line, after, htext, rfl, by rw [hscan], ?_⟩
    rw [hscan, ← hunits]
    exact positionAt_eq_ok_iff.mpr ⟨above ++ line, after, htext, rfl, rfl⟩
  counts _ _ hp := counts_of_positionAt h hp
  refusals offset e := positionAt_eq_error_iff

/-- Between the two characters of a line end the line goes on, and inside a character is no place. -/
theorem scanned_mixed : mixed.utf8ByteSize < 2 ^ 32 ∧ Scanned mixed ∧
    positionAt mixed.toList 2 = .ok (scan "\n😀\rb\n".toList ⟨0, 0⟩ "a\r".toList) ∧
    scan "\n😀\rb\n".toList ⟨0, 0⟩ "a\r".toList = ⟨0, 2⟩ ∧
    positionAt mixed.toList 4 = .error (.notCharBoundary 4) :=
  ⟨by decide, scanned mixed (by decide), by decide, by decide, by decide⟩

end DocSync
