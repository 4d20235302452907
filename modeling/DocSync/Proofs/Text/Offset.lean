import DocSync.Proofs.Text.Place
import Mathlib.Algebra.Group.Nat.Defs

/-!
# Offsets and positions name the same places

A text can be cut between any two of its characters, and each of these places has one offset and one
position. `positionAt` and `offsetAt` lead from one to the other; on the way neither cuts the text
anywhere else.
-/
namespace DocSync

/-! ## Bytes -/

theorem byteLength_ofList (cs : List Char) : (String.ofList cs).utf8ByteSize = byteLength cs := by
  induction cs with
  | nil => rfl
  | cons c cs ih => simp [String.ofList_cons, byteLength, ih]

theorem byteLength_toList (text : String) : byteLength text.toList = text.utf8ByteSize := by
  rw [← byteLength_ofList, String.ofList_toList]

theorem charUnits_le (c : Char) : charUnits c ≤ c.utf8Size := by
  unfold charUnits
  split
  · exact c.utf8Size_pos
  · rename_i hwide
    have hword : ¬ c.val.toNat ≤ 0xFFFF := by
      have : c.val.toNat = c.toNat := rfl
      omega
    unfold Char.utf8Size
    simp only [UInt32.le_iff_toNat_le]
    split
    · rename_i hle
      have : c.val.toNat ≤ 0x7F := hle
      omega
    · split
      · omega
      · split <;> omega

theorem unitLength_le (cs : List Char) : unitLength cs ≤ byteLength cs := by
  induction cs with
  | nil => exact Nat.le_refl 0
  | cons c cs ih => exact Nat.add_le_add (charUnits_le c) ih

/-- Every character takes at least one byte, so there are no more lines than bytes. -/
theorem lineTally_le (next : Option Char) (cs : List Char) :
    (lineTally next cs).1 ≤ byteLength cs := by
  induction cs with
  | nil => exact Nat.le_refl 0
  | cons c cs ih =>
    have hpos := c.utf8Size_pos
    rw [lineTally, byteLength]
    generalize lineTally next cs = tally at ih
    obtain ⟨lines, rest⟩ := tally
    dsimp only at ih ⊢
    split
    · dsimp only
      omega
    · split <;> omega

/-! ## Offsets -/

/-- Whether an offset is between two characters of a text, or at one of its ends. -/
def IsBoundary (text : String) (offset : Nat) : Prop := String.Pos.Raw.IsValid text ⟨offset⟩

theorem isBoundary_iff {text : String} {offset : Nat} : IsBoundary text offset ↔
    ∃ before after, text.toList = before ++ after ∧ byteLength before = offset := by
  rw [IsBoundary, String.Pos.Raw.isValid_iff_exists_append]
  constructor
  · rintro ⟨before, after, rfl, hoffset⟩
    refine ⟨before.toList, after.toList, String.toList_append, ?_⟩
    rw [byteLength_toList]
    exact (congrArg String.Pos.Raw.byteIdx hoffset).symm
  · rintro ⟨before, after, htext, rfl⟩
    refine ⟨String.ofList before, String.ofList after, ?_, ?_⟩
    · rw [← String.ofList_append, ← htext, String.ofList_toList]
    · exact String.Pos.Raw.ext (byteLength_ofList before).symm

theorem isBoundary_of_append {text : String} {before after : List Char}
    (h : text.toList = before ++ after) : IsBoundary text (byteLength before) :=
  isBoundary_iff.mpr ⟨before, after, h, rfl⟩

/-- A text cut at an offset has that many bytes before the cut. -/
theorem splitBytes_inv {cs before after : List Char} {n : Nat}
    (h : splitBytes cs n = some (before, after)) :
    cs = before ++ after ∧ byteLength before = n := by
  refine ⟨splitBytes_append h, ?_⟩
  induction cs generalizing n before with
  | nil =>
    cases n with
    | zero =>
      cases h
      rfl
    | succ n => simp [splitBytes] at h
  | cons c cs ih =>
    cases n with
    | zero =>
      cases h
      rfl
    | succ n =>
      rw [splitBytes] at h
      split at h
      · simp only [Option.map_eq_some_iff, Prod.exists, Prod.mk.injEq] at h
        obtain ⟨start, rest, hcut, rfl, rfl⟩ := h
        rw [byteLength, ih hcut]
        omega
      · cases h

theorem splitBytes_byteLength (before after : List Char) :
    splitBytes (before ++ after) (byteLength before) = some (before, after) := by
  induction before with
  | nil =>
    rw [byteLength]
    cases after <;> rfl
  | cons c before ih =>
    have hpos := c.utf8Size_pos
    obtain ⟨k, hk⟩ : ∃ k, c.utf8Size + byteLength before = k + 1 :=
      ⟨c.utf8Size + byteLength before - 1, by omega⟩
    have hleft : k + 1 - c.utf8Size = byteLength before := by omega
    rw [List.cons_append, byteLength, hk, splitBytes, if_pos (by omega), hleft, ih]
    rfl

/-- An offset has a position exactly if it is between two characters. -/
theorem positionAt_eq_ok_iff {text : List Char} {offset : Nat} {p : Position} :
    positionAt text offset = .ok p ↔ ∃ before after, text = before ++ after ∧
      byteLength before = offset ∧ p = .between before after := by
  constructor
  · intro h
    unfold positionAt at h
    split at h
    · cases h
    · split at h
      · cases h
      · rename_i before after hcut
        cases h
        obtain ⟨htext, hoffset⟩ := splitBytes_inv hcut
        exact ⟨before, after, htext, hoffset, rfl⟩
  · rintro ⟨before, after, rfl, rfl, rfl⟩
    have hinside : ¬ byteLength (before ++ after) < byteLength before := by
      rw [byteLength_append]
      omega
    rw [positionAt, if_neg hinside, splitBytes_byteLength]

/-! ## Positions -/

/-- A text cut at the start of a line has that many lines before the cut, and nothing after the last
of them. -/
theorem splitLine_inv {n : Nat} {cs above rest : List Char}
    (h : splitLine n cs = some (above, rest)) :
    cs = above ++ rest ∧ lineTally rest.head? above = (n, []) := by
  induction cs generalizing n above with
  | nil =>
    cases n with
    | zero =>
      cases h
      exact ⟨rfl, rfl⟩
    | succ n => cases h
  | cons c cs ih =>
    cases n with
    | zero =>
      cases h
      exact ⟨rfl, rfl⟩
    | succ n =>
      rw [splitLine] at h
      simp only [Option.map_eq_some_iff, Prod.exists, Prod.mk.injEq] at h
      obtain ⟨left, right, hcut, rfl, rfl⟩ := h
      obtain ⟨rfl, htally⟩ := ih hcut
      refine ⟨rfl, ?_⟩
      rw [List.head?_append] at htally
      rw [lineTally, htally]
      by_cases hend : endsLine c (left.head?.or right.head?) = true
      · simp [hend]
      · simp [hend]

/-- A line cut after a number of units has that many before the cut, and no line ends there. -/
theorem splitColumn_inv {n : Nat} {cs before after : List Char}
    (h : splitColumn n cs = .ok (before, after)) :
    cs = before ++ after ∧ unitLength before = n ∧
      lineTally after.head? before = (0, before) := by
  induction cs generalizing n before with
  | nil =>
    cases n with
    | zero =>
      cases h
      exact ⟨rfl, rfl, rfl⟩
    | succ n => cases h
  | cons c cs ih =>
    cases n with
    | zero =>
      cases h
      exact ⟨rfl, rfl, rfl⟩
    | succ n =>
      rw [splitColumn] at h
      split at h
      · cases h
      · rename_i hend
        split at h
        · cases h
        · rename_i hfits
          cases hcut : splitColumn (n + 1 - charUnits c) cs with
          | error fault =>
            rw [hcut] at h
            cases h
          | ok parts =>
            obtain ⟨left, right⟩ := parts
            rw [hcut] at h
            cases h
            obtain ⟨rfl, hunits, htally⟩ := ih hcut
            rw [List.head?_append] at hend
            refine ⟨rfl, ?_, ?_⟩
            · rw [unitLength, hunits]
              omega
            · rw [lineTally, htally]
              simp [hend]

/-- Text without the end of a line adds nothing to the lines before it. -/
theorem lineTally_append {next : Option Char} {line : List Char}
    (h : lineTally next line = (0, line)) (above : List Char) :
    lineTally next (above ++ line) =
      ((lineTally (line.head?.or next) above).1,
        (lineTally (line.head?.or next) above).2 ++ line) := by
  induction above with
  | nil => exact h
  | cons c above ih =>
    rw [List.cons_append, lineTally, ih, List.head?_append, Option.or_assoc, lineTally]
    generalize lineTally (line.head?.or next) above = tally
    obtain ⟨lines, rest⟩ := tally
    dsimp only
    split
    · rfl
    · split <;> rfl

/-- A position that cuts a text is the position between the two parts. -/
theorem splitPosition_inv {text before after : List Char} {p : Position}
    (h : splitPosition text p = .ok (before, after)) :
    text = before ++ after ∧ .between before after = p := by
  unfold splitPosition at h
  split at h
  · cases h
  · rename_i above rest hline
    split at h
    · cases h
    · cases h
    · rename_i line right hcolumn
      cases h
      obtain ⟨rfl, habove⟩ := splitLine_inv hline
      obtain ⟨rfl, hunits, hrest⟩ := splitColumn_inv hcolumn
      refine ⟨(List.append_assoc above line after).symm, ?_⟩
      rw [List.head?_append] at habove
      rw [Position.between, lineTally_append hrest, habove]
      dsimp only
      rw [List.nil_append, hunits]

/-- A position has an offset exactly if it is one between two parts of the text. -/
theorem offsetAt_eq_ok_iff {text : List Char} {offset : Nat} {p : Position} :
    offsetAt text p = .ok offset ↔ ∃ before after, text = before ++ after ∧
      byteLength before = offset ∧ p = .between before after := by
  constructor
  · intro h
    unfold offsetAt at h
    cases hcut : splitPosition text p with
    | error e =>
      rw [hcut] at h
      cases h
    | ok parts =>
      obtain ⟨before, after⟩ := parts
      rw [hcut] at h
      cases h
      obtain ⟨htext, hp⟩ := splitPosition_inv hcut
      exact ⟨before, after, htext, rfl, hp.symm⟩
  · rintro ⟨before, after, rfl, rfl, rfl⟩
    rw [offsetAt, splitPosition_between]
    rfl

theorem between_line_le (before after : List Char) :
    (Position.between before after).line ≤ byteLength before :=
  lineTally_le after.head? before

theorem between_character_le (before after : List Char) :
    (Position.between before after).character ≤ byteLength before := by
  obtain ⟨above, hbefore, -, -⟩ := lineTally_spec before after
  have hline := unitLength_le (lineTally after.head? before).2
  have htotal := congrArg byteLength hbefore
  rw [byteLength_append] at htotal
  have hunits : (Position.between before after).character =
      unitLength (lineTally after.head? before).2 := rfl
  omega

theorem positionAt_of_isBoundary {text : String} {offset : Nat} (h : IsBoundary text offset) :
    ∃ p, positionAt text.toList offset = .ok p := by
  obtain ⟨before, after, htext, hoffset⟩ := isBoundary_iff.mp h
  exact ⟨_, positionAt_eq_ok_iff.mpr ⟨before, after, htext, hoffset, rfl⟩⟩

/-- In a text of such a size no count leaves the range of machine words of 32 bits. -/
theorem counts_of_positionAt {text : String} {offset : Nat} {p : Position}
    (h : text.utf8ByteSize < 2 ^ 32) (hp : positionAt text.toList offset = .ok p) :
    p.line < 2 ^ 32 ∧ p.character < 2 ^ 32 := by
  obtain ⟨before, after, htext, -, rfl⟩ := positionAt_eq_ok_iff.mp hp
  have hlength : byteLength before ≤ text.utf8ByteSize := by
    rw [← byteLength_toList, htext, byteLength_append]
    exact Nat.le_add_right _ _
  have hline := between_line_le before after
  have hcharacter := between_character_le before after
  exact ⟨by omega, by omega⟩

/-! ## Both ways -/

/-- Offsets and positions of a text in one-to-one correspondence. -/
structure Corresponds (text : String) : Prop where
  /-- Offsets are those between any two characters and at the ends. -/
  places : ∀ before after, text.toList = before ++ after → IsBoundary text (byteLength before)
  /-- The position of an offset fits machine words of 32 bits, and leads back to the offset. -/
  there : ∀ offset, IsBoundary text offset → ∃ p, positionAt text.toList offset = .ok p ∧
    p.line < 2 ^ 32 ∧ p.character < 2 ^ 32 ∧ offsetAt text.toList p = .ok offset
  back : ∀ (p : Position) offset, offsetAt text.toList p = .ok offset →
    IsBoundary text offset ∧ positionAt text.toList offset = .ok p
  /-- The parts that an offset is converted by are cut at places of the text: at the offset, and
  where its line starts. -/
  offsetCuts : ∀ offset before after, splitBytes text.toList offset = some (before, after) →
    text.toList = before ++ after ∧ byteLength before = offset ∧
      ∃ above, before = above ++ (lineTally after.head? before).2 ∧
        IsBoundary text (byteLength above)
  /-- The same for a position. -/
  positionCuts : ∀ (p : Position) above rest, splitLine p.line text.toList = some (above, rest) →
    IsBoundary text (byteLength above) ∧
      ∀ line after, splitColumn p.character rest = .ok (line, after) →
        text.toList = above ++ line ++ after ∧ IsBoundary text (byteLength (above ++ line))

theorem corresponds (text : String) (h : text.utf8ByteSize < 2 ^ 32) : Corresponds text where
  places _ _ htext := isBoundary_of_append htext
  there offset hboundary := by
    obtain ⟨p, hp⟩ := positionAt_of_isBoundary hboundary
    obtain ⟨hline, hcharacter⟩ := counts_of_positionAt h hp
    exact ⟨p, hp, hline, hcharacter, offsetAt_eq_ok_iff.mpr (positionAt_eq_ok_iff.mp hp)⟩
  back p offset hoffset := by
    obtain ⟨before, after, htext, rfl, hp⟩ := offsetAt_eq_ok_iff.mp hoffset
    exact ⟨isBoundary_of_append htext, positionAt_eq_ok_iff.mpr ⟨before, after, htext, rfl, hp⟩⟩
  offsetCuts offset before after hcut := by
    obtain ⟨htext, hoffset⟩ := splitBytes_inv hcut
    obtain ⟨above, hbefore, -, -⟩ := lineTally_spec before after
    have habove : text.toList = above ++ ((lineTally after.head? before).2 ++ after) := by
      rw [htext, ← List.append_assoc, ← hbefore]
    exact ⟨htext, hoffset, above, hbefore, isBoundary_of_append habove⟩
  positionCuts p above rest hline := by
    obtain ⟨htext, -⟩ := splitLine_inv hline
    refine ⟨isBoundary_of_append htext, fun line after hcolumn => ?_⟩
    obtain ⟨rfl, -⟩ := splitColumn_inv hcolumn
    rw [← List.append_assoc] at htext
    exact ⟨htext, isBoundary_of_append htext⟩

/-- A text with every kind of line end and a character of two units. -/
def mixed : String := "a\r\n😀\rb\n"

theorem corresponds_mixed : mixed.utf8ByteSize < 2 ^ 32 ∧ Corresponds mixed ∧
    positionAt mixed.toList 2 = .ok ⟨0, 2⟩ ∧ offsetAt mixed.toList ⟨1, 2⟩ = .ok 7 ∧
      offsetAt mixed.toList ⟨3, 0⟩ = .ok mixed.utf8ByteSize :=
  ⟨by decide, corresponds mixed (by decide), by decide, by decide, by decide⟩

end DocSync
