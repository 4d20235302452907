import DocSync.Text.Geometry
import Mathlib.Tactic.Common

/-!
# Places of a text

A text that is cut at a byte offset is cut into two parts, and the position between two parts of a
text leads back to them.
-/
namespace DocSync

theorem charUnits_pos (c : Char) : 0 < charUnits c := by
  unfold charUnits
  split <;> omega

theorem byteLength_append (cs ds : List Char) :
    byteLength (cs ++ ds) = byteLength cs + byteLength ds := by
  induction cs with
  | nil => simp [byteLength]
  | cons c cs ih => simp [byteLength, ih, Nat.add_assoc]

theorem splitBytes_append {cs before after : List Char} {n : Nat}
    (h : splitBytes cs n = some (before, after)) : cs = before ++ after := by
  induction cs generalizing n before with
  | nil =>
    cases n with
    | zero =>
      simp only [splitBytes, Option.some.injEq, Prod.mk.injEq] at h
      obtain ⟨rfl, rfl⟩ := h
      rfl
    | succ n => simp [splitBytes] at h
  | cons c cs ih =>
    cases n with
    | zero =>
      simp only [splitBytes, Option.some.injEq, Prod.mk.injEq] at h
      obtain ⟨rfl, rfl⟩ := h
      rfl
    | succ n =>
      rw [splitBytes] at h
      split at h
      · simp only [Option.map_eq_some_iff, Prod.exists, Prod.mk.injEq] at h
        obtain ⟨start, rest, hcut, rfl, rfl⟩ := h
        rw [ih hcut, List.cons_append]
      · cases h

/-- A line cut after some of its characters. -/
theorem splitColumn_cons {c : Char} {rest after : List Char}
    (hend : endsLine c ((rest ++ after).head?) = false)
    (h : splitColumn (unitLength rest) (rest ++ after) = .ok (rest, after)) :
    splitColumn (unitLength (c :: rest)) (c :: rest ++ after) = .ok (c :: rest, after) := by
  obtain ⟨k, hk⟩ : ∃ k, charUnits c + unitLength rest = k + 1 :=
    ⟨charUnits c + unitLength rest - 1, by have := charUnits_pos c; omega⟩
  have hleft : k + 1 - charUnits c = unitLength rest := by omega
  have hfits : ¬ k + 1 < charUnits c := by omega
  rw [List.cons_append, unitLength, hk, splitColumn, hend, if_neg (by simp), if_neg hfits, hleft, h]
  rfl

/-- Counting lines cuts a text at the start of its last line. -/
theorem lineTally_spec (before after : List Char) :
    ∃ above, before = above ++ (lineTally after.head? before).2 ∧
      splitLine (lineTally after.head? before).1 (before ++ after) =
        some (above, (lineTally after.head? before).2 ++ after) ∧
      splitColumn (unitLength (lineTally after.head? before).2)
          ((lineTally after.head? before).2 ++ after) =
        .ok ((lineTally after.head? before).2, after) := by
  induction before with
  | nil =>
    exact ⟨[], rfl, by simp [lineTally, splitLine], by simp [lineTally, unitLength, splitColumn]⟩
  | cons c cs ih =>
    obtain ⟨above, hcs, hline, hcolumn⟩ := ih
    have hnext : (cs ++ after).head? = cs.head?.or after.head? := by
      cases cs <;> simp
    rw [lineTally]
    generalize lineTally after.head? cs = tally at hcs hline hcolumn
    obtain ⟨lines, rest⟩ := tally
    dsimp only at hcs hline hcolumn ⊢
    by_cases hend : endsLine c (cs.head?.or after.head?) = true
    · rw [if_pos hend]
      refine ⟨c :: above, by rw [hcs, List.cons_append], ?_, hcolumn⟩
      rw [List.cons_append, splitLine, hnext, if_pos hend, hline]
      rfl
    · rw [if_neg hend]
      cases lines with
      | zero =>
        rw [if_pos rfl]
        rw [splitLine, Option.some.injEq, Prod.mk.injEq] at hline
        obtain ⟨rfl, -⟩ := hline
        rw [List.nil_append] at hcs
        subst hcs
        refine ⟨[], rfl, rfl, ?_⟩
        rw [← hnext] at hend
        exact splitColumn_cons (by simpa using hend) hcolumn
      | succ lines =>
        rw [if_neg (by simp)]
        refine ⟨c :: above, by rw [hcs, List.cons_append], ?_, hcolumn⟩
        rw [List.cons_append, splitLine, hnext, if_neg hend, hline]
        rfl

/-- The position between two parts of a text cuts the text into these parts. -/
theorem splitPosition_between (before after : List Char) :
    splitPosition (before ++ after) (.between before after) = .ok (before, after) := by
  obtain ⟨above, hbefore, hline, hcolumn⟩ := lineTally_spec before after
  rw [splitPosition, Position.between]
  dsimp only
  rw [hline]
  dsimp only
  rw [hcolumn]
  dsimp only
  rw [← hbefore]

end DocSync
