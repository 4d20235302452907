import DocSync.Data.List
import Mathlib.Data.List.Basic

/-!
# Cutting and joining

The parts of a list hold no separator, and parts without a separator are found again after they were
joined by one. A list is cut at the last of its separators, after which there is no other.
-/
namespace DocSync.Split

variable {α : Type} {separates : α → Bool}

theorem parts_of_separator {s : α} (hs : separates s = true) (rest : List α) :
    parts separates (s :: rest) = [] :: parts separates rest := by
  rw [parts, hs]

/-- What is no separator belongs to the part that begins after it. -/
theorem parts_cons {x : α} (hx : separates x = false) {xs part : List α} {others : List (List α)}
    (h : parts separates xs = part :: others) :
    parts separates (x :: xs) = (x :: part) :: others := by
  rw [parts, hx, h]

theorem exists_parts (separates : α → Bool) (xs : List α) :
    ∃ part others, parts separates xs = part :: others := by
  cases xs with
  | nil => exact ⟨[], [], rfl⟩
  | cons x xs =>
    unfold parts
    split
    · exact ⟨_, _, rfl⟩
    · exact ⟨_, _, rfl⟩
    · exact ⟨_, _, rfl⟩

theorem not_separates_of_mem_parts {xs part : List α} (h : part ∈ parts separates xs) :
    ∀ x ∈ part, separates x = false := by
  induction xs generalizing part with
  | nil =>
    rw [List.mem_singleton.mp h]
    simp
  | cons x xs ih =>
    by_cases hx : separates x = true
    · rw [parts_of_separator hx] at h
      rcases List.mem_cons.mp h with rfl | h
      · simp
      · exact ih h
    · rw [Bool.not_eq_true] at hx
      obtain ⟨first, others, hparts⟩ := exists_parts separates xs
      rw [parts_cons hx hparts] at h
      rw [hparts] at ih
      rcases List.mem_cons.mp h with rfl | h
      · intro y hy
        rcases List.mem_cons.mp hy with rfl | hy
        · exact hx
        · exact ih List.mem_cons_self y hy
      · exact ih (List.mem_cons_of_mem first h)

theorem parts_eq_singleton {xs : List α} (h : ∀ x ∈ xs, separates x = false) :
    parts separates xs = [xs] := by
  induction xs with
  | nil => rfl
  | cons x xs ih =>
    exact parts_cons (h x List.mem_cons_self) (ih fun y hy => h y (List.mem_cons_of_mem x hy))

theorem parts_append {xs : List α} (h : ∀ x ∈ xs, separates x = false) {s : α}
    (hs : separates s = true) (rest : List α) :
    parts separates (xs ++ s :: rest) = xs :: parts separates rest := by
  induction xs with
  | nil => exact parts_of_separator hs rest
  | cons x xs ih =>
    exact parts_cons (h x List.mem_cons_self) (ih fun y hy => h y (List.mem_cons_of_mem x hy))

theorem mem_intercalate {s x : α} {names : List (List α)} (h : x ∈ [s].intercalate names) :
    x = s ∨ ∃ name ∈ names, x ∈ name := by
  induction names with
  | nil => simp at h
  | cons name others ih =>
    cases others with
    | nil =>
      rw [List.intercalate_singleton] at h
      exact .inr ⟨name, List.mem_cons_self, h⟩
    | cons next others =>
      rw [List.intercalate_cons_cons, List.append_assoc, List.singleton_append, List.mem_append,
        List.mem_cons] at h
      rcases h with h | h | h
      · exact .inr ⟨name, List.mem_cons_self, h⟩
      · exact .inl h
      · exact (ih h).imp_right fun ⟨n, hn, hx⟩ => ⟨n, List.mem_cons_of_mem name hn, hx⟩

/-- Parts that were joined are found again. -/
theorem parts_intercalate {s : α} (hs : separates s = true) {names : List (List α)}
    (hne : names ≠ []) (h : ∀ name ∈ names, ∀ x ∈ name, separates x = false) :
    parts separates ([s].intercalate names) = names := by
  induction names with
  | nil => exact absurd rfl hne
  | cons name others ih =>
    have hname := h name List.mem_cons_self
    cases others with
    | nil =>
      rw [List.intercalate_singleton]
      exact parts_eq_singleton hname
    | cons next others =>
      have hothers := ih (List.cons_ne_nil next others) fun n hn =>
        h n (List.mem_cons_of_mem name hn)
      rw [List.intercalate_cons_cons, List.append_assoc, List.singleton_append,
        parts_append hname hs, hothers]

section Last

variable [DecidableEq α] {sep : α}

theorem cutLast_eq_none_iff {xs : List α} : cutLast sep xs = none ↔ sep ∉ xs := by
  induction xs with
  | nil => simp [cutLast]
  | cons x xs ih =>
    rw [List.mem_cons, not_or, ← ih, cutLast]
    cases cutLast sep xs with
    | none => simp [eq_comm]
    | some cut => simp

theorem cutLast_append {after : List α} (h : sep ∉ after) (before : List α) :
    cutLast sep (before ++ sep :: after) = some (before, after) := by
  induction before with
  | nil => rw [List.nil_append, cutLast, cutLast_eq_none_iff.mpr h, if_pos rfl]
  | cons x before ih => rw [List.cons_append, cutLast, ih]

theorem cutLast_eq_some_iff {xs before after : List α} :
    cutLast sep xs = some (before, after) ↔ xs = before ++ sep :: after ∧ sep ∉ after := by
  constructor
  · intro h
    induction xs generalizing before with
    | nil => cases h
    | cons x xs ih =>
      rw [cutLast] at h
      split at h
      · rename_i before' after' hcut
        cases h
        obtain ⟨rfl, hafter⟩ := ih hcut
        exact ⟨rfl, hafter⟩
      · rename_i hcut
        split at h
        · rename_i hx
          cases h
          exact ⟨by rw [hx, List.nil_append], cutLast_eq_none_iff.mp hcut⟩
        · cases h
  · rintro ⟨rfl, h⟩
    exact cutLast_append h before

end Last

end DocSync.Split
