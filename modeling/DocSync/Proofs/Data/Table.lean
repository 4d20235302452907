import DocSync.Data.List
import Mathlib.Data.List.Forall2
import Mathlib.Data.List.Induction
import Mathlib.Data.Option.Defs
import Mathlib.Data.String.Basic

/-!
# Looking up in tables

What a table says of a name after one name was given a value or taken out. A sorted table stays
sorted, and the values of its names stand in the order of the names.
-/
namespace DocSync

namespace Table

variable {α β : Type}

theorem names_eq {γ : Type} {R : α → γ → Prop} {table : List (β × α)} {table' : List (β × γ)}
    (h : List.Forall₂ (fun x y => x.1 = y.1 ∧ R x.2 y.2) table table') :
    table.map Prod.fst = table'.map Prod.fst := by
  induction h with
  | nil => rfl
  | cons hxy _ ih => rw [List.map_cons, List.map_cons, hxy.1, ih]

variable [DecidableEq β]

theorem lookup_cons (key name : β) (value : α) (table : List (β × α)) :
    ((name, value) :: table).lookup key =
      if key = name then some value else table.lookup key := by
  rw [List.lookup_cons]
  by_cases h : key = name
  · simp [h]
  · rw [beq_false_of_ne h, if_neg h]

theorem lookup_filter (key name : β) (table : List (β × α)) :
    (table.filter fun x => x.1 != name).lookup key =
      if key = name then none else table.lookup key := by
  induction table with
  | nil => simp
  | cons entry rest ih =>
    obtain ⟨k, v⟩ := entry
    by_cases hk : k = name
    · subst hk
      rw [List.filter_cons_of_neg (by simp), ih, lookup_cons]
      by_cases h : key = k <;> simp [h]
    · rw [List.filter_cons_of_pos (by simpa using hk), lookup_cons, ih, lookup_cons]
      by_cases h : key = k
      · subst h
        simp [hk]
      · simp [h]

theorem lookup_filter_of_ne {key name : β} (h : key ≠ name) (table : List (β × α)) :
    (table.filter fun x => x.1 != name).lookup key = table.lookup key := by
  rw [lookup_filter, if_neg h]

theorem lookup_of_mem {table : List (β × α)} (h : (table.map Prod.fst).Nodup) {x : β × α}
    (hmem : x ∈ table) : table.lookup x.1 = some x.2 := by
  obtain ⟨left, right, rfl⟩ := List.append_of_mem hmem
  rw [List.map_append, List.nodup_append] at h
  obtain ⟨-, -, hleft⟩ := h
  refine List.lookup_eq_some_iff.mpr ⟨left, right, rfl, fun y hy => ?_⟩
  have hne := hleft y.1 (List.mem_map_of_mem hy) x.1 (by simp)
  simpa using Ne.symm hne

theorem mem_of_lookup {table : List (β × α)} {key : β} {value : α}
    (h : table.lookup key = some value) : (key, value) ∈ table := by
  obtain ⟨before, after, rfl, -⟩ := List.lookup_eq_some_iff.mp h
  simp

theorem isSome_lookup_iff {table : List (β × α)} {key : β} :
    (table.lookup key).isSome ↔ key ∈ table.map Prod.fst := by
  rw [List.lookup_isSome_iff, List.mem_map]
  exact exists_congr fun x => and_congr_right fun _ => by rw [beq_iff_eq, eq_comm]

/-- Tables with the same names and related values say related things of every name. -/
theorem lookup_rel {γ : Type} {R : α → γ → Prop} {table : List (β × α)} {table' : List (β × γ)}
    (h : List.Forall₂ (fun x y => x.1 = y.1 ∧ R x.2 y.2) table table') (key : β) :
    Option.Rel R (table.lookup key) (table'.lookup key) := by
  induction h with
  | nil => exact .none
  | @cons x y _ _ hxy _ ih =>
    obtain ⟨name, value⟩ := x
    obtain ⟨name', value'⟩ := y
    obtain ⟨rfl, hvalue⟩ := hxy
    rw [lookup_cons, lookup_cons]
    split
    · exact .some hvalue
    · exact ih

end Table

namespace Sorted

variable {α : Type}

theorem lookup_insert (key name : String) (value : α) (table : List (String × α)) :
    (insert name value table).lookup key =
      if key = name then some value else table.lookup key := by
  induction table with
  | nil => exact Table.lookup_cons key name value []
  | cons entry rest ih =>
    obtain ⟨k, v⟩ := entry
    unfold insert
    split
    · exact Table.lookup_cons key name value _
    · split
      · rename_i heq
        subst heq
        rw [Table.lookup_cons, Table.lookup_cons]
        split <;> rfl
      · rename_i hne
        rw [Table.lookup_cons, ih, Table.lookup_cons]
        by_cases hk : key = k
        · subst hk
          simp [Ne.symm hne]
        · simp [hk]

theorem lookup_erase (key name : String) (table : List (String × α)) :
    (erase name table).lookup key = if key = name then none else table.lookup key :=
  Table.lookup_filter key name table

theorem mem_insert {name : String} {value : α} {table : List (String × α)} {x : String × α}
    (h : x ∈ insert name value table) : x = (name, value) ∨ x ∈ table := by
  induction table with
  | nil => exact .inl (List.mem_singleton.mp h)
  | cons entry rest ih =>
    obtain ⟨k, v⟩ := entry
    unfold insert at h
    split at h
    · exact List.mem_cons.mp h
    · split at h
      · exact (List.mem_cons.mp h).imp_right (List.mem_cons_of_mem _)
      · rcases List.mem_cons.mp h with rfl | h
        · exact .inr List.mem_cons_self
        · exact (ih h).imp_right (List.mem_cons_of_mem _)

theorem ascending_insert {table : List (String × α)} (h : Ascending table) (name : String)
    (value : α) : Ascending (insert name value table) := by
  unfold Ascending at h ⊢
  induction table with
  | nil => exact List.pairwise_singleton _ _
  | cons entry rest ih =>
    obtain ⟨k, v⟩ := entry
    obtain ⟨hfirst, hrest⟩ := List.pairwise_cons.mp h
    unfold insert
    split
    · rename_i hlt
      refine List.pairwise_cons.mpr ⟨fun other hother => ?_, h⟩
      rcases List.mem_cons.mp hother with rfl | hother
      · exact hlt
      · exact hlt.trans (hfirst other hother)
    · rename_i hnotlt
      split
      · rename_i heq
        subst heq
        exact h
      · rename_i hne
        have hgt : k < name := lt_of_le_of_ne (not_lt.mp hnotlt) (Ne.symm hne)
        refine List.pairwise_cons.mpr ⟨fun other hother => ?_, ih hrest⟩
        obtain ⟨x, hx, rfl⟩ := List.mem_map.mp hother
        rcases mem_insert hx with rfl | hx
        · exact hgt
        · exact hfirst x.1 (List.mem_map_of_mem hx)

theorem ascending_erase {table : List (String × α)} (h : Ascending table) (name : String) :
    Ascending (erase name table) :=
  List.Pairwise.sublist (List.filter_sublist.map Prod.fst) h

theorem lookup_of_mem {table : List (String × α)} (h : Ascending table) {x : String × α}
    (hx : x ∈ table) : table.lookup x.1 = some x.2 :=
  Table.lookup_of_mem (List.Pairwise.imp ne_of_lt h) hx

theorem ofList_concat (entries : List (String × α)) (x : String × α) :
    ofList (entries ++ [x]) = insert x.1 x.2 (ofList entries) := by
  rw [ofList, List.foldl_append]
  rfl

theorem ascending_ofList (entries : List (String × α)) : Ascending (ofList entries) := by
  induction entries using List.reverseRecOn with
  | nil => exact List.Pairwise.nil
  | append_singleton entries x ih =>
    rw [ofList_concat]
    exact ascending_insert ih x.1 x.2

theorem insert_perm {name : String} {table : List (String × α)}
    (h : name ∉ table.map Prod.fst) (value : α) :
    (insert name value table).Perm ((name, value) :: table) := by
  induction table with
  | nil => exact .refl _
  | cons entry rest ih =>
    obtain ⟨k, v⟩ := entry
    rw [List.map_cons, List.mem_cons, not_or] at h
    unfold insert
    rw [if_neg h.1]
    split
    · exact .refl _
    · exact ((ih h.2).cons (k, v)).trans (.swap ..)

theorem ofList_perm {entries : List (String × α)} (h : (entries.map Prod.fst).Nodup) :
    (ofList entries).Perm entries := by
  induction entries using List.reverseRecOn with
  | nil => exact .refl _
  | append_singleton entries x ih =>
    rw [((List.perm_append_singleton x entries).map Prod.fst).nodup_iff, List.map_cons,
      List.nodup_cons] at h
    obtain ⟨hnew, hrest⟩ := h
    have hfresh : x.1 ∉ (ofList entries).map Prod.fst := fun hmem =>
      hnew (((ih hrest).map Prod.fst).mem_iff.mp hmem)
    rw [ofList_concat]
    exact (insert_perm hfresh x.2).trans
      (((ih hrest).cons x).trans (List.perm_append_singleton x entries).symm)

/-- Sorting forgets in which order different names were given. -/
theorem ofList_congr {entries entries' : List (String × α)} (h : (entries.map Prod.fst).Nodup)
    (hperm : entries.Perm entries') : ofList entries = ofList entries' := by
  have h' : (entries'.map Prod.fst).Nodup := (hperm.map Prod.fst).nodup_iff.mp h
  have hsorted : (ofList entries).Perm (ofList entries') :=
    (ofList_perm h).trans (hperm.trans (ofList_perm h').symm)
  exact hsorted.eq_of_pairwise (fun _ _ _ _ hlt hgt => absurd (hlt.trans hgt) (lt_irrefl _))
    (List.pairwise_map.mp (ascending_ofList entries))
    (List.pairwise_map.mp (ascending_ofList entries'))

/-- Of several values with one name the last one counts. -/
theorem lookup_ofList (key : String) (entries : List (String × α)) :
    (ofList entries).lookup key = entries.reverse.lookup key := by
  induction entries using List.reverseRecOn with
  | nil => rfl
  | append_singleton entries x ih =>
    rw [ofList_concat, lookup_insert, ih, List.reverse_concat, Table.lookup_cons]

end Sorted

end DocSync
