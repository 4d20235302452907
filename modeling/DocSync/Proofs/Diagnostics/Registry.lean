import DocSync.Diagnostics.Action
import DocSync.Proofs.Data.Table
import Mathlib.Data.List.Flatten
import Mathlib.Data.List.Induction
import Mathlib.Data.List.Perm.Subperm
import Mathlib.Data.List.Sort

/-!
# What an operation does to the registry

Each operation on a registry concerns one file. What is stored about that file afterwards is told by
what was stored before; all other files keep their records. In every record the identifiers ascend
and no list is empty, so that a record is empty exactly if it has no diagnostics.
-/
namespace DocSync

namespace FileRecord

theorem slot_setSlot (f : FileRecord) (i j : String) (items : List Diagnostic) :
    (f.setSlot i items).slot j = if j = i then items else f.slot j := by
  unfold slot setSlot
  dsimp only
  split
  · rename_i hempty
    rw [Sorted.lookup_erase]
    split
    · exact (List.isEmpty_iff.mp hempty).symm
    · rfl
  · rw [Sorted.lookup_insert]
    split <;> rfl

/-- What holds of all records that a registry keeps. -/
structure Neat (f : FileRecord) : Prop where
  ascending : Sorted.Ascending f.slots
  nonempty : ∀ x ∈ f.slots, x.2 ≠ []

theorem neat_empty : Neat {} := ⟨List.Pairwise.nil, by simp⟩

namespace Neat

variable {f g : FileRecord}

theorem setSlot (h : f.Neat) (i : String) (items : List Diagnostic) : (f.setSlot i items).Neat := by
  unfold FileRecord.setSlot
  split
  · exact ⟨Sorted.ascending_erase h.ascending i,
      fun x hx => h.nonempty x (List.mem_of_mem_filter hx)⟩
  · rename_i hitems
    refine ⟨Sorted.ascending_insert h.ascending i items, fun x hx => ?_⟩
    rcases Sorted.mem_insert hx with rfl | hx
    · simpa using hitems
    · exact h.nonempty x hx

/-- The identifiers of a record are those that have diagnostics. -/
theorem mem_identifiers (h : f.Neat) (i : String) : i ∈ f.slots.map Prod.fst ↔ f.slot i ≠ [] := by
  unfold slot
  constructor
  · intro hi
    obtain ⟨x, hx, rfl⟩ := List.mem_map.mp hi
    rw [Sorted.lookup_of_mem h.ascending hx]
    exact h.nonempty x hx
  · intro hi
    cases hlookup : f.slots.lookup i with
    | none =>
      rw [hlookup] at hi
      exact absurd rfl hi
    | some items =>
      exact List.mem_map.mpr ⟨(i, items), Table.mem_of_lookup hlookup, rfl⟩

theorem slots_eq (h : f.Neat) : f.slots = (f.slots.map Prod.fst).map fun i => (i, f.slot i) := by
  rw [List.map_map]
  conv_lhs => rw [← List.map_id f.slots]
  refine List.map_congr_left fun x hx => ?_
  rw [Function.comp_apply, slot, Sorted.lookup_of_mem h.ascending hx]
  rfl

theorem diagnostics_eq (h : f.Neat) :
    f.diagnostics = (f.slots.map Prod.fst).flatMap f.slot := by
  conv_lhs => rw [diagnostics, h.slots_eq]
  rw [List.flatMap_map]

/-- Whatever is stored under different identifiers is contained in the diagnostics. -/
theorem subperm_diagnostics (h : f.Neat) {identifiers : List String} (hnodup : identifiers.Nodup) :
    (identifiers.flatMap f.slot).Subperm f.diagnostics := by
  -- Identifiers without diagnostics are not in the record, and add nothing.
  let stored := identifiers.filter fun i => f.slot i ≠ []
  have hstored : identifiers.flatMap f.slot = stored.flatMap f.slot := by
    clear hnodup
    induction identifiers with
    | nil => rfl
    | cons i is ih => by_cases hi : f.slot i = [] <;> simp_all [stored]
  have hsubset : stored ⊆ f.slots.map Prod.fst := by
    intro i hi
    exact (h.mem_identifiers i).mpr (by simpa using (List.mem_filter.mp hi).2)
  obtain ⟨held, hperm, hsublist⟩ := (hnodup.filter _ : stored.Nodup).subperm hsubset
  rw [hstored, h.diagnostics_eq]
  exact ⟨held.flatMap f.slot, hperm.flatMap_right f.slot, hsublist.flatMap f.slot⟩

/-- Records that agree on every identifier store the same. -/
theorem slots_congr (h : f.Neat) (k : g.Neat) (hslot : ∀ i, f.slot i = g.slot i) :
    f.slots = g.slots := by
  have hidentifiers : f.slots.map Prod.fst = g.slots.map Prod.fst :=
    List.Pairwise.eq_of_mem_iff h.ascending k.ascending fun i => by
      rw [h.mem_identifiers, k.mem_identifiers, hslot]
  rw [h.slots_eq, k.slots_eq, hidentifiers]
  exact List.map_congr_left fun i _ => by rw [hslot]

theorem isEmpty_iff (h : f.Neat) : f.isEmpty = true ↔ f.diagnostics = [] := by
  unfold isEmpty diagnostics
  rw [List.isEmpty_iff, List.flatMap_eq_nil_iff]
  constructor
  · rintro hslots x hx
    rw [hslots] at hx
    cases hx
  · intro hall
    by_contra hslots
    obtain ⟨x, hx⟩ := List.exists_mem_of_ne_nil _ hslots
    exact h.nonempty x hx (hall x hx)

end Neat

end FileRecord

namespace Registry

@[simp] theorem file_fresh (capacity : Nat) (uri : Uri) : (fresh capacity).file uri = {} := rfl

@[simp] theorem file_tick (r : Registry) (uri : Uri) : r.tick.file uri = r.file uri := rfl

@[simp] theorem file_emit (r : Registry) (e : DiagnosticsEvent) (uri : Uri) :
    (r.emit e).file uri = r.file uri := by
  unfold emit
  split <;> rfl

@[simp] theorem ticks_emit (r : Registry) (e : DiagnosticsEvent) : (r.emit e).ticks = r.ticks := by
  unfold emit
  split <;> rfl

theorem events_emit (r : Registry) (e : DiagnosticsEvent) :
    (r.emit e).events = if r.events.length < r.capacity then r.events ++ [e] else r.events := by
  unfold emit
  split <;> rfl

@[simp] theorem capacity_emit (r : Registry) (e : DiagnosticsEvent) :
    (r.emit e).capacity = r.capacity := by
  unfold emit
  split <;> rfl

theorem file_forget (r : Registry) (uri v : Uri) :
    (r.forget uri).file v = if v = uri then {} else r.file v := by
  have hlookup : (r.forget uri).files.lookup v = if v = uri then none else r.files.lookup v :=
    Table.lookup_filter v uri r.files
  unfold file
  rw [hlookup]
  split <;> rfl

theorem file_setFile (r : Registry) (uri v : Uri) (f : FileRecord) :
    (r.setFile uri f).file v = if v = uri then f else r.file v := by
  have hlookup : (r.forget uri).files.lookup v = if v = uri then none else r.files.lookup v :=
    Table.lookup_filter v uri r.files
  have hfile : (r.setFile uri f).file v =
      (((r.forget uri).files ++ [(uri, f)]).lookup v).getD {} := rfl
  rw [hfile, List.lookup_append, hlookup, Table.lookup_cons, List.lookup_nil]
  split
  · rfl
  · rw [Option.or_none, file]

/-! ## Update -/

theorem update_of_eq {r : Registry} {uri : Uri} {i : String} {items : List Diagnostic}
    (h : (r.file uri).slot i = items) : r.update uri i items = (r.tick, false) := if_pos h

theorem update_of_ne {r : Registry} {uri : Uri} {i : String} {items : List Diagnostic}
    (h : (r.file uri).slot i ≠ items) :
    r.update uri i items =
      ((r.tick.setFile uri
          { (r.file uri).setSlot i items with updatedAt := some r.now }).emit
        (.changed uri (r.file uri).displayedAt), true) := if_neg h

theorem update_changed (r : Registry) (uri : Uri) (i : String) (items : List Diagnostic) :
    (r.update uri i items).2 = true ↔ (r.file uri).slot i ≠ items := by
  by_cases h : (r.file uri).slot i = items
  · simp [update_of_eq h, h]
  · simp [update_of_ne h, h]

theorem file_update (r : Registry) (uri v : Uri) (i : String) (items : List Diagnostic) :
    (r.update uri i items).1.file v =
      if v = uri ∧ (r.file uri).slot i ≠ items then
        { (r.file uri).setSlot i items with updatedAt := some r.now }
      else r.file v := by
  by_cases h : (r.file uri).slot i = items
  · simp [update_of_eq h, h]
  · rw [update_of_ne h, file_emit, file_setFile]
    by_cases hv : v = uri <;> simp [hv, h]

theorem slot_update (r : Registry) (uri v : Uri) (i j : String) (items : List Diagnostic) :
    ((r.update uri i items).1.file v).slot j =
      if v = uri ∧ j = i then items else (r.file v).slot j := by
  rw [file_update]
  by_cases hv : v = uri
  · subst hv
    by_cases h : (r.file v).slot i = items
    · by_cases hj : j = i
      · subst hj
        simp [h]
      · simp [h, hj]
    · have hslot : ({ (r.file v).setSlot i items with updatedAt := some r.now } : FileRecord).slot j
          = ((r.file v).setSlot i items).slot j := rfl
      rw [if_pos ⟨rfl, h⟩, hslot, FileRecord.slot_setSlot]
      simp
  · simp [hv]

theorem displayedAt_update (r : Registry) (uri v : Uri) (i : String) (items : List Diagnostic) :
    ((r.update uri i items).1.file v).displayedAt = (r.file v).displayedAt := by
  rw [file_update]
  split
  · rename_i h
    rw [h.1]
    rfl
  · rfl

theorem ticks_update (r : Registry) (uri : Uri) (i : String) (items : List Diagnostic) :
    (r.update uri i items).1.ticks = r.ticks + 1 := by
  by_cases h : (r.file uri).slot i = items
  · rw [update_of_eq h]
    rfl
  · rw [update_of_ne h, ticks_emit]
    rfl

/-- An update that makes a difference is announced once, if there is room. -/
theorem events_update (r : Registry) (uri : Uri) (i : String) (items : List Diagnostic) :
    (r.update uri i items).1.events =
      if (r.file uri).slot i ≠ items ∧ r.events.length < r.capacity then
        r.events ++ [.changed uri (r.file uri).displayedAt]
      else r.events := by
  by_cases h : (r.file uri).slot i = items
  · rw [update_of_eq h, if_neg fun hne => hne.1 h]
    rfl
  · rw [update_of_ne h, events_emit]
    exact if_congr (iff_and_self.mpr fun _ => h) rfl rfl

/-! ## Display and clearing -/

theorem file_markDisplayed (r : Registry) (uri v : Uri) :
    (r.markDisplayed uri).1.file v =
      if v = uri then { r.file uri with displayedAt := some r.now } else r.file v := by
  rw [markDisplayed, file_setFile]
  rfl

theorem file_clear (r : Registry) (uri v : Uri) :
    (r.clear uri).file v = if v = uri then {} else r.file v := by
  unfold clear
  split
  · exact r.file_forget uri v
  · rw [file_emit, file_forget]

theorem ticks_clear (r : Registry) (uri : Uri) : (r.clear uri).ticks = r.ticks := by
  unfold clear
  split
  · rfl
  · rw [ticks_emit]
    rfl

/-- Clearing a file is announced if something was stored about it, and there is room. -/
theorem events_clear (r : Registry) (uri : Uri) :
    (r.clear uri).events =
      if (r.file uri).isEmpty = false ∧ r.events.length < r.capacity then
        r.events ++ [.cleared uri]
      else r.events := by
  unfold clear
  split
  · rename_i h
    rw [if_neg fun hne => by simp [h] at hne]
    rfl
  · rename_i h
    rw [events_emit]
    exact if_congr (iff_and_self.mpr fun _ => by simpa using h) rfl rfl

/-! ## Runs -/

theorem step_update (r : Registry) (uri : Uri) (i : String) (items : List Diagnostic) :
    r.step (.update uri i items) = (r.update uri i items).1 := rfl

theorem step_markDisplayed (r : Registry) (uri : Uri) :
    r.step (.markDisplayed uri) = (r.markDisplayed uri).1 := rfl

theorem step_clear (r : Registry) (uri : Uri) : r.step (.clear uri) = r.clear uri := rfl

theorem run_append (r : Registry) (as bs : List RegistryAction) :
    r.run (as ++ bs) = (r.run as).run bs := List.foldl_append

theorem run_concat (r : Registry) (as : List RegistryAction) (a : RegistryAction) :
    r.run (as ++ [a]) = (r.run as).step a := by simp [run]

/-- What holds at first and is kept by every action holds after every run. -/
theorem run_induct {P : Registry → Prop} (hstep : ∀ r a, P r → P (r.step a)) {r : Registry}
    (h : P r) (as : List RegistryAction) : P (r.run as) := by
  induction as using List.reverseRecOn with
  | nil => exact h
  | append_singleton as a ih =>
    rw [run_concat]
    exact hstep _ a ih

theorem capacity_step (r : Registry) (a : RegistryAction) : (r.step a).capacity = r.capacity := by
  cases a with
  | update uri i items =>
    rw [step_update, update]
    dsimp only
    split
    · rfl
    · exact capacity_emit _ _
  | clear uri =>
    rw [step_clear, clear]
    split
    · rfl
    · exact capacity_emit _ _
  | markDisplayed uri => rfl
  | poll budget => rfl

theorem capacity_run (r : Registry) (as : List RegistryAction) :
    (r.run as).capacity = r.capacity := by
  have hstep (s : Registry) (a : RegistryAction) (h : s.capacity = r.capacity) :
      (s.step a).capacity = r.capacity := (s.capacity_step a).trans h
  exact run_induct hstep rfl as

theorem log_append (r : Registry) (as bs : List RegistryAction) :
    r.log (as ++ bs) = r.log as ++ (r.run as).log bs := by
  induction as generalizing r with
  | nil => rfl
  | cons a as ih =>
    rw [List.cons_append, log, ih, log, List.cons_append]
    rfl

theorem log_concat (r : Registry) (as : List RegistryAction) (a : RegistryAction) :
    r.log (as ++ [a]) = r.log as ++ [((r.run as).perform a).2] := r.log_append as [a]

/-- What holds of all registries: a file has one record, and a neat one. -/
structure Neat (r : Registry) : Prop where
  distinct : (r.files.map Prod.fst).Nodup
  records : ∀ uri, (r.file uri).Neat

namespace Neat

variable {r : Registry}

theorem file_of_mem (h : r.Neat) {uri : Uri} {f : FileRecord} (hmem : (uri, f) ∈ r.files) :
    r.file uri = f := by
  rw [file, Table.lookup_of_mem h.distinct hmem]
  rfl

theorem forget (h : r.Neat) (uri : Uri) : (r.forget uri).Neat := by
  refine ⟨List.Pairwise.sublist (List.filter_sublist.map Prod.fst) h.distinct, fun v => ?_⟩
  rw [file_forget]
  split
  · exact FileRecord.neat_empty
  · exact h.records v

theorem setFile (h : r.Neat) (uri : Uri) {f : FileRecord} (hf : f.Neat) :
    (r.setFile uri f).Neat := by
  refine ⟨?_, fun v => ?_⟩
  · have hnew : uri ∉ (r.forget uri).files.map Prod.fst := by
      intro hmem
      obtain ⟨x, hx, rfl⟩ := List.mem_map.mp hmem
      simpa using List.of_mem_filter hx
    have hfiles : (r.setFile uri f).files.map Prod.fst =
        (r.forget uri).files.map Prod.fst ++ [uri] := List.map_append
    rw [hfiles, ← List.concat_eq_append]
    exact (h.forget uri).distinct.concat hnew
  · rw [file_setFile]
    split
    · exact hf
    · exact h.records v

theorem emit (h : r.Neat) (e : DiagnosticsEvent) : (r.emit e).Neat := by
  unfold Registry.emit
  split
  · exact ⟨h.distinct, h.records⟩
  · exact h

theorem step (h : r.Neat) (a : RegistryAction) : (r.step a).Neat := by
  have htick : r.tick.Neat := ⟨h.distinct, h.records⟩
  cases a with
  | update uri i items =>
    have hset := (h.records uri).setSlot i items
    rw [step_update, Registry.update]
    dsimp only
    split
    · exact htick
    · refine (htick.setFile uri ?_).emit _
      exact ⟨hset.ascending, hset.nonempty⟩
  | markDisplayed uri =>
    exact htick.setFile uri ⟨(h.records uri).ascending, (h.records uri).nonempty⟩
  | clear uri =>
    rw [step_clear, Registry.clear]
    split
    · exact h.forget uri
    · exact (h.forget uri).emit _
  | poll budget => exact ⟨h.distinct, h.records⟩

end Neat

theorem neat_fresh (capacity : Nat) : (fresh capacity).Neat :=
  ⟨List.nodup_nil, fun _ => FileRecord.neat_empty⟩

theorem neat_run (capacity : Nat) (as : List RegistryAction) : ((fresh capacity).run as).Neat :=
  run_induct (fun _ a h => h.step a) (neat_fresh capacity) as

end Registry

end DocSync
