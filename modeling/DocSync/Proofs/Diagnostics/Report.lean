import DocSync.Diagnostics.Snapshot
import DocSync.Proofs.Data.ByteOrder
import DocSync.Proofs.Diagnostics.Registry

/-!
# The last reports

The registry maps a file and an identifier to the last report. What it holds is told by the actions
of a run alone: the diagnostics of a file are its last reports since it was last cleared, one
identifier after the other. Reports under different identifiers or on different files do not
disturb each other, in whatever order they come.
-/
namespace DocSync

/-- What an action says is to be stored about a file under an identifier, if it says anything. -/
def RegistryAction.report? (uri : Uri) (identifier : String) :
    RegistryAction → Option (List Diagnostic)
  | .update other i items => if uri = other ∧ identifier = i then some items else none
  | .clear other => if uri = other then some [] else none
  | .markDisplayed _ | .poll _ => none

/-- What the last of some events that say anything says. -/
def latest {α β : Type} (says? : α → Option β) (fallback : β) (events : List α) : β :=
  (events.reverse.findSome? says?).getD fallback

theorem latest_concat {α β : Type} (says? : α → Option β) (fallback : β) (events : List α) (e : α) :
    latest says? fallback (events ++ [e]) = (says? e).getD (latest says? fallback events) := by
  unfold latest
  rw [List.reverse_append, List.reverse_singleton, List.singleton_append, List.findSome?_cons]
  cases says? e <;> rfl

theorem latest_map {α β γ : Type} (says? : β → Option γ) (fallback : γ) (f : α → β)
    (events : List α) :
    latest says? fallback (events.map f) = latest (fun e => says? (f e)) fallback events := by
  rw [latest, ← List.map_reverse, List.findSome?_map]
  rfl

theorem latest_of_forall_none {α β : Type} {says? : α → Option β} {events : List α}
    (h : ∀ e ∈ events, says? e = none) (fallback : β) :
    latest says? fallback events = fallback := by
  rw [latest, List.findSome?_eq_none_iff.mpr fun e he => h e (List.mem_reverse.mp he)]
  rfl

/-- The last report of a run on a file under an identifier; without one since the file was last
cleared, no diagnostics. -/
def lastReport (uri : Uri) (identifier : String) (actions : List RegistryAction) :
    List Diagnostic :=
  latest (RegistryAction.report? uri identifier) [] actions

namespace Registry

theorem slot_step (r : Registry) (a : RegistryAction) (uri : Uri) (i : String) :
    ((r.step a).file uri).slot i = (a.report? uri i).getD ((r.file uri).slot i) := by
  cases a with
  | update other j items =>
    rw [step_update, slot_update, RegistryAction.report?]
    split <;> rfl
  | markDisplayed other =>
    rw [step_markDisplayed, file_markDisplayed, RegistryAction.report?]
    split
    · rename_i h
      rw [h]
      rfl
    · rfl
  | clear other =>
    rw [step_clear, file_clear, RegistryAction.report?]
    split <;> rfl
  | poll budget => rfl

/-- After a run every list is the last report on it, if there was one in the run. -/
theorem slot_run_latest (r : Registry) (as : List RegistryAction) (uri : Uri) (i : String) :
    ((r.run as).file uri).slot i =
      latest (RegistryAction.report? uri i) ((r.file uri).slot i) as := by
  induction as using List.reverseRecOn with
  | nil => rfl
  | append_singleton as a ih => rw [run_concat, slot_step, ih, latest_concat]

theorem slot_run (capacity : Nat) (as : List RegistryAction) (uri : Uri) (i : String) :
    (((fresh capacity).run as).file uri).slot i = lastReport uri i as :=
  slot_run_latest (fresh capacity) as uri i

theorem diagnostics_run (capacity : Nat) (as : List RegistryAction) (uri : Uri) :
    ∃ identifiers : List String,
      identifiers.Pairwise (fun i j => utf8Bytes i < utf8Bytes j) ∧
      (∀ i, i ∈ identifiers ↔ lastReport uri i as ≠ []) ∧
      ((fresh capacity).run as).diagnostics uri =
        identifiers.flatMap fun i => lastReport uri i as := by
  have hneat := (neat_run capacity as).records uri
  refine ⟨_, hneat.ascending.imp fun h => (lt_iff_utf8Bytes_lt _ _).mp h, fun i => ?_, ?_⟩
  · rw [hneat.mem_identifiers, slot_run]
  · rw [diagnostics, hneat.diagnostics_eq]
    exact List.flatMap_congr fun i _ => slot_run capacity as uri i

/-- Reports that are not both on one file and under one identifier can change places. -/
theorem slots_update_comm {r : Registry} (h : r.Neat) {uri v : Uri} {i j : String}
    (hne : (uri, i) ≠ (v, j)) (items others : List Diagnostic) (w : Uri) :
    (((r.update uri i items).1.update v j others).1.file w).slots =
      (((r.update v j others).1.update uri i items).1.file w).slots := by
  have hleft := (h.step (.update uri i items)).step (.update v j others)
  have hright := (h.step (.update v j others)).step (.update uri i items)
  refine (hleft.records w).slots_congr (hright.records w) fun k => ?_
  show (((r.update uri i items).1.update v j others).1.file w).slot k =
    (((r.update v j others).1.update uri i items).1.file w).slot k
  rw [slot_update, slot_update, slot_update, slot_update]
  by_cases hi : w = uri ∧ k = i
  · have hj : ¬ (w = v ∧ k = j) := by
      rintro ⟨rfl, rfl⟩
      exact hne (by rw [hi.1, hi.2])
    rw [if_pos hi, if_neg hj, if_pos hi]
  · rw [if_neg hi, if_neg hi]

theorem Neat.mem_snapshot {r : Registry} (h : r.Neat) (uri : Uri) (items : List Diagnostic) :
    (uri, items) ∈ (Snapshot.ofRegistry r).files ↔ items = r.diagnostics uri ∧ items ≠ [] := by
  have hempty := (h.records uri).isEmpty_iff
  unfold Snapshot.ofRegistry
  rw [List.mem_mergeSort, List.mem_map]
  constructor
  · rintro ⟨⟨u, f⟩, hmem, heq⟩
    obtain ⟨hmem, hstored⟩ := List.mem_filter.mp hmem
    obtain ⟨rfl, rfl⟩ := Prod.mk.inj heq
    rw [diagnostics, h.file_of_mem hmem] at *
    exact ⟨rfl, fun hnil => by simp [hempty.mpr hnil] at hstored⟩
  · rintro ⟨rfl, hitems⟩
    have hstored : (r.file uri).isEmpty = false := by
      rw [← Bool.not_eq_true, hempty]
      exact hitems
    cases hlookup : r.files.lookup uri with
    | none => simp [file, hlookup, FileRecord.isEmpty] at hstored
    | some f =>
      have hfile : r.file uri = f := by rw [file, hlookup, Option.getD_some]
      refine ⟨(uri, f), List.mem_filter.mpr ⟨Table.mem_of_lookup hlookup, ?_⟩, ?_⟩
      · show (!f.isEmpty) = true
        rw [← hfile, hstored, Bool.not_false]
      · rw [diagnostics, hfile]

end Registry

/-- What a registry answers, and what the next call does to it, in terms of the actions that led to
it. -/
structure Reports (capacity : Nat) (actions : List RegistryAction) (r : Registry) : Prop where
  /-- The diagnostics of a file are its last reports, in the byte order of the identifiers. -/
  diagnostics : ∀ uri, ∃ identifiers : List String,
    identifiers.Pairwise (fun i j => utf8Bytes i < utf8Bytes j) ∧
    (∀ i, i ∈ identifiers ↔ lastReport uri i actions ≠ []) ∧
    r.diagnostics uri = identifiers.flatMap fun i => lastReport uri i actions
  /-- No empty list is stored. -/
  stored : ∀ uri i items, (r.file uri).slots.lookup i = some items ↔
    items = lastReport uri i actions ∧ items ≠ []
  /-- A file is empty, and left out of a snapshot, if it has no diagnostics. -/
  empty : ∀ uri, (r.file uri).isEmpty = true ↔ r.diagnostics uri = []
  listed : ∀ uri items, (uri, items) ∈ (Snapshot.ofRegistry r).files ↔
    items = r.diagnostics uri ∧ items ≠ []
  /-- A report makes a difference if it differs from the last one, and then one event joins the
  queue, if there is room. -/
  changed : ∀ uri i items, (r.update uri i items).2 = true ↔ items ≠ lastReport uri i actions
  announced : ∀ uri i items, (r.update uri i items).1.events =
    if items ≠ lastReport uri i actions ∧ r.events.length < capacity then
      r.events ++ [.changed uri (r.file uri).displayedAt]
    else r.events
  /-- A report concerns one identifier of one file. -/
  kept : ∀ uri i items v j, (v, j) ≠ (uri, i) →
    ((r.update uri i items).1.file v).slot j = (r.file v).slot j
  others : ∀ uri i items v, v ≠ uri → (r.update uri i items).1.file v = r.file v
  /-- Reports on different files or under different identifiers can change places. -/
  commute : ∀ uri i items v j others, (uri, i) ≠ (v, j) → ∀ w,
    (((r.update uri i items).1.update v j others).1.file w).slots =
        (((r.update v j others).1.update uri i items).1.file w).slots ∧
      ((r.update uri i items).1.update v j others).1.diagnostics w =
        ((r.update v j others).1.update uri i items).1.diagnostics w
  /-- So it is when a file is cleared that something was stored about. -/
  cleared : ∀ uri, (r.clear uri).events =
    if r.diagnostics uri ≠ [] ∧ r.events.length < capacity then r.events ++ [.cleared uri]
    else r.events
  /-- Showing a file, and clearing another one, leaves its diagnostics alone. -/
  shown : ∀ uri v, (r.markDisplayed uri).1.diagnostics v = r.diagnostics v ∧
    (r.markDisplayed uri).1.events = r.events
  spared : ∀ uri v, v ≠ uri → (r.clear uri).file v = r.file v

/-- The registry is a map from files and identifiers to the last reports. -/
theorem reports (capacity : Nat) (actions : List RegistryAction) :
    Reports capacity actions ((Registry.fresh capacity).run actions) := by
  have hslot := Registry.slot_run capacity actions
  have hneat := Registry.neat_run capacity actions
  have hcapacity : ((Registry.fresh capacity).run actions).capacity = capacity :=
    Registry.capacity_run _ actions
  refine ⟨Registry.diagnostics_run capacity actions, ?stored, ?empty, hneat.mem_snapshot, ?changed,
    ?announced, ?kept, ?others, ?commute, ?cleared, ?shown, ?spared⟩
  all_goals generalize (Registry.fresh capacity).run actions = r at hslot hneat hcapacity ⊢
  case stored =>
    intro uri i items
    rw [← hslot]
    unfold FileRecord.slot
    cases hlookup : (r.file uri).slots.lookup i with
    | none => simp
    | some found =>
      have hfound := (hneat.records uri).nonempty _ (Table.mem_of_lookup hlookup)
      rw [Option.getD_some, Option.some_inj]
      exact ⟨fun h => ⟨h.symm, h ▸ hfound⟩, fun h => h.1.symm⟩
  case empty => exact fun uri => (hneat.records uri).isEmpty_iff
  case changed =>
    intro uri i items
    rw [r.update_changed, hslot, ne_comm]
  case announced =>
    intro uri i items
    simp only [r.events_update, hslot, hcapacity, ne_comm]
  case kept =>
    intro uri i items v j hne
    rw [r.slot_update, if_neg]
    rintro ⟨rfl, rfl⟩
    exact hne rfl
  case others =>
    intro uri i items v hv
    rw [r.file_update, if_neg fun h => hv h.1]
  case commute =>
    intro uri i items v j others hne w
    have hslots := Registry.slots_update_comm hneat hne items others w
    exact ⟨hslots, congrArg (List.flatMap Prod.snd) hslots⟩
  case cleared =>
    intro uri
    have hstored : (r.file uri).isEmpty = false ↔ r.diagnostics uri ≠ [] := by
      rw [← Bool.not_eq_true]
      exact not_congr (hneat.records uri).isEmpty_iff
    rw [r.events_clear, hcapacity]
    exact if_congr (and_congr_left' hstored) rfl rfl
  case shown =>
    intro uri v
    refine ⟨?_, rfl⟩
    rw [Registry.diagnostics, r.file_markDisplayed]
    split
    · rename_i hv
      rw [hv]
      rfl
    · rfl
  case spared =>
    intro uri v hv
    rw [r.file_clear, if_neg hv]

end DocSync
