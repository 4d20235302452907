import DocSync.Proofs.Diagnostics.Report

/-!
# The queue of announcements

What an action announces is told by what it changed. An announcement enters the queue if there is
room for it and is lost otherwise; polls take the oldest ones out. So what the polls of a run
returned, and after it what is still queued, are the announcements that found room, each once and in
order. Neither the polls nor the length of the queue have any influence on what is stored.
-/
namespace DocSync

def DiagnosticsEvent.uri : DiagnosticsEvent → Uri
  | .changed uri _ | .cleared uri => uri

namespace RegistryEntry

/-- The events that were returned. -/
def events : RegistryEntry → List DiagnosticsEvent
  | .polled _ events => events
  | .updated .. | .displayed .. | .cleared _ => []

def isPoll : RegistryEntry → Bool
  | .polled .. => true
  | .updated .. | .displayed .. | .cleared _ => false

/-- What an entry tells about when a file was last shown, if it tells anything. -/
def shown? (uri : Uri) : RegistryEntry → Option (Option Stamp)
  | .displayed other s => if uri = other then some (some s) else none
  | .cleared other => if uri = other then some none else none
  | .updated .. | .polled .. => none

end RegistryEntry

def RegistryAction.isPoll : RegistryAction → Bool
  | .poll _ => true
  | .update .. | .markDisplayed _ | .clear _ => false

/-- The stamp of the last display of a file, if there was one since it was last cleared. -/
def lastShown (uri : Uri) (log : List RegistryEntry) : Option Stamp :=
  latest (RegistryEntry.shown? uri) none log

/-- The events that the polls of a run returned. -/
def polledOf (log : List RegistryEntry) : List DiagnosticsEvent := log.flatMap RegistryEntry.events

namespace Registry

/-- What an action announces: a change that a report made, or that a file with diagnostics was
cleared. -/
def announcement? (r : Registry) : RegistryAction → Option DiagnosticsEvent
  | .update uri i items =>
    if (r.update uri i items).2 = true then some (.changed uri (r.file uri).displayedAt) else none
  | .clear uri => if (r.file uri).isEmpty = true then none else some (.cleared uri)
  | .markDisplayed _ | .poll _ => none

def hasRoom (r : Registry) : Bool := r.events.length < r.capacity

/-- The announcements of a run. -/
def announced (r : Registry) : List RegistryAction → List DiagnosticsEvent
  | [] => []
  | a :: as => (r.announcement? a).toList ++ (r.step a).announced as

/-- The announcements of a run that find room. -/
def admitted (r : Registry) : List RegistryAction → List DiagnosticsEvent
  | [] => []
  | a :: as => (if r.hasRoom then (r.announcement? a).toList else []) ++ (r.step a).admitted as

theorem displayedAt_step (r : Registry) (a : RegistryAction) (uri : Uri) :
    ((r.step a).file uri).displayedAt =
      ((r.perform a).2.shown? uri).getD (r.file uri).displayedAt := by
  cases a with
  | update other i items => exact r.displayedAt_update other uri i items
  | markDisplayed other =>
    rw [step_markDisplayed, file_markDisplayed, perform, RegistryEntry.shown?]
    split <;> rfl
  | clear other =>
    rw [step_clear, file_clear, perform, RegistryEntry.shown?]
    split <;> rfl
  | poll budget => rfl

theorem displayedAt_run (capacity : Nat) (as : List RegistryAction) (uri : Uri) :
    (((fresh capacity).run as).file uri).displayedAt = lastShown uri ((fresh capacity).log as) := by
  induction as using List.reverseRecOn with
  | nil => rfl
  | append_singleton as a ih =>
    rw [run_concat, log_concat, displayedAt_step, ih]
    exact (latest_concat _ none _ _).symm

/-! ## Through the queue -/

/-- What was queued and what an action announces, if there is room for it, is what the action
returns and what is queued afterwards. -/
theorem events_step (r : Registry) (a : RegistryAction) :
    r.events ++ (if r.hasRoom then (r.announcement? a).toList else []) =
      (r.perform a).2.events ++ (r.step a).events := by
  have hroom : r.hasRoom = true ↔ r.events.length < r.capacity := decide_eq_true_iff
  cases a with
  | update uri i items =>
    show _ = [] ++ (r.update uri i items).1.events
    simp only [events_update, ← hroom, List.nil_append, announcement?]
    by_cases hne : (r.file uri).slot i = items
    · simp [update_of_eq hne, hne]
    · cases hr : r.hasRoom <;> simp [update_of_ne hne, hne]
  | markDisplayed uri => simp [announcement?, perform, RegistryEntry.events, step, markDisplayed,
      setFile, forget, tick]
  | clear uri =>
    show _ = [] ++ (r.clear uri).events
    simp only [events_clear, ← hroom, List.nil_append, announcement?]
    cases hempty : (r.file uri).isEmpty <;> cases hr : r.hasRoom <;> simp
  | poll budget =>
    show _ = r.events.take budget ++ r.events.drop budget
    simp [announcement?, List.take_append_drop]

theorem events_run (r : Registry) (as : List RegistryAction) :
    r.events ++ r.admitted as = polledOf (r.log as) ++ (r.run as).events := by
  induction as generalizing r with
  | nil => exact List.append_nil _
  | cons a as ih =>
    have hlog : polledOf (r.log (a :: as)) =
        (r.perform a).2.events ++ polledOf ((r.step a).log as) := List.flatMap_cons
    rw [admitted, ← List.append_assoc, events_step, List.append_assoc, ih, hlog, List.append_assoc]
    rfl

theorem polledOf_append (xs ys : List RegistryEntry) :
    polledOf (xs ++ ys) = polledOf xs ++ polledOf ys := List.flatMap_append

theorem polledOf_log {as : List RegistryAction} (h : ∀ a ∈ as, a.isPoll = false) (r : Registry) :
    polledOf (r.log as) = [] := by
  induction as generalizing r with
  | nil => rfl
  | cons a as ih =>
    have hfirst : (r.perform a).2.events = [] := by
      cases a with
      | poll budget => cases h _ List.mem_cons_self
      | _ => rfl
    have hrest := ih (fun b hb => h b (List.mem_cons_of_mem _ hb)) (r.step a)
    rw [log, polledOf, List.flatMap_cons, hfirst, List.nil_append]
    exact hrest

theorem length_events_step {r : Registry} (h : r.events.length ≤ r.capacity) (a : RegistryAction) :
    (r.step a).events.length ≤ (r.step a).capacity := by
  have hlength := congrArg List.length (r.events_step a)
  rw [List.length_append, List.length_append] at hlength
  rw [capacity_step]
  cases hroom : r.hasRoom with
  | false =>
    rw [hroom] at hlength
    simp only [Bool.false_eq_true, if_false, List.length_nil] at hlength
    omega
  | true =>
    have hlt : r.events.length < r.capacity := of_decide_eq_true hroom
    have hone : (r.announcement? a).toList.length ≤ 1 := Option.length_toList_le
    rw [hroom, if_pos rfl] at hlength
    omega

theorem length_events_run (capacity : Nat) (as : List RegistryAction) :
    ((fresh capacity).run as).events.length ≤ capacity := by
  have hstep (s : Registry) (a : RegistryAction) (h : s.events.length ≤ s.capacity) :
      (s.step a).events.length ≤ (s.step a).capacity := length_events_step h a
  exact (run_induct hstep (Nat.zero_le _) as).trans_eq (capacity_run _ as)

theorem admitted_eq (r : Registry) (as : List RegistryAction)
    (h : ∀ before a after, as = before ++ a :: after → (r.run before).hasRoom = true) :
    r.admitted as = r.announced as := by
  induction as generalizing r with
  | nil => rfl
  | cons a as ih =>
    have hrest := ih (r.step a) fun before b after heq =>
      h (a :: before) b after (by rw [heq, List.cons_append])
    have hroom : r.hasRoom = true := h [] a as rfl
    rw [admitted, announced, hrest, if_pos hroom]

/-! ## What is not announced -/

/-- An action that announces nothing about a file leaves its diagnostics alone. -/
theorem diagnostics_unannounced {r : Registry} {a : RegistryAction} {uri : Uri}
    (h : ∀ e ∈ r.announcement? a, e.uri ≠ uri) :
    (r.step a).diagnostics uri = r.diagnostics uri := by
  cases a with
  | update other i items =>
    rw [step_update, diagnostics, file_update, if_neg]
    · rfl
    · rintro ⟨rfl, hne⟩
      refine h (.changed uri (r.file uri).displayedAt) ?_ rfl
      exact if_pos ((r.update_changed _ i items).mpr hne)
  | markDisplayed other =>
    rw [step_markDisplayed, diagnostics, file_markDisplayed]
    split
    · rename_i huri
      subst huri
      rfl
    · rfl
  | clear other =>
    rw [step_clear, diagnostics, file_clear]
    split
    · rename_i huri
      subst huri
      rw [announcement?] at h
      split at h
      · rename_i hempty
        have hslots : (r.file uri).slots = [] := List.isEmpty_iff.mp hempty
        rw [diagnostics, FileRecord.diagnostics, FileRecord.diagnostics, hslots]
      · exact absurd rfl (h (.cleared uri) rfl)
    · rfl
  | poll budget => rfl

theorem diagnostics_unannounced_run {r : Registry} {as : List RegistryAction} {uri : Uri}
    (h : ∀ e ∈ r.announced as, e.uri ≠ uri) : (r.run as).diagnostics uri = r.diagnostics uri := by
  induction as generalizing r with
  | nil => rfl
  | cons a as ih =>
    have hrest := ih fun e he => h e (List.mem_append_right _ he)
    have hfirst : (r.step a).diagnostics uri = r.diagnostics uri :=
      diagnostics_unannounced fun e he => h e (List.mem_append_left _ (Option.mem_toList.mpr he))
    exact hrest.trans hfirst

/-! ## What polls have no influence on -/

/-- Two registries store the same, and their clocks agree. -/
structure Same (r r' : Registry) : Prop where
  files : r.files = r'.files
  ticks : r.ticks = r'.ticks

namespace Same

variable {r r' : Registry}

theorem emit (h : r.Same r') (e e' : DiagnosticsEvent) : (r.emit e).Same (r'.emit e') := by
  unfold Registry.emit
  split <;> split <;> exact ⟨h.files, h.ticks⟩

theorem forget (h : r.Same r') (uri : Uri) : (r.forget uri).Same (r'.forget uri) :=
  ⟨congrArg (List.filter _) h.files, h.ticks⟩

theorem setFile (h : r.Same r') (uri : Uri) (f : FileRecord) :
    (r.setFile uri f).Same (r'.setFile uri f) :=
  ⟨congrArg (· ++ [(uri, f)]) (h.forget uri).files, h.ticks⟩

theorem tick (h : r.Same r') : r.tick.Same r'.tick := ⟨h.files, congrArg (· + 1) h.ticks⟩

theorem perform (h : r.Same r') {a : RegistryAction} (ha : a.isPoll = false) :
    (r.step a).Same (r'.step a) ∧ (r.perform a).2 = (r'.perform a).2 := by
  have hfile (uri : Uri) : r.file uri = r'.file uri := by rw [file, file, h.files]
  have hnow : r.now = r'.now := congrArg (fun n => (⟨n + 1⟩ : Stamp)) h.ticks
  cases a with
  | update uri i items =>
    simp only [Registry.step, Registry.perform, update, hfile, hnow]
    split
    · exact ⟨h.tick, rfl⟩
    · exact ⟨(h.tick.setFile uri _).emit _ _, rfl⟩
  | markDisplayed uri =>
    simp only [Registry.step, Registry.perform, markDisplayed, hfile, hnow]
    exact ⟨h.tick.setFile uri _, trivial⟩
  | clear uri =>
    simp only [Registry.step, Registry.perform, clear, hfile]
    split
    · exact ⟨h.forget uri, trivial⟩
    · exact ⟨(h.forget uri).emit _ _, trivial⟩
  | poll budget => cases ha

theorem poll (h : r.Same r') (budget : Nat) : (r.step (.poll budget)).Same r' := ⟨h.files, h.ticks⟩

/-- A run without its polls has the same outcome. -/
theorem run (h : r.Same r') (as : List RegistryAction) :
    (r.run as).Same (r'.run (as.filter fun a => !a.isPoll)) ∧
      (r.log as).filter (fun e => !e.isPoll) = r'.log (as.filter fun a => !a.isPoll) := by
  induction as generalizing r r' with
  | nil => exact ⟨h, rfl⟩
  | cons a as ih =>
    have hentry : (r.perform a).2.isPoll = a.isPoll := by cases a <;> rfl
    cases ha : a.isPoll with
    | true =>
      obtain ⟨budget, rfl⟩ : ∃ budget, a = .poll budget := by
        cases a with
        | poll budget => exact ⟨budget, rfl⟩
        | _ => cases ha
      obtain ⟨hrun, hlog⟩ := ih (h.poll budget)
      rw [List.filter_cons_of_neg (by rw [ha]; decide), log,
        List.filter_cons_of_neg (by rw [hentry, ha]; decide)]
      exact ⟨hrun, hlog⟩
    | false =>
      obtain ⟨hstep, heq⟩ := h.perform ha
      obtain ⟨hrun, hlog⟩ := ih hstep
      rw [List.filter_cons_of_pos (by rw [ha]; decide), log, log,
        List.filter_cons_of_pos (by rw [hentry, ha]; decide), hlog, heq]
      exact ⟨hrun, rfl⟩

end Same

end Registry

/-- What the host gets to know through the queue, in a run that starts with nothing stored. -/
structure Channel (capacity : Nat) (actions : List RegistryAction) : Prop where
  /-- The polls returned, once and in order, the announcements that found room, up to those that are
  still queued. -/
  conserved : (Registry.fresh capacity).admitted actions =
    polledOf ((Registry.fresh capacity).log actions) ++
      ((Registry.fresh capacity).run actions).events
  bounded : ((Registry.fresh capacity).run actions).events.length ≤ capacity
  /-- A poll takes out the oldest events, as many as it may and as there are. -/
  polled : ∀ budget,
    ((Registry.fresh capacity).run actions).events =
        (((Registry.fresh capacity).run actions).poll budget).1 ++
          (((Registry.fresh capacity).run actions).poll budget).2.events ∧
      (((Registry.fresh capacity).run actions).poll budget).1.length =
        min budget ((Registry.fresh capacity).run actions).events.length
  /-- A report that differs from the last one is announced with the stamp of the last display. -/
  changed : ∀ uri i items,
    ((Registry.fresh capacity).run actions).announcement? (.update uri i items) =
      if items ≠ lastReport uri i actions then
        some (.changed uri (lastShown uri ((Registry.fresh capacity).log actions)))
      else none
  /-- Clearing a file is announced if it has diagnostics. -/
  cleared : ∀ uri,
    ((Registry.fresh capacity).run actions).announcement? (.clear uri) =
      if ((Registry.fresh capacity).run actions).diagnostics uri ≠ [] then some (.cleared uri)
      else none
  /-- Whatever the length of the queue and whenever it is polled, the same is stored and the same
  comes back. -/
  unaffected : ∀ other others,
    (others.filter fun a => !a.isPoll) = (actions.filter fun a => !a.isPoll) →
      ((Registry.fresh capacity).run actions).Same ((Registry.fresh other).run others) ∧
      (((Registry.fresh capacity).log actions).filter fun e => !e.isPoll) =
        ((Registry.fresh other).log others).filter fun e => !e.isPoll
  /-- If there is always room, no announcement is lost. -/
  complete : (∀ before a after, actions = before ++ a :: after →
      ((Registry.fresh capacity).run before).events.length < capacity) →
    (Registry.fresh capacity).admitted actions = (Registry.fresh capacity).announced actions
  /-- Between two moments at which a file has different diagnostics there is an announcement about
  it, and it finds room if there always is. -/
  noticed : ∀ before between, actions = before ++ between → ∀ uri,
    ((Registry.fresh capacity).run actions).diagnostics uri ≠
        ((Registry.fresh capacity).run before).diagnostics uri →
      (∃ e ∈ ((Registry.fresh capacity).run before).announced between, e.uri = uri) ∧
      ((∀ earlier a after, between = earlier ++ a :: after →
          ((Registry.fresh capacity).run (before ++ earlier)).events.length < capacity) →
        ∃ e ∈ ((Registry.fresh capacity).run before).admitted between, e.uri = uri)

theorem channel (capacity : Nat) (actions : List RegistryAction) : Channel capacity actions := by
  have hneat := Registry.neat_run capacity actions
  have hroom (before : List RegistryAction) :
      ((Registry.fresh capacity).run before).events.length < capacity →
        ((Registry.fresh capacity).run before).hasRoom = true := by
    intro h
    rw [Registry.hasRoom, Registry.capacity_run]
    exact decide_eq_true h
  refine ⟨(Registry.fresh capacity).events_run actions,
    Registry.length_events_run capacity actions, fun budget => ?polled, fun uri i items => ?changed,
    fun uri => ?cleared, fun other others h => ?unaffected, fun h => ?complete,
    fun before between heq uri hne => ?noticed⟩
  case polled => exact ⟨(List.take_append_drop budget _).symm, List.length_take⟩
  case changed =>
    have hchanged := Registry.update_changed ((Registry.fresh capacity).run actions) uri i items
    rw [Registry.slot_run, ne_comm] at hchanged
    rw [Registry.announcement?, Registry.displayedAt_run]
    by_cases h : items = lastReport uri i actions
    · rw [if_neg (mt hchanged.mp (not_not_intro h)), if_neg (not_not_intro h)]
    · rw [if_pos (hchanged.mpr h), if_pos h]
  case cleared =>
    have hempty := (hneat.records uri).isEmpty_iff
    rw [Registry.announcement?, Registry.diagnostics]
    by_cases h : (((Registry.fresh capacity).run actions).file uri).diagnostics = []
    · rw [if_pos (hempty.mpr h), if_neg (not_not_intro h)]
    · rw [if_neg (mt hempty.mp h), if_pos h]
  case unaffected =>
    have hfresh : (Registry.fresh other).Same (Registry.fresh 0) := ⟨rfl, rfl⟩
    have hsame : (Registry.fresh capacity).Same (Registry.fresh 0) := ⟨rfl, rfl⟩
    obtain ⟨hrun, hlog⟩ := hsame.run actions
    obtain ⟨hrun', hlog'⟩ := hfresh.run others
    rw [h] at hrun' hlog'
    exact ⟨⟨hrun.files.trans hrun'.files.symm, hrun.ticks.trans hrun'.ticks.symm⟩,
      hlog.trans hlog'.symm⟩
  case complete =>
    refine Registry.admitted_eq _ actions fun before a after heq => ?_
    exact hroom before (h before a after heq)
  case noticed =>
    have hannounced :
        ∃ e ∈ ((Registry.fresh capacity).run before).announced between, e.uri = uri := by
      by_contra hnone
      rw [heq, Registry.run_append] at hne
      exact hne (Registry.diagnostics_unannounced_run fun e he huri => hnone ⟨e, he, huri⟩)
    refine ⟨hannounced, fun h => ?_⟩
    rw [Registry.admitted_eq]
    · exact hannounced
    · intro earlier a after hsplit
      rw [← Registry.run_append]
      exact hroom _ (h earlier a after hsplit)

/-- A queue of one event has no room for the news on a second file, but it has once it was polled. -/
example (d : Diagnostic) :
    polledOf ((Registry.fresh 1).log [.update ⟨"file:///a"⟩ "x" [d], .update ⟨"file:///b"⟩ "x" [d],
      .poll 8, .clear ⟨"file:///b"⟩, .poll 8]) =
      [.changed ⟨"file:///a"⟩ none, .cleared ⟨"file:///b"⟩] := by
  rfl

end DocSync
