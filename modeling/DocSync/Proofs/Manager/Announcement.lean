import DocSync.Proofs.Client.Effects
import DocSync.Proofs.Diagnostics.Announcement
import DocSync.Proofs.Manager.Play

/-!
# Polling a manager

The host polls a manager for the announcements of its registry. Whatever is done with the manager in
between, closing documents included, the registry goes through a run of its own, and the polls
return what the queue of that run lets through.
-/
namespace DocSync

open Client (Move)

/-- The events that come with a reply. -/
def Reply.polled : Reply → List DiagnosticsEvent
  | .events es => es
  | .done | .flag _ | .delivery _ | .handshake _ | .invalid _ | .stamp _ => []

theorem RegistryAction.ReportsUnder.isPoll {identifier : String} {a : RegistryAction}
    (h : a.ReportsUnder identifier) : a.isPoll = false := by
  obtain ⟨uri, items, rfl⟩ := h
  rfl

namespace Client

def Move.isPoll : Move → Bool
  | .act (.shared (.poll _)) => true
  | _ => false

theorem asks_isPoll (c : Client) {m : Move} (h : m.isPoll = false) :
    ∀ a ∈ c.asks m, a.isPoll = false := by
  intro a ha
  rcases m with ⟨uri, languageId, policy, settings, buffer, initialText⟩ | ⟨id, b⟩ | b
  · cases ha
  · cases b with
    | close =>
      simp only [asks] at ha
      split at ha
      · split at ha
        · cases ha
        · rw [List.mem_singleton.mp ha]
          rfl
      · cases ha
    | _ => cases ha
  · cases b with
    | update uri i items =>
      rw [List.mem_singleton.mp ha]
      rfl
    | markDisplayed uri =>
      rw [List.mem_singleton.mp ha]
      rfl
    | clear uri =>
      rw [List.mem_singleton.mp ha]
      rfl
    | poll budget => cases h
    | _ => cases ha

theorem Causes.isPoll {c : Client} {ms : List Move} {as : List RegistryAction} (h : c.Causes ms as)
    (hms : ∀ m ∈ ms, m.isPoll = false) : ∀ a ∈ as, a.isPoll = false := by
  induction h with
  | nil c => simp
  | @cons c m ms learned as hlearned _ ih =>
    intro a ha
    rcases List.mem_append.mp ha with ha | ha
    · exact c.asks_isPoll (hms m List.mem_cons_self) a ha
    · rcases List.mem_append.mp ha with ha | ha
      · exact (hlearned a ha).isPoll
      · exact ih (fun m hm => hms m (List.mem_cons_of_mem _ hm)) a ha

/-- A poll is passed on to the registry, which may then learn more. -/
theorem Causes.polled {c : Client} {budget : Nat} {as : List RegistryAction}
    (h : c.Causes [.act (.shared (.poll budget))] as) (r : Registry) :
    polledOf (r.log as) = (r.poll budget).1 := by
  cases h with
  | @cons _ _ _ learned rest hlearned h =>
    cases h
    have hrest := Registry.polledOf_log (fun a ha => (hlearned a ha).isPoll)
      (r.step (.poll budget))
    have hlog : polledOf (r.log (.poll budget :: learned)) =
        (r.poll budget).1 ++ polledOf ((r.step (.poll budget)).log learned) := List.flatMap_cons
    rw [List.append_nil]
    exact hlog.trans (by rw [hrest, List.append_nil])

theorem performOn_polled (c : Client) (d : Document) (a : DocumentAction) :
    (c.performOn d a).2.polled = [] := by
  cases a with
  | type e new =>
    simp only [performOn]
    split <;> rfl
  | edit e new =>
    simp only [performOn]
    split <;> rfl
  | _ => rfl

end Client

namespace Manager

/-- The events that the polls of a run return, one poll after the other. -/
def polled (m : Manager) : List ManagerAction → List DiagnosticsEvent
  | [] => []
  | a :: as => ((m.perform a).elim [] fun x => x.2.polled) ++ (m.step a).polled as

theorem moves_isPoll (m : Manager) {a : ManagerAction} (h : ∀ budget, a ≠ .shared (.poll budget)) :
    ∀ k ∈ m.moves a, k.isPoll = false := by
  intro k hk
  cases a with
  | openDocument uri text languageId =>
    simp only [moves] at hk
    split at hk
    · rw [List.mem_singleton.mp hk]
      rfl
    · rcases List.mem_pair.mp hk with rfl | rfl <;> rfl
  | publish params =>
    simp only [moves] at hk
    split at hk
    · cases hk
    · split at hk
      · cases hk
      · split at hk
        · rw [List.mem_singleton.mp hk]
          rfl
        · cases hk
  | shared b =>
    rw [List.mem_singleton.mp hk]
    cases b with
    | poll budget => exact absurd rfl (h budget)
    | _ => rfl
  | _ =>
    obtain ⟨id, -, rfl⟩ := List.mem_map.mp hk
    rfl

theorem perform_polled (m : Manager) {a : ManagerAction}
    (h : ∀ budget, a ≠ .shared (.poll budget)) :
    ((m.perform a).elim [] fun x => x.2.polled) = [] := by
  cases a with
  | document uri b =>
    rw [perform]
    cases m.document? uri with
    | none => rfl
    | some d => exact m.client.performOn_polled d b
  | shared b =>
    cases b with
    | poll budget => exact absurd rfl (h budget)
    | _ => rfl
  | _ => rfl

/-- The polls in a run of a manager return what the polls in the run of its registry return. -/
theorem Sound.polled {m : Manager} (h : m.Sound) (as : List ManagerAction) :
    ∃ actions, m.client.Causes (m.script as) actions ∧
      (m.run as).client.env.registry = m.client.env.registry.run actions ∧
      m.polled as = polledOf (m.client.env.registry.log actions) := by
  induction as generalizing m with
  | nil => exact ⟨[], .nil _, rfl, rfl⟩
  | cons a as ih =>
    obtain ⟨later, hlater, hrun, hpolled⟩ := ih (h.step a)
    obtain ⟨first, hfirst, hstep⟩ := h.client.causes (m.moves a)
    rw [client_step, hstep] at hrun hpolled
    rw [client_step] at hlater
    refine ⟨first ++ later, hfirst.append hlater, ?_, ?_⟩
    · rw [run_cons, hrun, Registry.run_append]
    · rw [Registry.log_append, Registry.polledOf_append, Manager.polled, hpolled]
      congr 1
      by_cases hpoll : ∃ budget, a = .shared (.poll budget)
      · obtain ⟨budget, rfl⟩ := hpoll
        exact (hfirst.polled m.client.env.registry).symm
      · have hother : ∀ budget, a ≠ .shared (.poll budget) := fun budget heq => hpoll ⟨budget, heq⟩
        have hmoves := m.moves_isPoll hother
        rw [m.perform_polled hother]
        exact (Registry.polledOf_log (hfirst.isPoll hmoves) _).symm

/-- Whatever is done with a registry or a manager, the polls return the announcements that found
room, in order and each once. Neither they nor the length of the queue have an influence on what is
stored, and as long as there is room no change goes unnoticed. -/
theorem announcements (capacity : Nat) :
    (∀ actions, Channel capacity actions) ∧
    ∀ name definition policy settings (env : Environment) (as : List ManagerAction),
      let m := start name definition policy settings { env with registry := .fresh capacity }
      ∃ actions, m.client.Causes (m.script as) actions ∧
        (m.run as).client.env.registry = (Registry.fresh capacity).run actions ∧
        m.polled as = polledOf ((Registry.fresh capacity).log actions) := by
  refine ⟨channel capacity, fun name definition policy settings env as => ?_⟩
  exact (sound_start name definition policy settings
    { env with registry := .fresh capacity }).polled as

end Manager

end DocSync
