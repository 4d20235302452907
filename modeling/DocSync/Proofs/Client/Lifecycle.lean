import DocSync.Proofs.Client.Reception
import DocSync.Proofs.Document.Lifecycle

/-!
# Closed for good

In every run each document leads its life in order, also between a move and what the document makes
of it by itself. A closed document stays as it is but for its buffer: what is done to it changes
nothing that documents share, it pulls nothing more, and no answer to what it pulled before counts.
-/
namespace DocSync

namespace Client

/-- What is done to a closed document leaves everything but its buffer alone. -/
theorem performOn_closed {c : Client} (hc : c.Sound) {d : Document} (hd : d ∈ c.documents)
    (hl : d.Lifecycle) (hp : d.phase = .closed) (a : DocumentAction) :
    ∃ buffer, (c.performOn d a).1 = c.put ⟨{ d with buffer }, c.env⟩ := by
  have hcleared : c.cleared d.id a = c := by
    cases a with
    | close => simp [cleared, clearBeforeClose, find?_of_mem hc.distinct hd, hp]
    | _ => rfl
  have hperform : ∃ buffer, (⟨d, c.env⟩ : Turn).perform a = ⟨{ d with buffer }, c.env⟩ := by
    cases a with
    | refresh origin =>
      refine ⟨d.buffer, Turn.refresh_idle ?_ ?_⟩
      · simp [Document.pullsFor, hp]
      · simp [Document.leavesFor, hp]
    | _ =>
      obtain ⟨buffer, hwork⟩ := hl.work_closed hp c.env.session.active _
      exact ⟨buffer, congrArg (Turn.mk · c.env) hwork⟩
  obtain ⟨buffer, hperform⟩ := hperform
  have hrests := hc.rests d hd
  have hstill : Turn.Rests ⟨{ d with buffer }, c.env⟩ :=
    ⟨⟨hrests.waiting, hrests.settling, hrests.idle, hrests.held, hrests.refused⟩, hrests.served,
      hrests.timer⟩
  refine ⟨buffer, ?_⟩
  rw [performOn_eq hc.distinct hc.rests hd, hcleared, hperform, Turn.progress_of_rests hstill]

/-- What a closed document has to do with the rest of a run. -/
structure Gone (c : Client) (d : Document) : Prop where
  /-- No action on it changes anything that documents share, or any other document. -/
  action : ∀ a, ∃ buffer,
    c.move (.act (.document d.id a)) = c.put ⟨{ d with buffer }, c.env⟩
  move : ∀ m, c.queues d.id m = [] ∧ ∀ d' ∈ (c.move m).documents, d'.id = d.id →
    d'.phase = .closed ∧ d'.version = d.version ∧ d'.tickets = d.tickets
  /-- The answer to any pull that it made before comes too late. -/
  answer : ∀ uri nth answer r rest,
    Link.takeRequest uri nth c.env.link.requests = some (r, rest) → r.document = d.id →
      (c.move (.answer uri nth answer)).env.registry = c.env.registry
  /-- The registry learns from answers that come at once to the pulls of other documents. -/
  learned : ∀ m, ∃ new, (c.move m).env.history = c.env.history ++ new ∧
    Learns (c.env.feature.identifier.getD pullIdentifier) c.env.resolver (c.told m) new
      (c.move m).env.registry ∧
    ∀ x ∈ new, x.document = d.id → ∀ cause v request, x.event ≠ .pulled cause v request

theorem Sound.gone {c : Client} (hc : c.Sound) {d : Document} (hd : d ∈ c.documents)
    (hl : d.Lifecycle) (hp : d.phase = .closed) : Gone c d := by
  have hactive (m : Move) : ∃ buffer, m.work c.env.session.active d = { d with buffer } := by
    rcases m with - | ⟨id, a⟩ | a
    · exact ⟨d.buffer, rfl⟩
    · by_cases hid : id = d.id
      · rw [Move.work, if_pos hid]
        exact hl.work_closed hp _ a
      · exact ⟨d.buffer, by rw [Move.work, if_neg hid]⟩
    · exact ⟨d.buffer, rfl⟩
  have hclosed {m : Move} {d' : Document} (hd' : d' ∈ (c.move m).documents) (hid : d'.id = d.id) :
      d'.phase = .closed ∧ d'.version = d.version ∧ d'.tickets = d.tickets := by
    rcases hc.source hd' with ⟨e, he, l, hcourse, -, heid⟩ | ⟨-, hnew, -⟩
    · obtain rfl : e = d := eq_of_id hc.distinct he hd (heid.trans hid)
      obtain ⟨buffer, hwork⟩ := hactive m
      rw [hwork] at hcourse
      exact ⟨hcourse.closed.mpr hp, hcourse.sameText.version, hcourse.sameText.tickets⟩
    · exact absurd (mem_ids hd) (hid ▸ hnew ▸ hc.freshId_notMem d'.uri)
  refine ⟨fun a => ?_, fun m => ⟨?_, fun d' hd' hid => hclosed hd' hid⟩, ?_, ?_⟩
  · obtain ⟨buffer, haction⟩ := performOn_closed hc hd hl hp a
    refine ⟨buffer, haction ▸ ?_⟩
    simp [Client.move, step, perform, find?_of_mem hc.distinct hd]
  · obtain ⟨buffer, hwork⟩ := hactive m
    refine queues_eq hc.distinct hd ?_
    rw [hwork, List.append_nil]
    rfl
  · intro uri nth answer r rest htaken hid
    rw [hc.registry_answer answer htaken hd hid.symm, if_neg]
    simp [Document.awaits, hp]
  · intro m
    obtain ⟨new, hnew⟩ := hc.proceeds_move m
    refine ⟨new, hnew.history, hnew.registry, fun x hx hid cause v request hevent => ?_⟩
    obtain ⟨d', hd', hid', hawaits⟩ := hc.pulled_move hnew.history hx hevent
    have hp' := (hclosed hd' (hid'.trans hid)).1
    simp [Document.awaits, hp'] at hawaits

/-- At every moment of a run a document is where its phase says. A move takes it forward by one
phase at most, or closes it, and so does what it then does by itself. Once closed it is gone. -/
theorem lifecycle (env : Environment) (ms : List Move) (d : Document)
    (h : d ∈ ((start env).play ms).documents) :
    d.Lifecycle ∧
    (∀ m, ∀ d' ∈ (((start env).play ms).move m).documents, d'.id = d.id →
      let worked := m.work ((start env).play ms).env.session.active d
      worked.Lifecycle ∧ Phase.Leads d.phase worked.phase ∧
        Phase.Leads worked.phase d'.phase) ∧
    (d.phase = .closed → Gone ((start env).play ms) d) := by
  have hc := sound_play env ms
  have hl := Document.lifecycle_invariant.play env ms d h
  refine ⟨hl, fun m d' hd' hid => ⟨?_, ?_, ?_⟩, fun hp => hc.gone h hl hp⟩
  · exact m.work_induct (fun _ _ hcall he => he.call hcall) hl
  · rcases m with - | ⟨id, a⟩ | a
    · exact .stays _
    · by_cases hid : id = d.id
      · rw [Move.work, if_pos hid]
        exact Document.work_leads _ d a
      · rw [Move.work, if_neg hid]
        exact .stays _
    · exact .stays _
  · rcases hc.source hd' with ⟨e, he, l, hcourse, -, heid⟩ | ⟨-, hnew, -⟩
    · obtain rfl : e = d := eq_of_id hc.distinct he h (heid.trans hid)
      exact hcourse.leads
    · exact absurd (mem_ids h) (hid ▸ hnew ▸ hc.freshId_notMem d'.uri)

/-- The host stores diagnostics for a file whose document is closed. -/
def revived : List Move :=
  let id : DocumentId := ⟨⟨"file:///a"⟩, 0⟩
  let found : Diagnostic := ⟨⟨⟨0, 0⟩, ⟨0, 1⟩⟩, .error, "odd", "lint", none⟩
  [.create id.uri "text" ⟨.full, true, .disabled⟩ {} "a" none, .act (.document id .beginOpen),
    .act (.document id .close), .act (.shared (.update id.uri "lint" [found]))]

/-- A second closing does not drop them. -/
theorem lifecycle_revived :
    let c := (start plain).play revived
    c.env.registry.hasErrors ⟨"file:///a"⟩ = true ∧
      (c.move (.act (.document ⟨⟨"file:///a"⟩, 0⟩ .close))).env.registry = c.env.registry := by
  obtain ⟨d, hd, hp, hid, herrors⟩ : ∃ d ∈ ((start plain).play revived).documents,
      d.phase = .closed ∧ d.id = ⟨⟨"file:///a"⟩, 0⟩ ∧
        ((start plain).play revived).env.registry.hasErrors ⟨"file:///a"⟩ = true := by decide
  obtain ⟨buffer, haction⟩ := ((lifecycle plain revived d hd).2.2 hp).action .close
  rw [hid] at haction
  refine ⟨herrors, ?_⟩
  rw [haction]
  rfl

end Client

end DocSync
