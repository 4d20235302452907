import DocSync.Proofs.Client.Versions
import DocSync.Proofs.Document.Delivery

/-!
# What deliveries tell

An action that queues a notification returns its ticket, and one that returns none has queued
nothing. In every run all tickets of a document are answered in their order, with the outcome of the
very notification; what is not answered yet waits for the handshake, or for the writer to learn that
it failed, or for a notification that the link holds up. Nothing takes a ticket away from a document,
not even its closing.
-/
namespace DocSync

namespace Document

/-- What a delivery tells about the work that it comes from: nothing was queued, or the notification
under the ticket was, after all others. -/
inductive Queues (d d' : Document) : Delivery → Prop
  | skipped (h : d'.backlog = d.backlog) : Queues d d' .skipped
  | ticket {said : List Notification} {n : Notification} (k : Nat) (hn : n.isOpening = false)
      (h : d'.backlog = d.backlog ++ said ++ [n]) (ht : d'.tickets = k + 1) :
      Queues d d' (.ticket d.id k)

variable (d : Document) (active : Bool)

theorem push_queues {e : Document} {said : List Notification} {n : Notification}
    (hn : n.isOpening = false) (hid : e.id = d.id) (h : e.backlog = d.backlog ++ said) :
    Queues d (e.push n).1 (e.push n).2 := by
  have hticket : (e.push n).2 = .ticket d.id e.tickets := by simp [push, hid]
  rw [hticket]
  exact .ticket e.tickets hn (by rw [backlog_push, h]) rfl

theorem flush_queues : Queues d d.flush.1 d.flush.2 := by
  unfold flush
  split
  · exact .skipped rfl
  · dsimp only
    split
    · exact d.push_queues rfl rfl (List.append_nil _).symm
    · exact .skipped rfl

theorem flush_id : d.flush.1.id = d.id := flush_same id d rfl rfl

theorem flush_backlog : ∃ said, d.flush.1.backlog = d.backlog ++ said := by
  rw [flush_fst]
  split
  · exact ⟨[], (List.append_nil _).symm⟩
  · split
    · exact ⟨_, backlog_push _ _⟩
    · exact ⟨[], (List.append_nil _).symm⟩

theorem save_queues : Queues d (d.save active).1 (d.save active).2 := by
  obtain ⟨said, hsaid⟩ := d.flush_backlog
  unfold save
  split
  · exact .skipped rfl
  · dsimp only
    split
    · rename_i hl
      -- A writer that takes nothing more does not take the changes either.
      have ha : ¬ d.acceptsOutgoing = true := by
        intro ha
        simp [isStopped_of_acceptsOutgoing ha] at hl
      refine .skipped ?_
      rw [flush_fst, if_neg ha]
      split <;> rfl
    · exact d.push_queues rfl d.flush_id hsaid

theorem close_queues : Queues d (d.close active).1 (d.close active).2 := by
  obtain ⟨said, hsaid⟩ := d.flush_backlog
  unfold close
  split
  · exact .skipped rfl
  · have hpush : Queues d (d.pushClose active).1 (d.pushClose active).2 := by
      unfold pushClose
      split
      · exact d.push_queues rfl d.flush_id hsaid
      · exact .skipped rfl
    dsimp only
    generalize hdelivery : (d.pushClose active).2 = delivery at hpush ⊢
    cases hpush with
    | skipped h => exact .skipped h
    | ticket k hn h ht => exact .ticket k hn h ht

@[simp] theorem type_backlog (e : Edit) (new : String) : (d.type e new).backlog = d.backlog := by
  simp only [type, recordAfter, recordBefore]
  repeat' split
  all_goals rfl

@[simp] theorem type_id (e : Edit) (new : String) : (d.type e new).id = d.id := by
  simp only [type, recordAfter, recordBefore]
  repeat' split
  all_goals rfl

end Document

namespace Client

/-- Where an action returns a delivery, this tells what the action queued. -/
theorem queues_of_delivery {c : Client} (hc : c.ids.Nodup) {d : Document} (hd : d ∈ c.documents)
    {a : DocumentAction} {delivery : Delivery} (h : (c.performOn d a).2 = .delivery delivery) :
    d.Queues (a.work c.env.session.active d) delivery := by
  have hreturned := performOn_delivery hc hd h
  cases a with
  | edit e new =>
    simp only [DocumentAction.delivery?, DocumentAction.work] at hreturned ⊢
    cases ht : d.textAfter e new with
    | error fault =>
      rw [ht] at hreturned
      cases hreturned
    | ok text =>
      rw [ht] at hreturned
      obtain rfl := Option.some.inj hreturned
      have hflush := (d.type e text).flush_queues
      dsimp only
      generalize (d.type e text).flush.2 = delivery at hflush ⊢
      cases hflush with
      | skipped h => exact .skipped (by simpa using h)
      | ticket k hn h ht => exact d.type_id e text ▸ .ticket k hn (by simpa using h) ht
  | flush => exact Option.some.inj hreturned ▸ d.flush_queues
  | save => exact Option.some.inj hreturned ▸ d.save_queues c.env.session.active
  | close => exact Option.some.inj hreturned ▸ d.close_queues c.env.session.active
  | _ => cases hreturned

theorem isPending_ticket {c : Client} (hc : c.ids.Nodup) {d : Document} (hd : d ∈ c.documents)
    (k : Nat) : c.isPending (.ticket d.id k) = d.owes k := by
  simp [isPending, find?_of_mem hc hd]

/-- The deliveries of a document that queued this much under tickets. -/
structure DeliveryOrder (c : Client) (d : Document) (queued : List Notification) : Prop where
  /-- The tickets are answered one after the other, each only once. -/
  order : (c.log d.id).answers.map Prod.fst = List.range (c.log d.id).answers.length
  truthful : (c.log d.id).Truthful queued
  /-- A ticket waits until it is answered. -/
  accounted : ∀ k, c.isPending (.ticket d.id k) = true ↔
    k < queued.length ∧ ∀ sent, (k, sent) ∉ (c.log d.id).answers
  /-- What waits has something to wait for. -/
  pending : ∀ k, c.isPending (.ticket d.id k) = true → d.handshakeOutcome? = none ∨
    (∃ e, d.handshakeOutcome? = some (.error e)) ∧ c.env.late d.id = true ∨
    c.env.link.stalled = true ∧
      ∃ j ≤ k, ∃ n, queued[j]? = some n ∧ (c.log d.id).unresolved = [n]

/-- Tickets count up, and the first that has no answer is told by how many have one. -/
theorem isPending_iff {c : Client} (hc : c.ids.Nodup) {d : Document} (hd : d ∈ c.documents)
    {queued : List Notification} (h : d.Delivers (c.log d.id) queued) (k : Nat) :
    c.isPending (.ticket d.id k) = true ↔
      (c.log d.id).answers.length ≤ k ∧ k < queued.length := by
  rw [isPending_ticket hc hd, Document.owes_iff, ← h.outstanding, mem_drop_numbered]

theorem deliveryOrder {c : Client} (hc : c.Sound) {d : Document} (hd : d ∈ c.documents)
    {queued : List Notification} (h : d.Delivers (c.log d.id) queued)
    (hp : d.Paced (c.log d.id) c.env.now) : DeliveryOrder c d queued := by
  have howes := isPending_iff hc.distinct hd h
  have hanswered (k : Nat) :
      (∃ sent, (k, sent) ∈ (c.log d.id).answers) ↔ k < (c.log d.id).answers.length := by
    rw [← List.mem_range, ← h.truthful.order]
    simp
  refine ⟨h.truthful.order, h.truthful, fun k => ?_, fun k hk => ?_⟩
  · rw [howes, ← not_exists, hanswered, Nat.not_lt, and_comm]
  · obtain ⟨hle, hlt⟩ := (howes k).mp hk
    have hfits := hp.writer
    have hrests := hc.rests d hd
    have hsome : d.outstanding ≠ [] := by
      rw [← h.outstanding, Ne, List.drop_eq_nil_iff, length_numbered]
      omega
    unfold Document.WriterFits at hfits
    cases hw : d.writer with
    | sending item fault =>
      rw [hw] at hfits
      have hfirst : (numbered queued).drop (c.log d.id).answers.length = item :: d.queue := by
        rw [h.outstanding]
        simp [Document.outstanding, Document.Writer.inHand, hw]
      refine .inr <| .inr ⟨hrests.held (by simp [Document.Writer.isHeld, hw]), _, hle,
        item.notification, (drop_numbered_eq_cons hfirst).2.1, hfits.1⟩
    | idle =>
      have hqueue : d.queue = [] := hrests.idle hw
      have hnone : d.outstanding = [] := by
        simp [Document.outstanding, Document.Writer.inHand, hw, hqueue]
      exact absurd hnone hsome
    | refused e =>
      exact .inr <| .inl ⟨⟨e, by simp [Document.handshakeOutcome?, hw]⟩, hrests.refused e hw⟩
    | stopped e => exact absurd (h.stopped (by simp [Document.isStopped, hw])) hsome
    | _ => exact .inl (by simp [Document.handshakeOutcome?, hw])

theorem deliveryOrder_play (env : Environment) (ms : List Move) (d : Document)
    (h : d ∈ ((start env).play ms).documents) :
    DeliveryOrder ((start env).play ms) d (ticketed ((start env).spoken d.id ms)) := by
  obtain ⟨⟨-, hpaced⟩, -, hdelivers⟩ := Document.delivers_account.play env ms d h
  exact deliveryOrder (sound_play env ms) h hdelivers hpaced

/-- At every moment of a run the deliveries of a document are in order. An action that returns a
ticket has queued the notification under it, as the last one, and one that skips has queued nothing.
In whatever follows, the closing of the document too, a delivery is still to be made or is answered.
-/
theorem deliveries (env : Environment) (ms : List Move) (d : Document)
    (h : d ∈ ((start env).play ms).documents) :
    DeliveryOrder ((start env).play ms) d (ticketed ((start env).spoken d.id ms)) ∧
    (∀ a id k, (((start env).play ms).performOn d a).2 = .delivery (.ticket id k) →
      id = d.id ∧ ∃ earlier n,
        ticketed ((start env).spoken d.id (ms ++ [.act (.document d.id a)])) = earlier ++ [n] ∧
          ticketed ((start env).spoken d.id ms) <+: earlier ∧ earlier.length = k) ∧
    (∀ a, (((start env).play ms).performOn d a).2 = .delivery .skipped →
      (start env).spoken d.id (ms ++ [.act (.document d.id a)]) = (start env).spoken d.id ms) ∧
    (∀ ns k, ((start env).play ms).isPending (.ticket d.id k) = true →
      ((start env).play (ms ++ ns)).isPending (.ticket d.id k) = true ∨
        ∃ sent, (k, sent) ∈ (((start env).play (ms ++ ns)).log d.id).answers) := by
  have hsound := sound_play env ms
  have haccount := Document.delivers_account.play env ms d h
  have hwork (a : DocumentAction) : Move.work ((start env).play ms).env.session.active d
      (.act (.document d.id a)) = a.work ((start env).play ms).env.session.active d := by
    simp [Move.work]
  refine ⟨deliveryOrder_play env ms d h, fun a id k hr => ?_, fun a hr => ?_, fun ns k hk => ?_⟩
  · cases queues_of_delivery hsound.distinct h hr with
    | @ticket said n _ hn hbacklog htickets =>
      have hqueues : ((start env).play ms).queues d.id (.act (.document d.id a)) = said ++ [n] :=
        queues_eq hsound.distinct h (by rw [hwork, hbacklog, List.append_assoc])
      have hafter := (Document.delivers_account.queues hsound.distinct h haccount
        (.act (.document d.id a))).2.2.tickets
      rw [hwork, hqueues, htickets, ← List.append_assoc, ticketed_append, ticketed_single hn,
        List.length_append] at hafter
      refine ⟨rfl, ticketed ((start env).spoken d.id ms ++ said), n, ?_, ?_, ?_⟩
      · rw [spoken_concat, hqueues, ← List.append_assoc, ticketed_append, ticketed_single hn]
      · rw [ticketed_append]
        exact List.prefix_append _ _
      · exact (Nat.succ.inj hafter).symm
  · cases queues_of_delivery hsound.distinct h hr with
    | skipped hbacklog =>
      have hqueues : ((start env).play ms).queues d.id (.act (.document d.id a)) = [] :=
        queues_eq hsound.distinct h (by rw [hwork, hbacklog, List.append_nil])
      rw [spoken_concat, hqueues, List.append_nil]
  · obtain ⟨d', hd', hid⟩ : ∃ d' ∈ ((start env).play (ms ++ ns)).documents, d'.id = d.id := by
      rw [play_append]
      exact List.mem_map.mp (hsound.ids_subset_play ns (mem_ids h))
    have hlater := (deliveryOrder_play env (ms ++ ns) d' hd').accounted k
    rw [hid, spoken_append, ticketed_append, List.length_append] at hlater
    obtain ⟨hlt, -⟩ := ((deliveryOrder_play env ms d h).accounted k).mp hk
    by_cases hanswered : ∃ sent, (k, sent) ∈ (((start env).play (ms ++ ns)).log d.id).answers
    · exact .inr hanswered
    · exact .inl (hlater.mpr ⟨Nat.lt_add_right _ hlt, not_exists.mp hanswered⟩)

/-- A document whose change is lost, and whose save and closing are held up. -/
def heldBack : List Move :=
  let id : DocumentId := ⟨⟨"file:///a"⟩, 0⟩
  [.create id.uri "text" ⟨.full, true, .notify⟩ { settleMillis := 0 } "a" none,
    .act (.document id .beginOpen),
    .act (.shared (.happen (.failNext "textDocument/didChange" .notRunning))),
    .act (.document id (.edit (.insertion 1 "b") none)),
    .act (.shared (.happen (.stall true))),
    .act (.document id .save), .act (.document id .close)]

theorem deliveries_heldBack : ∃ d ∈ ((start plain).play heldBack).documents,
    (((start plain).play heldBack).log d.id).answers = [(0, false)] ∧
      (∃ n, (((start plain).play heldBack).log d.id).unresolved = [n]) ∧
      ∀ k, ((start plain).play heldBack).isPending (.ticket d.id k) = true ↔ 1 ≤ k ∧ k < 3 := by
  obtain ⟨d, hd, hanswers, hlength, hn⟩ : ∃ d ∈ ((start plain).play heldBack).documents,
      (((start plain).play heldBack).log d.id).answers = [(0, false)] ∧
        (ticketed ((start plain).spoken d.id heldBack)).length = 3 ∧
        (((start plain).play heldBack).log d.id).unresolved = [.didSave ⟨"file:///a"⟩ none] := by
    decide
  refine ⟨d, hd, hanswers, ⟨_, hn⟩, fun k => ?_⟩
  rw [(deliveries plain heldBack d hd).1.accounted k, hanswers, hlength]
  simp
  omega

end Client

end DocSync
