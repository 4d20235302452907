import DocSync.Proofs.Document.Handshake
import DocSync.Proofs.Document.Recovery

/-!
# Deliveries

Whoever queues a notification holds a ticket for it, and gets an answer when it has come through or
is lost. Tickets count up in the order of the queue, and they are answered in this order: after the
handshake has its outcome, one after the other, and each only once. What has no answer yet is with
the writer or in the queue.
-/
namespace DocSync

def Event.answer? : Event → Option (Nat × Bool)
  | .acknowledged ticket sent => some (ticket, sent)
  | _ => none

/-- What was queued under tickets: all but the opening. -/
def ticketed (ns : List Notification) : List Notification := ns.filter fun n => !n.isOpening

@[simp] theorem ticketed_append (ns ms : List Notification) :
    ticketed (ns ++ ms) = ticketed ns ++ ticketed ms := List.filter_append ..

theorem ticketed_single {n : Notification} (h : n.isOpening = false) : ticketed [n] = [n] := by
  simp [ticketed, h]

/-- Notifications under their tickets. -/
def numbered (ns : List Notification) : List Outgoing := ns.mapIdx fun ticket n => ⟨ticket, n⟩

@[simp] theorem length_numbered (ns : List Notification) : (numbered ns).length = ns.length := by
  simp [numbered]

theorem numbered_concat (ns : List Notification) (n : Notification) :
    numbered (ns ++ [n]) = numbered ns ++ [⟨ns.length, n⟩] := by
  simp [numbered, List.mapIdx_append]

theorem numbered_getElem? (ns : List Notification) (k : Nat) :
    (numbered ns)[k]? = ns[k]?.map (Outgoing.mk k) := List.getElem?_mapIdx

theorem mem_drop_numbered {ns : List Notification} {k ticket : Nat} :
    (∃ item ∈ (numbered ns).drop k, item.ticket = ticket) ↔ k ≤ ticket ∧ ticket < ns.length := by
  constructor
  · rintro ⟨item, hmem, rfl⟩
    obtain ⟨i, hi⟩ := List.mem_iff_getElem?.mp hmem
    rw [List.getElem?_drop, numbered_getElem?, Option.map_eq_some_iff] at hi
    obtain ⟨n, hn, rfl⟩ := hi
    exact ⟨Nat.le_add_right k i, (List.getElem?_eq_some_iff.mp hn).1⟩
  · rintro ⟨hle, hlt⟩
    refine ⟨⟨ticket, ns[ticket]⟩, List.mem_iff_getElem?.mpr ⟨ticket - k, ?_⟩, rfl⟩
    rw [List.getElem?_drop, numbered_getElem?, Nat.add_sub_cancel' hle,
      List.getElem?_eq_getElem hlt]
    rfl

/-- The first of what is left has the next ticket. -/
theorem drop_numbered_eq_cons {ns : List Notification} {k : Nat} {item : Outgoing}
    {rest : List Outgoing} (h : (numbered ns).drop k = item :: rest) :
    item.ticket = k ∧ ns[k]? = some item.notification ∧ rest = (numbered ns).drop (k + 1) := by
  have hfirst : (numbered ns)[k]? = some item := by
    rw [← Nat.add_zero k, ← List.getElem?_drop, h]
    rfl
  rw [numbered_getElem?, Option.map_eq_some_iff] at hfirst
  obtain ⟨n, hn, rfl⟩ := hfirst
  refine ⟨rfl, hn, ?_⟩
  rw [← List.drop_drop, h]
  rfl

namespace Log

/-- The tickets that were answered, and whether with success. -/
def answers (l : Log) : List (Nat × Bool) := l.filterMap fun x => x.2.answer?

/-- The outcomes of what was queued under tickets. -/
def replies (l : Log) : List Outcome := l.outcomes.filter fun o => !o.1.isOpening

@[simp] theorem answers_append (l k : Log) : answers (l ++ k) = l.answers ++ k.answers :=
  List.filterMap_append

theorem answers_map (now : Nat) (es : List Event) :
    answers (es.map (now, ·)) = es.filterMap Event.answer? := by
  rw [answers, List.filterMap_map]
  rfl

theorem replies_append (l k : Log) : replies (l ++ k) = l.replies ++ k.replies := by
  simp [replies, outcomes_append]

/-- The next ticket is answered rightly after this log. -/
structure Answers (l : Log) (queued : List Notification) (ticket : Nat) (sent : Bool) :
    Prop where
  inTurn : l.answers.length = ticket
  handshake : l.handshakes ≠ []
  told : ∃ n, queued[ticket]? = some n ∧
    (sent = true ↔ l.replies[ticket]? = some (n, none)) ∧
    (sent = false ↔
      (∃ e, l.replies[ticket]? = some (n, some e)) ∨ ∃ e, .error e ∈ l.handshakes)

/-- All answers so far were right when they were given. -/
def Truthful (queued : List Notification) (l : Log) : Prop :=
  ∀ before t ticket sent after, l = before ++ (t, .acknowledged ticket sent) :: after →
    Answers before queued ticket sent

variable {queued : List Notification} {l : Log} {now : Nat}

theorem truthful_nil (queued : List Notification) : Truthful queued [] := by
  simp [Truthful]

theorem Truthful.grow (h : Truthful queued l) (added : List Notification) :
    Truthful (queued ++ added) l := by
  intro before t ticket sent after hl
  obtain ⟨hturn, hhandshake, n, hn, htold⟩ := h before t ticket sent after hl
  have hlt : ticket < queued.length := (List.getElem?_eq_some_iff.mp hn).1
  exact ⟨hturn, hhandshake, n, by rw [List.getElem?_append_left hlt, hn], htold⟩

theorem Truthful.quiet (h : Truthful queued l) {es : List Event}
    (hes : es.filterMap Event.answer? = []) : Truthful queued (l ++ es.map (now, ·)) := by
  intro before t ticket sent after hl
  rcases cut_append hl with ⟨rest, hl⟩ | ⟨start, -, hstart⟩
  · exact h before t ticket sent rest hl
  · rw [← answers_map now, hstart] at hes
    simp [answers, Event.answer?] at hes

theorem Truthful.answer (h : Truthful queued l) {ticket : Nat} {sent : Bool}
    (ha : Answers l queued ticket sent) :
    Truthful queued (l ++ [(now, .acknowledged ticket sent)]) := by
  intro before t ticket' sent' after hl
  rcases cut_append hl with ⟨rest, hl⟩ | ⟨start, rfl, hstart⟩
  · exact h before t ticket' sent' rest hl
  · cases start with
    | nil =>
      simp only [List.nil_append, List.cons.injEq, Prod.mk.injEq, Event.acknowledged.injEq]
        at hstart
      obtain ⟨⟨-, rfl, rfl⟩, -⟩ := hstart
      rwa [List.append_nil]
    | cons x start => simp at hstart

/-- The tickets were answered in their order. -/
theorem Truthful.order (h : Truthful queued l) :
    l.answers.map Prod.fst = List.range l.answers.length := by
  induction l using List.reverseRecOn with
  | nil => rfl
  | append_singleton l x ih =>
    have hbefore := ih fun before t ticket sent after hl =>
      h before t ticket sent (after ++ [x]) (by simp [hl])
    obtain ⟨t, e⟩ := x
    rw [answers_append]
    cases e with
    | acknowledged ticket sent =>
      have hturn := (h l t ticket sent [] rfl).inTurn
      simp [answers, Event.answer?, List.range_succ] at hbefore hturn ⊢
      exact ⟨hbefore, hturn.symm⟩
    | _ => simpa [answers, Event.answer?] using hbefore

/-- Nothing is answered before the handshake has its outcome. -/
theorem Truthful.answers_eq_nil (h : Truthful queued l) (hl : l.handshakes = []) :
    l.answers = [] := by
  rw [answers, List.filterMap_eq_nil_iff]
  rintro ⟨t, e⟩ hmem
  cases e with
  | acknowledged ticket sent =>
    obtain ⟨before, after, heq⟩ := List.append_of_mem hmem
    have hbefore := (h before t ticket sent after heq).handshake
    rw [heq, handshakes_append] at hl
    exact absurd (List.append_eq_nil_iff.mp hl).1 hbefore
  | _ => rfl

/-- When the handshake failed, all that is queued is answered with a failure. -/
theorem Truthful.dismiss {e : SessionError} {items : List Outgoing} (h : Truthful queued l)
    (he : .error e ∈ l.handshakes) (hl : l.replies = [])
    (hitems : (numbered queued).drop l.answers.length = items) :
    Truthful queued (l ++ items.map fun item => (now, .acknowledged item.ticket false)) := by
  induction items generalizing l with
  | nil => simpa using h
  | cons item rest ih =>
    obtain ⟨hticket, hn, hrest⟩ := drop_numbered_eq_cons hitems
    have hanswers : Answers l queued item.ticket false := by
      refine ⟨hticket.symm, List.ne_nil_of_mem he, item.notification, hticket ▸ hn, ?_, ?_⟩
      · simp [hl]
      · simpa [hl] using ⟨e, he⟩
    have hfirst : Truthful queued (l ++ [(now, .acknowledged item.ticket false)]) :=
      h.answer hanswers
    have hnext := ih hfirst (by simp [he])
      (by rw [replies_append, hl]; rfl)
      (by simpa [answers, Event.answer?] using hrest.symm)
    simpa using hnext

end Log

namespace Document

def Writer.inHand : Writer → List Outgoing
  | .sending item _ => [item]
  | _ => []

/-- What was queued and has no outcome yet. -/
def outstanding (d : Document) : List Outgoing := Writer.inHand d.writer ++ d.queue

theorem owes_iff {d : Document} {ticket : Nat} :
    d.owes ticket = true ↔ ∃ item ∈ d.outstanding, item.ticket = ticket := by
  cases hw : d.writer <;> simp [owes, outstanding, Writer.inHand, hw, or_comm]

/-- Whatever was queued under a ticket has its answer, or is outstanding. -/
structure Delivers (d : Document) (l : Log) (queued : List Notification) : Prop where
  tickets : d.tickets = queued.length
  answered : l.answers.length ≤ queued.length
  outstanding : (numbered queued).drop l.answers.length = d.outstanding
  replies : d.isRefused = false → l.replies.map Prod.fst = queued.take l.answers.length
  /-- Until the writer learns that the handshake failed nobody has an answer. -/
  refused : d.isRefused = true → l.replies = [] ∧ (d.isStopped = false → l.answers = [])
  stopped : d.isStopped = true → d.outstanding = []
  truthful : l.Truthful queued

variable {d d' : Document} {l : Log} {queued : List Notification} {now : Nat}

theorem delivers_new (h : d.IsNew) : Delivers d [] [] := by
  rw [h]
  exact ⟨rfl, Nat.le_refl 0, rfl, fun _ => rfl, fun _ => ⟨rfl, fun _ => rfl⟩, fun _ => rfl,
    Log.truthful_nil []⟩

theorem Delivers.same (h : Delivers d l queued) (ht : d'.tickets = d.tickets)
    (ho : d'.outstanding = d.outstanding) (hr : d'.isRefused = d.isRefused)
    (hl : d'.isStopped = d.isStopped) : Delivers d' l queued := by
  refine ⟨ht.trans h.tickets, h.answered, h.outstanding.trans ho.symm, ?_, ?_, ?_, h.truthful⟩
  · rw [hr]
    exact h.replies
  · rw [hr, hl]
    exact h.refused
  · rw [hl, ho]
    exact h.stopped

theorem Delivers.push (h : Delivers d l queued) (hd : d.isStopped = false) {n : Notification}
    (ht : d'.tickets = d.tickets + 1) (hq : d'.queue = d.queue ++ [⟨d.tickets, n⟩])
    (hw : d'.writer = d.writer) : Delivers d' l (queued ++ [n]) := by
  have hle : l.answers.length ≤ (numbered queued).length := by simpa using h.answered
  have hr : d'.isRefused = d.isRefused := by rw [isRefused, isRefused, hw]
  have hl : d'.isStopped = d.isStopped := by rw [isStopped, isStopped, hw]
  refine ⟨by simp [ht, h.tickets], ?_, ?_, fun hd' => ?_, ?_, by simp [hl, hd], h.truthful.grow [n]⟩
  · rw [List.length_append]
    exact Nat.le_add_right_of_le h.answered
  · rw [numbered_concat, List.drop_append_of_le_length hle, h.outstanding, Document.outstanding,
      Document.outstanding, hw, hq, h.tickets, List.append_assoc]
  · rw [List.take_append_of_le_length h.answered]
    exact h.replies (hr ▸ hd')
  · rw [hr, hl]
    exact h.refused

theorem Delivers.call {active : Bool} (h : Delivers d l queued) (hk : Keeps d (d.ledger l))
    (hc : Call active d d') : ∃ added, d'.backlog = d.backlog ++ added ∧
      Delivers d' l (queued ++ ticketed added) := by
  have hpush {n : Notification} (hd : d.isStopped = false) (hn : n.isOpening = false)
      (ht : d'.tickets = d.tickets + 1) (hq : d'.queue = d.queue ++ [⟨d.tickets, n⟩])
      (hw : d'.writer = d.writer) :
      ∃ added, d'.backlog = d.backlog ++ added ∧ Delivers d' l (queued ++ ticketed added) := by
    refine ⟨[n], by simp [backlog, hq, hw], ?_⟩
    rw [ticketed_single hn]
    exact h.push hd ht hq hw
  have hnone : ∃ added, d.backlog = d.backlog ++ added ∧
      Delivers d l (queued ++ ticketed added) :=
    ⟨[], (List.append_nil _).symm, (List.append_nil queued).symm ▸ h⟩
  cases hc with
  | begin hp =>
    obtain ⟨hw, -, hbacklog⟩ := hk.blank hp
    have hnone : ticketed d.greetings = [] := by
      rw [greetings]
      split <;> rfl
    refine ⟨d.greetings, by rw [backlog_beginOpen hp hbacklog, hbacklog, List.nil_append], ?_⟩
    rw [hnone, List.append_nil]
    refine h.same (d.beginOpen_same Document.tickets fun _ _ _ _ => rfl) ?_ ?_ ?_
    all_goals
      rw [beginOpen_eq hp]
      split <;> simp [Document.outstanding, Writer.inHand, isRefused, isStopped, hw]
  | write buffer initialText pending =>
    obtain ⟨added, hadded, hd⟩ := hnone
    exact ⟨added, hadded, hd.same rfl rfl rfl rfl⟩
  | change ha hp => exact hpush (isStopped_of_acceptsOutgoing ha) rfl rfl rfl rfl
  | save ha hs text => exact hpush (isStopped_of_acceptsOutgoing ha) rfl rfl rfl rfl
  | vain ha hr hl hs text => exact hpush hl rfl rfl rfl rfl
  | close ha ho hs => exact hpush (isStopped_of_acceptsOutgoing ha) rfl rfl rfl rfl
  | abandon hc =>
    obtain ⟨added, hadded, hd⟩ := hnone
    exact ⟨added, hadded, hd.same rfl rfl rfl rfl⟩

/-- A step without an answer, and without an outcome for a ticket. -/
theorem Delivers.quiet (h : Delivers d l queued) {es : List Event}
    (ht : d'.tickets = d.tickets) (ho : d'.outstanding = d.outstanding)
    (hr : d'.isRefused = d.isRefused) (hd : d'.isStopped = d.isStopped)
    (hanswers : es.filterMap Event.answer? = [])
    (hreplies : Log.replies (es.map (now, ·)) = []) :
    Delivers d' (l ++ es.map (now, ·)) queued := by
  have hsame : Log.answers (l ++ es.map (now, ·)) = l.answers := by
    rw [Log.answers_append, Log.answers_map, hanswers, List.append_nil]
  have hsame' : Log.replies (l ++ es.map (now, ·)) = l.replies := by
    rw [Log.replies_append, hreplies, List.append_nil]
  have hdoc := h.same ht ho hr hd
  refine ⟨hdoc.tickets, hsame ▸ hdoc.answered, hsame ▸ hdoc.outstanding, ?_, ?_, hdoc.stopped,
    h.truthful.quiet hanswers⟩
  · rw [hsame, hsame']
    exact hdoc.replies
  · rw [hsame, hsame']
    exact hdoc.refused

/-- The handshake fails, with these events. Nobody was answered before, and nobody is yet. -/
theorem Delivers.lose (h : Delivers d l queued) (hl : l.handshakes = [])
    (hw : Writer.inHand d.writer = []) (hr : d.isRefused = false) (e : SessionError)
    {es : List Event} (hes : es.filterMap Event.answer? = [])
    (hreplies : Log.replies (es.map (now, ·)) = []) :
    Delivers (d.lose e) (l ++ es.map (now, ·)) queued := by
  have hnone : l.answers = [] := h.truthful.answers_eq_nil hl
  have hnoreply : l.replies = [] := by simpa [hnone] using h.replies hr
  have hsame : Log.answers (l ++ es.map (now, ·)) = [] := by
    rw [Log.answers_append, Log.answers_map, hes, hnone, List.append_nil]
  refine ⟨h.tickets, by simp [hsame], ?_, by simp [isRefused, Document.lose],
    fun _ => ⟨?_, fun _ => hsame⟩, by simp [isStopped, Document.lose], h.truthful.quiet hes⟩
  · have houtstanding := h.outstanding
    rw [hnone, Document.outstanding, hw] at houtstanding
    rw [hsame]
    exact houtstanding
  · rw [Log.replies_append, hnoreply, hreplies, List.append_nil]

/-- The writer learns that the handshake failed, and answers all that is queued. -/
theorem Delivers.stop (h : Delivers d l queued) (hresolves : Resolves d l) {e : SessionError}
    (hw : d.writer = .refused e) :
    Delivers (d.stop e) (l ++ d.dismissals.map (now, ·)) queued := by
  obtain ⟨hnoreply, hnoanswer⟩ := h.refused (by simp [isRefused, hw])
  have hnone : l.answers = [] := hnoanswer (by simp [isStopped, hw])
  have hqueue : (numbered queued).drop l.answers.length = d.queue := by
    simpa [Document.outstanding, Writer.inHand, hw] using h.outstanding
  have hdismissals : d.dismissals.map ((now, ·) : Event → Nat × Event) =
      d.queue.map fun item => (now, .acknowledged item.ticket false) := by
    simp [dismissals, Function.comp_def]
  have hlength : (Log.answers (l ++ d.dismissals.map (now, ·))).length = queued.length := by
    rw [Log.answers_append, hnone, hdismissals, ← length_numbered, ← hqueue, hnone]
    simp [Log.answers, List.filterMap_map, Event.answer?]
  have hhandshake : .error e ∈ l.handshakes := by
    rw [hresolves, handshakeOutcome?, hw]
    exact List.mem_singleton_self _
  refine ⟨h.tickets, Nat.le_of_eq hlength, ?_, by simp [isRefused, Document.stop],
    fun _ => ⟨?_, by simp [isStopped, Document.stop]⟩, fun _ => rfl, ?_⟩
  · rw [hlength]
    simp [Document.outstanding, Writer.inHand, Document.stop]
  · rw [Log.replies_append, hnoreply, hdismissals]
    simp [Log.replies, Log.outcomes, List.filterMap_map, Event.outcome?]
  · rw [hdismissals]
    exact h.truthful.dismiss hhandshake hnoreply hqueue

/-- The notification that the writer has in hand comes through, or meets a fault. -/
theorem Delivers.finish {supported : Bool} (h : Delivers d l queued) (hresolves : Resolves d l)
    {item : Outgoing} {fault : Option SessionError} {timer : Option PullTimer}
    {pulls : List Event} (hw : d.writer = .sending item fault)
    (hn : item.notification.isOpening = false)
    (hp : Attends now supported d (item.notification.sentVersion? fault) timer pulls) :
    Delivers { d with writer := .idle, timer }
      (l ++ (Event.finished item.notification fault :: pulls ++
        [Event.acknowledged item.ticket fault.isNone]).map (now, ·)) queued := by
  have houtstanding : (numbered queued).drop l.answers.length = item :: d.queue := by
    rw [h.outstanding]
    simp [Document.outstanding, Writer.inHand, hw]
  obtain ⟨hticket, hqueued, hrest⟩ := drop_numbered_eq_cons houtstanding
  have hhandshakes : l.handshakes = [.ok ()] := by
    rw [hresolves, handshakeOutcome?, hw]
    rfl
  have hreplies := h.replies (by simp [isRefused, hw])
  have hlength : l.replies.length = l.answers.length := by
    have := congrArg List.length hreplies
    rwa [List.length_map, List.length_take, Nat.min_eq_left h.answered] at this
  have hes : (Event.finished item.notification fault :: pulls).filterMap Event.answer? = [] := by
    rw [List.filterMap_cons, hp.filterMap_eq_nil fun _ _ _ => rfl]
    rfl
  have houtcomes : (Event.finished item.notification fault :: pulls).filterMap Event.outcome? =
      [(item.notification, fault)] := by
    rw [List.filterMap_cons, hp.filterMap_eq_nil fun _ _ _ => rfl]
    rfl
  have hshakes : (Event.finished item.notification fault :: pulls).filterMap Event.handshake? =
      [] := by
    rw [List.filterMap_cons, hp.filterMap_eq_nil fun _ _ _ => rfl]
    rfl
  rw [List.map_append, ← List.append_assoc]
  generalize hbefore : l ++ (Event.finished item.notification fault :: pulls).map (now, ·) = before
  have htruthful : before.Truthful queued := hbefore ▸ h.truthful.quiet hes
  have hanswers : before.answers = l.answers := by
    rw [← hbefore, Log.answers_append, Log.answers_map, hes, List.append_nil]
  have hafter : before.replies = l.replies ++ [(item.notification, fault)] := by
    rw [← hbefore, Log.replies_append, Log.replies, Log.replies, Log.outcomes_map, houtcomes]
    simp [hn]
  have hlast : before.replies[item.ticket]? = some (item.notification, fault) := by
    rw [hafter, hticket, ← hlength]
    simp
  have hright : before.Answers queued item.ticket fault.isNone := by
    have hshaken : before.handshakes = [.ok ()] := by
      rw [← hbefore, Log.handshakes_append, Log.handshakes_map, hshakes, hhandshakes]
      rfl
    refine ⟨hanswers ▸ hticket.symm, by simp [hshaken], item.notification, hticket ▸ hqueued,
      ?_, ?_⟩
    · rw [hlast]
      cases fault <;> simp
    · rw [hlast, hshaken]
      cases fault <;> simp
  have hnext : (Log.answers (before ++ [(now, .acknowledged item.ticket fault.isNone)])).length =
      l.answers.length + 1 := by
    rw [Log.answers_append, hanswers, List.length_append]
    rfl
  refine ⟨h.tickets, ?_, ?_, fun _ => ?_, by simp [isRefused], by simp [isStopped],
    htruthful.answer hright⟩
  · have hlt := (List.getElem?_eq_some_iff.mp hqueued).1
    exact hnext ▸ hlt
  · exact hnext ▸ hrest.symm
  · refine Eq.trans ?_ (congrArg (queued.take ·) hnext).symm
    rw [Log.replies_append, hafter, List.take_add_one, hqueued, ← hreplies]
    simp [Log.replies, Log.outcomes, Event.outcome?]

theorem Delivers.step {supported : Bool} {es : List Event} (h : Delivers d l queued)
    (hp : Paced d l now) (hresolves : Resolves d l) (hs : Step now supported d es d') :
    Delivers d' (l ++ es.map (now, ·)) queued := by
  have hfits := hp.writer
  have hnoreply {es : List Event} (hes : es.filterMap Event.outcome? = []) :
      Log.replies (es.map (now, ·)) = [] := by
    rw [Log.replies, Log.outcomes_map, hes]
    rfl
  have hopening {n : Notification} (hn : n.isOpening = true) (fault : Option SessionError) :
      Log.replies [(now, .finished n fault)] = [] := by
    simp [Log.replies, Log.outcomes, Event.outcome?, hn]
  have hpulls (cause : PullCause) (v : PullVersion) (request : DiagnosticRequest) :
      Event.answer? (.pulled cause v request) = none ∧
        Event.outcome? (.pulled cause v request) = none := ⟨rfl, rfl⟩
  cases hs with
  | refuse e hw =>
    have hl : l.handshakes = [] := by rw [hresolves, handshakeOutcome?, hw]; rfl
    exact h.lose hl (by simp [Writer.inHand, hw]) (by simp [isRefused, hw]) e rfl (hnoreply rfl)
  | greet fault hw =>
    exact h.quiet rfl (by simp [Document.outstanding, Writer.inHand, hw])
      (by simp [isRefused, hw]) (by simp [isStopped, hw]) rfl (hnoreply rfl)
  | @fail n e hw =>
    have hl : l.handshakes = [] := by rw [hresolves, handshakeOutcome?, hw]; rfl
    rw [WriterFits, hw] at hfits
    exact h.lose hl (by simp [Writer.inHand, hw]) (by simp [isRefused, hw]) e rfl
      (hopening hfits.2.2 (some e))
  | stop hw => exact h.stop hresolves hw
  | settle hw =>
    rw [WriterFits, hw] at hfits
    exact h.quiet rfl (by simp [Document.outstanding, Writer.inHand, hw])
      (by simp [isRefused, hw]) (by simp [isStopped, hw]) rfl (hopening hfits.2.2 none)
  | join hw =>
    exact h.quiet rfl (by simp [Document.outstanding, Document.establish, Writer.inHand, hw])
      (by simp [Document.establish, isRefused, hw])
      (by simp [Document.establish, isStopped, hw]) rfl (hnoreply rfl)
  | establish hw hdue timer unpulled hu hp =>
    refine h.quiet rfl (by simp [Document.outstanding, Document.establish, Writer.inHand, hw])
      (by simp [Document.establish, isRefused, hw]) (by simp [Document.establish, isStopped, hw]) ?_
      (hnoreply ?_)
    · rw [List.filterMap_cons, hp.filterMap_eq_nil fun c v r => (hpulls c v r).1]
      rfl
    · rw [List.filterMap_cons, hp.filterMap_eq_nil fun c v r => (hpulls c v r).2]
      rfl
  | hand fault hw hqueue =>
    exact h.quiet rfl (by simp [Document.outstanding, Writer.inHand, hw, hqueue])
      (by simp [isRefused, hw]) (by simp [isStopped, hw]) rfl (hnoreply rfl)
  | finish timer pulls hw hp =>
    rw [WriterFits, hw] at hfits
    exact h.finish hresolves hw hfits.2.2.2 hp
  | fire hp hdue hasks | serve hw hk hasks | refresh hp hs hv hasks =>
    exact h.quiet rfl rfl rfl rfl (hasks.filterMap_eq_nil fun c v r => (hpulls c v r).1)
      (hnoreply (hasks.filterMap_eq_nil fun c v r => (hpulls c v r).2))
  | enlist hp hr hs hv => exact h.quiet rfl rfl rfl rfl rfl (hnoreply rfl)

theorem delivers_account : Account fun d l spoken now =>
    (Keeps d (d.ledger l) ∧ Paced d l now) ∧ Resolves d l ∧ Delivers d l (ticketed spoken) where
  new h := ⟨paced_invariant.new h, resolves_new h, delivers_new h⟩
  call hc h := by
    obtain ⟨⟨hk, hp⟩, hresolves, hd⟩ := h
    obtain ⟨added, hadded, hd'⟩ := hd.call hk hc
    exact ⟨added, hadded, paced_invariant.call hc ⟨hk, hp⟩, hresolves.call hk hc,
      ticketed_append _ _ ▸ hd'⟩
  step hs h := ⟨paced_invariant.step hs h.1, h.2.1.step hs, h.2.2.step h.1.2 h.2.1 hs⟩
  wait hle hu h := ⟨paced_invariant.wait hle hu h.1, h.2⟩

end Document

end DocSync
