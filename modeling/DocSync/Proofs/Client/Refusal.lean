import DocSync.Proofs.Client.Delivery
import DocSync.Proofs.Client.Reception
import DocSync.Proofs.Document.Opening
import DocSync.Proofs.Document.Refusal

/-!
# After a failed handshake

A document whose handshake failed has brought nothing to the server but its opening, and has pulled
nothing. It stamps no version from then on, its phase stays until it is closed, and whoever tries to
open it learns of the same error. Until its writer learns of the failure, saves are still queued;
then all tickets are answered with a failure, and nothing more is queued.
-/
namespace DocSync

/-- The log of a document whose handshake failed, and that queued this much. -/
structure Log.Fruitless (l : Log) (e : SessionError) (queued : List Notification) : Prop where
  handed : l.handed = [] ∨
    ∃ n, n.isOpening = true ∧ l.handed = [n] ∧ l.outcomes = [(n, some e)]
  unpulled : ∀ t cause v request, (t, .pulled cause v request) ∉ l
  /-- Nobody has an answer, until everybody has one. -/
  answers : l.answers = [] ∨
    l.answers = (List.range queued.length).map fun ticket => (ticket, false)

namespace Document

variable {d d' : Document} {l : Log} {e : SessionError}

theorem Delivers.answers_stopped {queued : List Notification} (h : Delivers d l queued)
    (hd : d.isStopped = true) :
    l.answers = (List.range queued.length).map fun ticket => (ticket, false) := by
  have hl : l.replies = [] := (h.refused (isRefused_of_isStopped hd)).1
  have hlength : l.answers.length = queued.length := by
    have hall := h.outstanding.trans (h.stopped hd)
    rw [List.drop_eq_nil_iff, length_numbered] at hall
    exact Nat.le_antisymm h.answered hall
  have hfalse : ∀ x ∈ l.answers, (x.1, false) = x := by
    rintro ⟨ticket, sent⟩ hmem
    obtain ⟨⟨t, event⟩, hevent, heq⟩ := List.mem_filterMap.mp hmem
    cases event with
    | acknowledged k s =>
      cases heq
      obtain ⟨before, after, hbefore⟩ := List.append_of_mem hevent
      obtain ⟨-, -, n, -, hsent, -⟩ := h.truthful before t ticket sent after hbefore
      rw [hbefore, Log.replies_append, List.append_eq_nil_iff] at hl
      rw [hl.1] at hsent
      cases sent with
      | false => rfl
      | true => simp at hsent
    | _ => cases heq
  rw [← hlength, ← h.truthful.order, List.map_map]
  exact ((List.map_congr_left hfalse).trans (List.map_id _)).symm

theorem Delivers.fruitless {queued : List Notification} (h : Delivers d l queued)
    (hr : Refuses d l) (he : d.handshakeOutcome? = some (.error e)) : l.Fruitless e queued := by
  refine ⟨hr.handed e he, fun t cause v request hmem => ?_, ?_⟩
  · cases he.symm.trans (hr.pulled t cause v request hmem)
  · cases hd : d.isStopped with
    | true => exact .inr (h.answers_stopped hd)
    | false => exact .inl ((h.refused (isRefused_iff.mpr ⟨e, he⟩)).2 hd)

/-! ## What is still queued -/

theorem flush_refused (hr : d.isRefused = true) :
    d.flush.2 = .skipped ∧ d.flush.1.tickets = d.tickets := by
  have ha : d.acceptsOutgoing = false := by simp [acceptsOutgoing, hr]
  unfold flush
  split
  · exact ⟨rfl, rfl⟩
  · simp [ha]

theorem save_refused (hr : d.isRefused = true) (active : Bool) : (d.save active).2 = .skipped ∨
    d.isStopped = false ∧ (d.save active).2 = .ticket d.id d.tickets := by
  have hpush (n : Notification) : (d.flush.1.push n).2 = .ticket d.id d.tickets := by
    rw [← d.flush_id, ← (flush_refused hr).2]
    rfl
  unfold save
  split
  · exact .inl rfl
  · dsimp only
    split
    · exact .inl rfl
    · rename_i hd
      exact .inr ⟨by simpa using hd, hpush _⟩

/-- After the handshake failed at most a save is queued, as long as the writer takes it. -/
theorem delivery_refused (hr : d.isRefused = true) {active : Bool} {a : DocumentAction}
    {delivery : Delivery} (h : a.delivery? active d = some delivery) :
    delivery = .skipped ∨ a = .save ∧ d.isStopped = false ∧ delivery = .ticket d.id d.tickets := by
  cases a with
  | edit e new =>
    simp only [DocumentAction.delivery?] at h
    cases ht : d.textAfter e new with
    | error fault =>
      rw [ht] at h
      cases h
    | ok text =>
      rw [ht] at h
      have hrefused : (d.type e text).isRefused = true := by
        rw [← hr, isRefused, isRefused, type_writer]
      exact .inl ((Option.some.inj h).symm.trans (flush_refused hrefused).1)
  | flush => exact .inl ((Option.some.inj h).symm.trans (flush_refused hr).1)
  | save =>
    obtain rfl := Option.some.inj h
    exact (save_refused hr active).imp_right fun hsave => ⟨rfl, hsave⟩
  | close =>
    obtain rfl := Option.some.inj h
    left
    simp only [close, pushClose, acceptsOutgoing, hr]
    split <;> simp
  | _ => cases h

/-- What the editor does to a document whose handshake failed. -/
theorem Lifecycle.call_refused {active : Bool} (h : Lifecycle d) (hr : d.isRefused = true)
    (hc : Call active d d') : d'.writer = d.writer ∧ d'.version = d.version ∧
      ∃ saves, d'.backlog = d.backlog ++ saves ∧ ∀ n ∈ saves, ∃ text, n = .didSave d.uri text := by
  have hnot (ha : d.acceptsOutgoing = true) : False := by
    simp [acceptsOutgoing, hr] at ha
  cases hc with
  | begin hp => simp [isRefused, (h.unopened hp).2.2.1] at hr
  | write | abandon => exact ⟨rfl, rfl, [], (List.append_nil _).symm, by simp⟩
  | change ha => exact (hnot ha).elim
  | save ha => exact (hnot ha).elim
  | close ha => exact (hnot ha).elim
  | vain ha _ hl hs text => exact ⟨rfl, rfl, _, d.backlog_push _, by simp⟩

theorem Lifecycle.work_refused (h : Lifecycle d) (hr : d.isRefused = true) (active : Bool)
    (m : Client.Move) : (m.work active d).writer = d.writer ∧
      (m.work active d).version = d.version ∧ ∃ saves, (m.work active d).backlog =
        d.backlog ++ saves ∧ ∀ n ∈ saves, ∃ text, n = .didSave d.uri text := by
  refine (m.work_induct (P := fun w => (Lifecycle w ∧ w.uri = d.uri) ∧ w.writer = d.writer ∧
    w.version = d.version ∧ ∃ saves, w.backlog = d.backlog ++ saves ∧
      ∀ n ∈ saves, ∃ text, n = .didSave d.uri text) ?_
    ⟨⟨h, rfl⟩, rfl, rfl, [], (List.append_nil _).symm, by simp⟩).2
  rintro w w' hc ⟨⟨hl, huri⟩, hwriter, hversion, saves, hbacklog, hsaves⟩
  obtain ⟨hsame, hsame', more, hmore, hmore'⟩ :=
    hl.call_refused (by rw [← hr, isRefused, isRefused, hwriter]) hc
  refine ⟨⟨hl.call hc, (congrArg DocumentId.uri hc.id).trans huri⟩, hsame.trans hwriter,
    hsame'.trans hversion, saves ++ more, by rw [hmore, hbacklog, List.append_assoc],
    fun n hn => ?_⟩
  rcases List.mem_append.mp hn with hn | hn
  · exact hsaves n hn
  · exact huri ▸ hmore' n hn

/-- All that a document whose handshake failed still does by itself is to answer tickets. -/
theorem Refuses.course {supported : Bool} {a b : Nat} {k : Log} (h : Refuses d l)
    (hl : Lifecycle d) (he : d.handshakeOutcome? = some (.error e))
    (hc : Course supported a d k b d') :
    (Refuses d' (l ++ k) ∧ Lifecycle d') ∧ d'.handshakeOutcome? = some (.error e) ∧
      d'.phase = d.phase ∧ ∀ x ∈ k, ∃ t ticket, x = (t, .acknowledged ticket false) := by
  induction hc with
  | refl => exact ⟨⟨by rwa [List.append_nil], hl⟩, he, rfl, by simp⟩
  | wait _ _ _ ih => exact ih h hl he
  | @step now _ d' _ k _ _ hs ih =>
    obtain ⟨⟨hr, hl'⟩, he', hphase, hk⟩ := ih h hl he
    obtain ⟨hw, rfl, rfl⟩ := hr.stops hl' he' hs
    refine ⟨⟨?_, hl'.step hs⟩, rfl, hphase, fun x hx => ?_⟩
    · rw [← List.append_assoc]
      exact hr.stop hw
    · rcases List.mem_append.mp hx with hx | hx
      · exact hk x hx
      · obtain ⟨item, -, rfl⟩ : ∃ item ∈ d'.queue, (now, .acknowledged item.ticket false) = x := by
          simpa [dismissals] using hx
        exact ⟨now, item.ticket, rfl⟩

end Document

namespace Client

open Document (refuses_account)

section Runs

variable (env : Environment) (ms : List Move) {d : Document} {e : SessionError}

/-- What a move still brings about in a document whose handshake failed. -/
theorem refused_move (h : d ∈ ((start env).play ms).documents)
    (he : d.handshakeOutcome? = some (.error e)) (m : Move) :
    ∃ d' ∈ (((start env).play ms).move m).documents, d'.id = d.id ∧
      d'.handshakeOutcome? = some (.error e) ∧ d'.version = d.version ∧
      (m ≠ .act (.document d.id .close) → d'.phase = d.phase) ∧
      (∃ answered, (((start env).play ms).move m).log d.id =
        ((start env).play ms).log d.id ++ answered ∧
          ∀ x ∈ answered, ∃ t ticket, x = (t, .acknowledged ticket false)) ∧
      ∀ n ∈ ((start env).play ms).queues d.id m, ∃ text, n = .didSave d.uri text := by
  have hc := sound_play env ms
  have haccount := refuses_account.play env ms d h
  have hnext := refuses_account.queues hc.distinct h haccount m
  have hl : d.Lifecycle := haccount.2.2.1
  have hr := Document.isRefused_iff.mpr ⟨e, he⟩
  obtain ⟨hwriter, hversion, saves, hbacklog, hsaves⟩ :=
    hl.work_refused hr ((start env).play ms).env.session.active m
  have hworked : (m.work ((start env).play ms).env.session.active d).handshakeOutcome? =
      some (.error e) := by
    rw [← he, Document.handshakeOutcome?, Document.handshakeOutcome?, hwriter]
  obtain ⟨d', hd', hid⟩ := List.mem_map.mp (ids_subset_move hc m (mem_ids h))
  rcases hc.source hd' with ⟨d₀, hd₀, l, hcourse, hlog, hid₀⟩ | ⟨-, hnew, -⟩
  · obtain rfl : d₀ = d := eq_of_id hc.distinct hd₀ h (hid₀.trans hid)
    obtain ⟨-, houtcome, hphase, hanswered⟩ := hnext.2.2.2.course hnext.2.2.1 hworked hcourse
    rw [hid] at hlog
    refine ⟨d', hd', hid, houtcome, hcourse.sameText.version.trans hversion, fun hm => ?_,
      ⟨l, hlog, hanswered⟩, ?_⟩
    · rw [hphase]
      rcases m with - | ⟨id, a⟩ | a
      · rfl
      · by_cases hsame : id = d₀.id
        · rw [Move.work, if_pos hsame]
          by_cases hb : a = .beginOpen
          · subst hb
            refine congrArg _ (Document.beginOpen_of_ne fun hp => ?_)
            simp [Document.isRefused, (hl.unopened hp).2.2.1] at hr
          · refine d₀.work_phase hb fun hclose => hm ?_
            rw [hsame, hclose]
        · rw [Move.work, if_neg hsame]
      · rfl
    · rw [queues_eq hc.distinct h hbacklog]
      exact hsaves
  · exact absurd (mem_ids h) (hid ▸ hnew ▸ hc.freshId_notMem d'.uri)

theorem refused_play (h : d ∈ ((start env).play ms).documents)
    (he : d.handshakeOutcome? = some (.error e)) (ns : List Move) :
    ∃ d' ∈ ((start env).play (ms ++ ns)).documents, d'.id = d.id ∧
      d'.handshakeOutcome? = some (.error e) ∧ d'.version = d.version ∧
      (.act (.document d.id .close) ∉ ns → d'.phase = d.phase) ∧
      (∃ answered, ((start env).play (ms ++ ns)).log d.id =
        ((start env).play ms).log d.id ++ answered ∧
          ∀ x ∈ answered, ∃ t ticket, x = (t, .acknowledged ticket false)) ∧
      ∃ saves, (start env).spoken d.id (ms ++ ns) = (start env).spoken d.id ms ++ saves ∧
        ∀ n ∈ saves, ∃ text, n = .didSave d.uri text := by
  induction ns using List.reverseRecOn with
  | nil =>
    exact ⟨d, by simpa using h, rfl, he, rfl, fun _ => rfl, ⟨[], by simp, by simp⟩, [], by simp,
      by simp⟩
  | append_singleton ns m ih =>
    obtain ⟨d₁, hd₁, hid₁, he₁, hversion₁, hphase₁, ⟨k, hk, hanswered⟩, saves, hspoken, hsaves⟩ :=
      ih
    obtain ⟨d₂, hd₂, hid₂, he₂, hversion₂, hphase₂, ⟨k', hk', hanswered'⟩, hqueues⟩ :=
      refused_move env (ms ++ ns) hd₁ he₁ m
    rw [Document.uri, hid₁] at hqueues
    rw [hid₁] at hid₂ hk' hphase₂
    rw [← List.append_assoc, play_concat, spoken_concat]
    refine ⟨d₂, hd₂, hid₂, he₂, hversion₂.trans hversion₁, fun hns => ?_,
      ⟨k ++ k', ?_, fun x hx => ?_⟩,
      saves ++ ((start env).play (ms ++ ns)).queues d.id m, ?_, fun n hn => ?_⟩
    · rw [List.mem_append, not_or, List.mem_singleton] at hns
      exact (hphase₂ fun hm => hns.2 hm.symm).trans (hphase₁ hns.1)
    · rw [hk', hk, List.append_assoc]
    · exact (List.mem_append.mp hx).elim (hanswered x) (hanswered' x)
    · rw [hspoken, List.append_assoc]
    · exact (List.mem_append.mp hn).elim (hsaves n) (hqueues n)

theorem handshakeOutcome_refused {c : Client} (hc : c.ids.Nodup) (hd : d ∈ c.documents)
    (he : d.handshakeOutcome? = some (.error e)) :
    c.handshakeOutcome? (.shared d.id) = some (.error (.session e)) := by
  simp [handshakeOutcome?, find?_of_mem hc hd, he, Except.mapError]

/-- What a client makes of a document whose handshake failed, and that queued this much. -/
structure Inert (c : Client) (d : Document) (e : SessionError) (queued : List Notification) :
    Prop where
  fruitless : (c.log d.id).Fruitless e queued
  /-- A writer that is not slow has learned of the failure, and has answered all tickets. -/
  answered : c.env.late d.id = false →
    (c.log d.id).answers = (List.range queued.length).map fun ticket => (ticket, false)
  /-- A slow writer still takes saves, and nothing else. -/
  delivery : ∀ a delivery, (c.performOn d a).2 = .delivery delivery → delivery = .skipped ∨
    a = .save ∧ c.env.late d.id = true ∧ delivery = .ticket d.id queued.length
  /-- Whoever waits for the handshake learns of the error. -/
  handshake : c.handshakeOutcome? (.shared d.id) = some (.error (.session e))
  /-- So does whoever tries to open the document, unless it is closed. -/
  reported : d.phase ≠ .closed → ∃ handshake,
    (c.performOn d .beginOpen).2 = .handshake handshake ∧
      (c.performOn d .beginOpen).1.handshakeOutcome? handshake = some (.error (.session e))

theorem inert_of_refused (h : d ∈ ((start env).play ms).documents)
    (he : d.handshakeOutcome? = some (.error e)) :
    Inert ((start env).play ms) d e (ticketed ((start env).spoken d.id ms)) := by
  have hc := sound_play env ms
  have hf : ((start env).play ms).find? d.id = some d := find?_of_mem hc.distinct h
  obtain ⟨⟨-, -, hdelivers⟩, -, -, hrefuses⟩ := refuses_account.play env ms d h
  have hr := Document.isRefused_iff.mpr ⟨e, he⟩
  have hlate (hd : d.isStopped = false) : ((start env).play ms).env.late d.id = true := by
    cases hw : d.writer with
    | refused f => exact (hc.rests d h).refused f hw
    | stopped f => simp [Document.isStopped, hw] at hd
    | _ => simp [Document.handshakeOutcome?, hw] at he
  refine ⟨hdelivers.fruitless hrefuses he, fun hnot => ?_, fun a delivery hreply => ?_,
    handshakeOutcome_refused hc.distinct h he, fun hp => ⟨.shared d.id, ?_, ?_⟩⟩
  · refine hdelivers.answers_stopped ?_
    by_contra hd
    simp [hlate (by simpa using hd)] at hnot
  · rw [← hdelivers.tickets]
    refine (Document.delivery_refused hr (performOn_delivery hc.distinct h hreply)).imp_right ?_
    rintro ⟨ha, hd, hticket⟩
    exact ⟨ha, hlate hd, hticket⟩
  · simp [performOn, beginOpen, hf, Document.handshake, hp]
  · obtain ⟨d', hd', hid, he', -⟩ := refused_move env ms h he (.act (.document d.id .beginOpen))
    have hmove : (((start env).play ms).performOn d .beginOpen).1 =
        ((start env).play ms).move (.act (.document d.id .beginOpen)) := by
      simp [Client.move, step, perform, hf]
    rw [hmove]
    have houtcome := handshakeOutcome_refused
      (hc.move (.act (.document d.id .beginOpen))).distinct hd' he'
    rwa [hid] at houtcome

/-- Once the handshake of a document failed the document is inert, in all that follows: at the same
version, and in the same phase until it is closed. Nothing joins its log but answers that tell of a
failure, and nothing is queued but saves. -/
theorem inert (h : d ∈ ((start env).play ms).documents)
    (he : d.handshakeOutcome? = some (.error e)) (ns : List Move) :
    ∃ d' ∈ ((start env).play (ms ++ ns)).documents, d'.id = d.id ∧
      Inert ((start env).play (ms ++ ns)) d' e (ticketed ((start env).spoken d.id (ms ++ ns))) ∧
      d'.version = d.version ∧
      (.act (.document d.id .close) ∉ ns → d'.phase = d.phase) ∧
      (∃ answered, ((start env).play (ms ++ ns)).log d.id =
        ((start env).play ms).log d.id ++ answered ∧
          ∀ x ∈ answered, ∃ t ticket, x = (t, .acknowledged ticket false)) ∧
      ∃ saves, (start env).spoken d.id (ms ++ ns) = (start env).spoken d.id ms ++ saves ∧
        ∀ n ∈ saves, ∃ text, n = .didSave d.uri text := by
  obtain ⟨d', hd', hid, he', hversion, hphase, hlog, hspoken⟩ := refused_play env ms h he ns
  have hinert := inert_of_refused env (ms ++ ns) hd' he'
  rw [hid] at hinert
  exact ⟨d', hd', hid, hinert, hversion, hphase, hlog, hspoken⟩

end Runs

/-- A document is changed and saved before its opening is handed over, and the opening is lost. Its
writer is slow to learn of it. -/
def turnedAway : List Move :=
  let id : DocumentId := ⟨⟨"file:///a"⟩, 0⟩
  [.create id.uri "text" ⟨.full, true, .notify⟩ {} "a" none,
    .act (.shared (.happen (.setSession .held))), .act (.document id .beginOpen),
    .act (.document id (.edit (.insertion 1 "b") none)), .act (.document id .save),
    .act (.shared (.happen (.delay id true))),
    .act (.shared (.happen (.failNext "textDocument/didOpen" .notRunning))),
    .act (.shared (.happen (.setSession .ready)))]

/-- Meanwhile the document is changed and saved once more. -/
def turnedAwayLate : List Move :=
  let id : DocumentId := ⟨⟨"file:///a"⟩, 0⟩
  [.act (.document id .save), .act (.document id (.edit (.insertion 2 "c") none)),
    .act (.shared (.happen (.delay id false)))]

/-- The save in between is queued, and fails with the others once the writer learns of it. -/
theorem inert_turnedAway : ∃ d ∈ ((start offering).play turnedAway).documents,
    (((start offering).play turnedAway).performOn d .save).2 = .delivery (.ticket d.id 2) ∧
      (((start offering).play turnedAway).log d.id).answers = [] ∧
      (((start offering).play (turnedAway ++ turnedAwayLate)).log d.id).answers =
        [(0, false), (1, false), (2, false)] ∧
      ∀ ns, ∃ d' ∈ ((start offering).play (turnedAway ++ ns)).documents, d'.id = d.id ∧
        d'.version = ⟨2⟩ ∧ Inert ((start offering).play (turnedAway ++ ns)) d' .notRunning
          (ticketed ((start offering).spoken d.id (turnedAway ++ ns))) := by
  obtain ⟨d, hd, hsave, hnone, hlength, hlate, hversion, he⟩ :
      ∃ d ∈ ((start offering).play turnedAway).documents,
        (((start offering).play turnedAway).save d.id).2 = .ticket d.id 2 ∧
          (((start offering).play turnedAway).log d.id).answers = [] ∧
          (ticketed ((start offering).spoken d.id (turnedAway ++ turnedAwayLate))).length = 3 ∧
          ((start offering).play (turnedAway ++ turnedAwayLate)).env.late d.id = false ∧
          d.version = ⟨2⟩ ∧ d.handshakeOutcome? = some (.error .notRunning) := by decide
  refine ⟨d, hd, congrArg Reply.delivery hsave, hnone, ?_, fun ns => ?_⟩
  · obtain ⟨d', -, hid, hinert, -⟩ := inert offering turnedAway hd he turnedAwayLate
    rw [← hid] at hlate
    rw [← hid, hinert.answered hlate, hlength]
    rfl
  · obtain ⟨d', hd', hid, hinert, hsame, -⟩ := inert offering turnedAway hd he ns
    exact ⟨d', hd', hid, hsame.trans hversion, hinert⟩

end Client

end DocSync
