import DocSync.Proofs.Client.Effects
import DocSync.Proofs.Client.Handover
import DocSync.Proofs.Client.Opening
import DocSync.Proofs.Client.Refusal
import DocSync.Proofs.Document.Farewell

/-!
# Closing documents together

Documents that are closed one after the other leave each other alone: each of them queues what it
would queue if it were closed alone, its last changes and its closing, and what is stored about its
file is dropped. A closed document has nothing more to say, so the ticket of its closing tells
whether the server has heard of all that it ever said.
-/
namespace DocSync

open Client (Move)

/-- Files are forgotten one after the other. -/
theorem Registry.file_run_clears {as : List RegistryAction} (h : ∀ a ∈ as, ∃ uri, a = .clear uri)
    (r : Registry) (v : Uri) :
    (r.run as).file v = if RegistryAction.clear v ∈ as then {} else r.file v := by
  induction as generalizing r with
  | nil => simp [run]
  | cons a as ih =>
    obtain ⟨uri, rfl⟩ := h a List.mem_cons_self
    have hrest := ih (fun b hb => h b (List.mem_cons_of_mem _ hb)) (r.clear uri)
    have hrun : r.run (.clear uri :: as) = (r.clear uri).run as := rfl
    rw [hrun, hrest, file_clear]
    by_cases hv : v = uri
    · subst hv
      simp
    · simp [hv]

namespace Document

/-- The changes that a document still has to tell of. -/
def lastChanges (d : Document) : List Notification :=
  if d.pending.events = [] then [] else [.didChange d.uri d.version.next d.pending.events]

/-- What a document has to say when it is closed. -/
def lastWords (d : Document) : List Notification := d.lastChanges ++ [.didClose d.uri]

/-- A document that the server is to hear of when it is closed. -/
structure Departs (d : Document) : Prop where
  phase : d.phase ≠ .closed
  openClose : d.policy.openClose = true
  handshake : ∀ e, d.handshakeOutcome? ≠ some (.error e)

/-- Whether a document says anything when it is closed while the session is active. -/
def bidsFarewell (d : Document) : Bool := d.acceptsOutgoing && d.policy.openClose

variable {d : Document}

theorem bidsFarewell_iff : d.bidsFarewell = true ↔
    d.acceptsOutgoing = true ∧ d.policy.openClose = true := Bool.and_eq_true_iff

theorem bidsFarewell_iff_departs (hp : d.phase ≠ .unopened) :
    d.bidsFarewell = true ↔ d.Departs := by
  have haccepts : d.acceptsOutgoing = true ↔ d.phase ≠ .closed ∧ ¬ d.isRefused = true := by
    cases hphase : d.phase <;> simp [acceptsOutgoing, acceptsEdits, hphase] at hp ⊢
  rw [bidsFarewell_iff, haccepts, isRefused_iff, not_exists]
  constructor
  · rintro ⟨⟨hopen, hhandshake⟩, hpolicy⟩
    exact ⟨hopen, hpolicy, hhandshake⟩
  · rintro ⟨hopen, hpolicy, hhandshake⟩
    exact ⟨⟨hopen, hhandshake⟩, hpolicy⟩

theorem flush_lastChanges (ha : d.acceptsOutgoing = true) :
    d.flush.1.backlog = d.backlog ++ d.lastChanges ∧
      d.flush.1.tickets = d.tickets + d.lastChanges.length := by
  rw [flush_fst, if_pos ha, lastChanges]
  split
  · exact ⟨(List.append_nil _).symm, rfl⟩
  · exact ⟨backlog_push _ _, rfl⟩

theorem close_backlog (d : Document) : (d.close true).1.backlog =
    d.backlog ++ if d.bidsFarewell = true then d.lastWords else [] := by
  rw [close_fst]
  by_cases hb : d.bidsFarewell = true
  · obtain ⟨ha, ho⟩ := bidsFarewell_iff.mp hb
    have hshut : (d.flush.1.push (.didClose d.uri)).1.shut.backlog =
        (d.flush.1.push (.didClose d.uri)).1.backlog := rfl
    rw [if_neg (acceptsOutgoing_open ha), if_pos (by simp [ha, ho]), if_pos hb, hshut, backlog_push,
      (flush_lastChanges ha).1, lastWords, List.append_assoc]
  · have hsilent : ¬ (d.acceptsOutgoing && d.policy.openClose && true) = true := by
      rwa [Bool.and_true]
    rw [if_neg hsilent, if_neg hb, List.append_nil]
    split <;> rfl

theorem close_delivery (d : Document) : (d.close true).2 =
    if d.bidsFarewell = true then .ticket d.id (d.tickets + d.lastChanges.length)
    else .skipped := by
  unfold close pushClose
  by_cases hb : d.bidsFarewell = true
  · obtain ⟨ha, ho⟩ := bidsFarewell_iff.mp hb
    have hpush : (d.flush.1.push (.didClose d.uri)).2 =
        .ticket d.flush.1.id d.flush.1.tickets := rfl
    rw [if_neg (acceptsOutgoing_open ha), if_pos hb, if_pos (by simp [ha, ho])]
    dsimp only
    rw [hpush, d.flush_id, (flush_lastChanges ha).2]
  · have hsilent : ¬ (d.acceptsOutgoing && d.policy.openClose && true) = true := by
      rwa [Bool.and_true]
    rw [if_neg hb, if_neg hsilent]
    split <;> rfl

theorem ticketed_lastWords (d : Document) : ticketed d.lastWords = d.lastWords := by
  unfold lastWords lastChanges
  split <;> rfl

theorem length_lastWords (d : Document) : d.lastWords.length = d.lastChanges.length + 1 := by
  simp [lastWords]

/-- A handshake that failed leaves nothing without an outcome. -/
theorem unresolved_refused {l : Log} (hr : d.Refuses l) (hs : d.Settles l)
    (h : d.isRefused = true) : l.unresolved = [] := by
  obtain ⟨e, he⟩ := isRefused_iff.mp h
  have horder := hs.order
  rcases hr.handed e he with hnone | ⟨n, -, hone, houtcomes⟩
  · rw [hnone] at horder
    exact (List.append_eq_nil_iff.mp horder.symm).2
  · rw [hone, houtcomes] at horder
    simpa using horder

end Document

namespace Client

/-- The moves that close some documents, one after the other. -/
def closes (ids : List DocumentId) : List Move := ids.map fun id => .act (.document id .close)

/-- The deliveries that come of closing some documents, one after the other. -/
def closings (c : Client) : List DocumentId → List Delivery
  | [] => []
  | id :: ids => (c.close id).2 :: (c.move (.act (.document id .close))).closings ids

/-- Whether all of some deliveries were made. -/
def completes (c : Client) (deliveries : List Delivery) : Bool := !deliveries.any c.isPending

/-! ## One document is closed -/

section Step

variable {c : Client} (hc : c.Sound)

theorem queues_act {id other : DocumentId} (hne : id ≠ other) (a : DocumentAction) :
    c.queues other (.act (.document id a)) = [] := by
  unfold queues
  cases hf : c.find? other with
  | none => rfl
  | some d =>
    obtain ⟨-, rfl⟩ := find?_eq_some hf
    dsimp only
    rw [Move.work, if_neg hne, List.drop_length]

include hc

theorem find?_act {id other : DocumentId} (hne : id ≠ other) (a : DocumentAction) :
    (c.move (.act (.document id a))).find? other = c.find? other := by
  cases hf : c.find? id with
  | none => rw [move_of_unknown hf]
  | some d =>
    obtain ⟨hd, rfl⟩ := find?_eq_some hf
    obtain ⟨r, hmove⟩ := move_document hc.distinct hc.rests hd a
    obtain ⟨es, he⟩ := Turn.emits_perform ⟨d, (c.setRegistry r).env⟩ a
    rw [hmove, find?_put, he.id, if_neg (Ne.symm hne)]
    rfl

theorem close_snd {d : Document} (hd : d ∈ c.documents) :
    (c.close d.id).2 = (d.close c.env.session.active).2 := by
  obtain ⟨r, hr⟩ := c.clearBeforeClose_eq d.id
  have hf : (c.setRegistry r).find? d.id = some d := find?_of_mem hc.distinct hd
  simp only [close, hr, deliver, hf]

/-- Since a closed document pulls nothing, nothing is learned while a document is closed. -/
theorem registry_close (id : DocumentId) : (c.move (.act (.document id .close))).env.registry =
    c.env.registry.run (c.asks (.act (.document id .close))) := by
  cases hf : c.find? id with
  | none =>
    rw [move_of_unknown hf]
    simp only [asks, hf]
    rfl
  | some d =>
    obtain ⟨hd, rfl⟩ := find?_eq_some hf
    have hcleared : (c.cleared d.id .close).env.registry =
        c.env.registry.run (c.asks (.act (.document d.id .close))) :=
      c.told_answered (.act (.document d.id .close))
    have hmove : c.move (.act (.document d.id .close)) = (c.performOn d .close).1 := by
      simp [Client.move, step, perform, hf]
    rw [hmove, performOn_eq hc.distinct hc.rests hd, ← hcleared]
    generalize (c.cleared d.id .close).env = e
    obtain ⟨es, he, hcourse⟩ := Turn.goes_progress ((⟨d, e⟩ : Turn).perform .close)
    refine he.proceeds.registry.eq_of_unpulled fun x hx cause v request hevent => ?_
    obtain ⟨event, hmem, rfl⟩ := List.mem_map.mp hx
    have hawaits := hcourse.pulled (List.mem_map.mpr ⟨event, hmem, by rw [← hevent]⟩)
    have hclosed := hcourse.closed.mpr (d.close_phase e.session.active)
    simp [Document.awaits, hclosed] at hawaits

theorem closed_close {id : DocumentId} {d' : Document}
    (hd' : d' ∈ (c.move (.act (.document id .close))).documents) :
    ∃ d ∈ c.documents, d.id = d'.id ∧
      (d'.id = id ∨ d.phase = .closed → d'.phase = .closed) := by
  rcases hc.source hd' with ⟨d, hd, l, hcourse, -, hid⟩ | ⟨-, -, -, hm⟩
  · refine ⟨d, hd, hid, fun h => hcourse.closed.mpr ?_⟩
    rcases h with rfl | hp
    · rw [Move.work, if_pos hid.symm]
      exact d.close_phase _
    · exact Document.work_closed _ hp _
  · cases hm

end Step

/-! ## Documents are closed one after the other -/

section Run

variable {c : Client} (hc : c.Sound) {ids : List DocumentId}

include hc

theorem find?_closes {other : DocumentId} (h : other ∉ ids) :
    (c.play (closes ids)).find? other = c.find? other := by
  induction ids generalizing c with
  | nil => rfl
  | cons id ids ih =>
    rw [List.mem_cons, not_or] at h
    exact (ih (hc.move _) h.2).trans (find?_act hc (Ne.symm h.1) .close)

theorem spoken_closes_of_notMem {other : DocumentId} (h : other ∉ ids) :
    c.spoken other (closes ids) = [] := by
  induction ids generalizing c with
  | nil => rfl
  | cons id ids ih =>
    rw [List.mem_cons, not_or] at h
    exact List.append_eq_nil_iff.mpr ⟨queues_act (Ne.symm h.1) .close, ih (hc.move _) h.2⟩

theorem spoken_closes (hids : ids.Nodup) (hactive : c.env.session.active = true) {d : Document}
    (hd : d ∈ c.documents) (hmem : d.id ∈ ids) :
    c.spoken d.id (closes ids) = if d.bidsFarewell = true then d.lastWords else [] := by
  induction ids generalizing c with
  | nil => cases hmem
  | cons id ids ih =>
    obtain ⟨hid, hrest⟩ := List.nodup_cons.mp hids
    have hsplit : c.spoken d.id (closes (id :: ids)) =
        c.queues d.id (.act (.document id .close)) ++
          (c.move (.act (.document id .close))).spoken d.id (closes ids) := rfl
    rw [hsplit]
    by_cases heq : id = d.id
    · subst heq
      have hwork : (Move.work c.env.session.active d (.act (.document d.id .close))).backlog =
          d.backlog ++ if d.bidsFarewell = true then d.lastWords else [] := by
        rw [Move.work, if_pos rfl, hactive]
        exact d.close_backlog
      rw [queues_eq hc.distinct hd hwork, spoken_closes_of_notMem (hc.move _) hid, List.append_nil]
    · have hfound := find?_act hc heq .close
      rw [find?_of_mem hc.distinct hd] at hfound
      rw [queues_act heq, List.nil_append]
      refine ih (hc.move _) hrest ?_ (find?_eq_some hfound).1
        ((List.mem_cons.mp hmem).resolve_left (Ne.symm heq))
      rw [(world_document hc.distinct hc.rests id .close).session, hactive]

/-- Each document is closed as if it were closed alone. -/
theorem closings_eq (hids : ids.Nodup) (hknown : ids ⊆ c.ids) :
    c.closings ids = ids.map fun id => (c.close id).2 := by
  induction ids generalizing c with
  | nil => rfl
  | cons id ids ih =>
    obtain ⟨hid, hrest⟩ := List.nodup_cons.mp hids
    obtain ⟨-, hknown⟩ := List.cons_subset.mp hknown
    have hafter := hc.move (.act (.document id .close))
    rw [closings, List.map_cons,
      ih hafter hrest (List.Subset.trans hknown (ids_subset_move hc _))]
    refine congrArg _ (List.map_congr_left fun other hother => ?_)
    obtain ⟨d, hd, rfl⟩ := List.mem_map.mp (hknown hother)
    have hne : id ≠ d.id := fun heq => hid (heq ▸ hother)
    have hfound := find?_act hc hne .close
    rw [find?_of_mem hc.distinct hd] at hfound
    rw [close_snd hc hd, close_snd hafter (find?_eq_some hfound).1,
      (world_document hc.distinct hc.rests id .close).session]

/-- What is stored about their files is dropped, and that is all. -/
theorem registry_closes (hids : ids.Nodup) : (c.play (closes ids)).env.registry =
    c.env.registry.run (ids.flatMap fun id => c.asks (.act (.document id .close))) := by
  induction ids generalizing c with
  | nil => rfl
  | cons id ids ih =>
    obtain ⟨hid, hrest⟩ := List.nodup_cons.mp hids
    have hsplit : (c.play (closes (id :: ids))).env.registry =
        ((c.move (.act (.document id .close))).play (closes ids)).env.registry := rfl
    have hsame : (ids.flatMap fun other =>
        (c.move (.act (.document id .close))).asks (.act (.document other .close))) =
          ids.flatMap fun other => c.asks (.act (.document other .close)) := by
      rw [List.flatMap_def, List.flatMap_def]
      refine congrArg _ (List.map_congr_left fun other hother => ?_)
      have hne : id ≠ other := fun heq => hid (heq ▸ hother)
      simp only [asks]
      rw [find?_act hc hne .close]
    rw [hsplit, ih (hc.move _) hrest, registry_close hc, hsame, ← Registry.run_append]
    rfl

theorem mem_asks_closes {uri : Uri} :
    RegistryAction.clear uri ∈ (ids.flatMap fun id => c.asks (.act (.document id .close))) ↔
      ∃ d ∈ c.documents, d.id ∈ ids ∧ d.phase ≠ .closed ∧ d.uri = uri := by
  constructor
  · intro h
    obtain ⟨id, hid, hmem⟩ := List.mem_flatMap.mp h
    simp only [asks] at hmem
    split at hmem
    · rename_i d hf
      obtain ⟨hd, rfl⟩ := find?_eq_some hf
      split at hmem
      · cases hmem
      · rename_i hp
        obtain rfl := RegistryAction.clear.inj (List.mem_singleton.mp hmem)
        exact ⟨d, hd, hid, hp, rfl⟩
    · cases hmem
  · rintro ⟨d, hd, hid, hp, rfl⟩
    refine List.mem_flatMap.mpr ⟨d.id, hid, ?_⟩
    simp [asks, find?_of_mem hc.distinct hd, hp]

theorem file_closes (hids : ids.Nodup) (uri : Uri) :
    (c.play (closes ids)).env.registry.file uri =
      if ∃ d ∈ c.documents, d.id ∈ ids ∧ d.phase ≠ .closed ∧ d.uri = uri then {}
      else c.env.registry.file uri := by
  have hclears : ∀ a ∈ (ids.flatMap fun id => c.asks (.act (.document id .close))),
      ∃ uri, a = .clear uri := by
    intro a ha
    obtain ⟨id, -, hmem⟩ := List.mem_flatMap.mp ha
    simp only [asks] at hmem
    split at hmem
    · split at hmem
      · cases hmem
      · exact ⟨_, List.mem_singleton.mp hmem⟩
    · cases hmem
  rw [registry_closes hc hids, Registry.file_run_clears hclears]
  exact if_congr (mem_asks_closes hc) rfl rfl

theorem closed_closes {d' : Document} (hd' : d' ∈ (c.play (closes ids)).documents)
    (hid : d'.id ∈ ids) : d'.phase = .closed := by
  induction ids using List.reverseRecOn generalizing d' with
  | nil => cases hid
  | append_singleton ids id ih =>
    have hlast : c.play (closes (ids ++ [id])) =
        (c.play (closes ids)).move (.act (.document id .close)) := by
      rw [closes, List.map_append, List.map_singleton, play_concat, closes]
    rw [hlast] at hd'
    obtain ⟨d, hd, heq, hclosed⟩ := closed_close (hc.play _) hd'
    rcases List.mem_append.mp hid with hid | hid
    · exact hclosed (.inr (ih hd (heq ▸ hid)))
    · exact hclosed (.inl (List.mem_singleton.mp hid))

theorem spoken_of_closed {d : Document} (hd : d ∈ c.documents) (hp : d.phase = .closed)
    (ms : List Move) : c.spoken d.id ms = [] := by
  induction ms generalizing c d with
  | nil => rfl
  | cons m ms ih =>
    have hqueues : c.queues d.id m = [] := by
      refine queues_eq hc.distinct hd ?_
      rw [(Document.work_of_closed hp _ m).1, List.append_nil]
    obtain ⟨e, he, hid⟩ := hc.exists_play hd [m]
    have hrest := ih (hc.move m) he (hc.closed_lasting hd hp [m] e he hid)
    rw [hid] at hrest
    rw [spoken, hqueues, hrest, List.append_nil]

end Run

/-! ## What the last ticket tells -/

/-- The notifications of a document do not come through: the handshake has no outcome, or it failed
and the writer does not know it yet, or the link holds one of them up. -/
def Detained (c : Client) (d : Document) (said : List Notification) : Prop :=
  d.handshakeOutcome? = none ∨ (∃ e, d.writer = .refused e) ∨
    c.env.link.stalled = true ∧ ∃ n ∈ said, (c.log d.id).unresolved = [n]

section Ticket

variable (env : Environment) (ms : List Move) {d : Document}
  (hd : d ∈ ((start env).play ms).documents) {k : Nat}
  (hk : (ticketed ((start env).spoken d.id ms)).length = k + 1)
include hd hk

theorem pending_last_iff : ((start env).play ms).isPending (.ticket d.id k) = true ↔
    Detained ((start env).play ms) d ((start env).spoken d.id ms) := by
  have hc := sound_play env ms
  obtain ⟨⟨⟨-, hpaced⟩, hresolves, hdelivers⟩, hsettles, -, hrefuses⟩ :=
    Document.refuses_account.play env ms d hd
  constructor
  · intro h
    rcases (deliveryOrder_play env ms d hd).pending k h with
      hnone | ⟨⟨e, he⟩, -⟩ | ⟨hstalled, j, -, n, hj, hn⟩
    · exact .inl hnone
    · refine .inr (.inl ⟨e, ?_⟩)
      cases hw : d.writer with
      | refused f => simpa [Document.handshakeOutcome?, hw] using he
      | stopped f =>
        have hnone := hdelivers.outstanding.trans
          (hdelivers.stopped (by simp [Document.isStopped, hw]))
        rw [List.drop_eq_nil_iff, length_numbered, hk] at hnone
        have := ((isPending_iff hc.distinct hd hdelivers k).mp h).1
        omega
      | _ => simp [Document.handshakeOutcome?, hw] at he
    · exact .inr (.inr ⟨hstalled, n, List.mem_of_mem_filter (List.mem_of_getElem? hj), hn⟩)
  · rw [isPending_iff hc.distinct hd hdelivers, hk]
    have hwaits (h : d.handshakeOutcome? = none) :
        (((start env).play ms).log d.id).answers.length ≤ k := by
      have hnone : (((start env).play ms).log d.id).handshakes = [] := by rw [hresolves, h]; rfl
      rw [hdelivers.truthful.answers_eq_nil hnone]
      exact Nat.zero_le k
    refine fun h => ⟨?_, Nat.lt_succ_self k⟩
    rcases h with h | ⟨e, hw⟩ | ⟨-, n, -, hn⟩
    · exact hwaits h
    · have hr : d.isRefused = true := by simp [Document.isRefused, hw]
      rw [(hdelivers.refused hr).2 (by simp [Document.isStopped, hw])]
      exact Nat.zero_le k
    · have hfits := hpaced.writer
      unfold Document.WriterFits at hfits
      cases hw : d.writer with
      | sending item fault =>
        -- The notification in hand has a ticket without an answer.
        have hsome := hdelivers.outstanding
        rw [Document.outstanding, hw, Document.Writer.inHand, List.singleton_append] at hsome
        have hlt := (List.getElem?_eq_some_iff.mp (drop_numbered_eq_cons hsome).2.1).1
        omega
      | greeting => exact hwaits (by simp [Document.handshakeOutcome?, hw])
      | refused e | stopped e =>
        have hr : d.isRefused = true := by simp [Document.isRefused, hw]
        rw [Document.unresolved_refused hrefuses hsettles hr] at hn
        cases hn
      | waiting greeting =>
        rw [hw] at hfits
        cases greeting <;> simp [hfits.1] at hn
      | _ =>
        rw [hw] at hfits
        simp [hfits.1] at hn

/-- When the last ticket is answered the server has heard of everything, or the handshake failed. -/
theorem handed_of_answered (h : ((start env).play ms).isPending (.ticket d.id k) = false) :
    d.isRefused = true ∨
      (((start env).play ms).log d.id).handed = (start env).spoken d.id ms := by
  have hc := sound_play env ms
  obtain ⟨⟨-, hresolves, hdelivers⟩, -, -, -⟩ := Document.refuses_account.play env ms d hd
  have hlength : k < (((start env).play ms).log d.id).answers.length := by
    have hnot := (isPending_iff hc.distinct hd hdelivers k).not.mp (by simp [h])
    omega
  have hnone : d.outstanding = [] := by
    rw [← hdelivers.outstanding, List.drop_eq_nil_iff, length_numbered, hk]
    exact hlength
  obtain ⟨hhand, hqueue⟩ := List.append_eq_nil_iff.mp hnone
  have hshaken : d.handshakeOutcome? ≠ none := by
    intro hoc
    have hnil : (((start env).play ms).log d.id).handshakes = [] := by rw [hresolves, hoc]; rfl
    rw [hdelivers.truthful.answers_eq_nil hnil] at hlength
    cases hlength
  by_cases hr : d.isRefused = true
  · exact .inl hr
  · have hgreeting : Document.Writer.greeting? d.writer = none := by
      cases hw : d.writer with
      | waiting => simp [Document.handshakeOutcome?, hw] at hshaken
      | _ => rfl
    have hunsent : d.unsent = [] := by
      rw [Document.unsent_of_greeting?_eq_none hgreeting (by simpa using hr), hqueue]
      rfl
    have hall := (speaks_play env ms d hd).complete (by simpa using hr)
    rw [Document.ledger, hunsent, List.append_nil] at hall
    exact .inr hall

/-- What was answered is not pending again. -/
theorem answered_lasting (h : ((start env).play ms).isPending (.ticket d.id k) = false)
    (more : List Move) : ((start env).play (ms ++ more)).isPending (.ticket d.id k) = false := by
  have hc := sound_play env ms
  obtain ⟨sent, hsent⟩ : ∃ sent, (k, sent) ∈ (((start env).play ms).log d.id).answers := by
    have hnot := ((deliveryOrder_play env ms d hd).accounted k).not.mp (by simp [h])
    rw [hk, not_and, not_forall] at hnot
    obtain ⟨sent, hsent⟩ := hnot (Nat.lt_succ_self k)
    exact ⟨sent, not_not.mp hsent⟩
  obtain ⟨e, he, hid⟩ := hc.exists_play hd more
  obtain ⟨entries, hentries⟩ := hc.history_play more
  rw [← play_append] at he hentries
  have hlater : (k, sent) ∈ (((start env).play (ms ++ more)).log d.id).answers := by
    rw [log, hentries, logOf_append, Log.answers_append]
    exact List.mem_append_left _ hsent
  rw [← Bool.not_eq_true, ← hid, (deliveryOrder_play env _ e he).accounted k, not_and, not_forall]
  exact fun _ => ⟨sent, not_not.mpr (hid ▸ hlater)⟩

end Ticket

end Client

end DocSync
