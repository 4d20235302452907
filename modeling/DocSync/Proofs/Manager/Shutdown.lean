import DocSync.Proofs.Client.Closing
import DocSync.Proofs.Manager.Succession

/-!
# The end of a manager

A manager is shut down by closing all documents that it lists, in whatever order, and waiting for
their closings to come through. No document is open then, and what they still had to say is queued.
The wait is over when the server has heard all of it, but for documents whose handshake failed; it
goes on as long as some handshake has no outcome, or failed without the writer having learned of it,
or the link holds up a notification.
-/
namespace DocSync

open Client (Move closes)

namespace Client

/-- What comes of closing all documents of a client: at once, and after whatever follows. -/
structure ClosesAll (c c₁ c₂ : Client) (ids : List DocumentId) : Prop where
  closed : ∀ d ∈ c₁.documents, d.phase = .closed
  /-- A document that is open on the server, or will be, queues its last changes and its closing. -/
  said : ∀ d ∈ c.documents, d.Departs → c.spoken d.id (closes ids) = d.lastWords
  silent : ∀ d ∈ c.documents, ¬ d.Departs → c.spoken d.id (closes ids) = []
  /-- What is waited for are the deliveries of the single documents. -/
  deliveries : c.closings ids = ids.map fun id => (c.close id).2
  cleared : ∀ d ∈ c.documents, d.phase ≠ .closed → c₁.env.registry.file d.uri = {}
  kept : ∀ uri, (∀ d ∈ c.documents, d.uri = uri → d.phase = .closed) →
    c₁.env.registry.file uri = c.env.registry.file uri
  /-- Nothing is left that a document could do, and no answer to its pulls counts. -/
  gone : ∀ d ∈ c.documents, ∃ d' ∈ c₂.documents, d'.id = d.id ∧ d'.phase = .closed ∧
    d'.timer = none ∧ d'.waiting = [] ∧ c₂.Gone d'
  /-- Once all is delivered the server has heard of each document, from its opening to its closing,
  unless the handshake failed. -/
  complete : c₂.completes (c.closings ids) = true → ∀ d ∈ c.documents, d.Departs →
    (∃ e, c₂.handshakeOutcome? (.shared d.id) = some (.error e)) ∨
      ∃ opening body, opening.isOpening = true ∧ (∀ n ∈ body, n.isUpdate = true) ∧
        d.ledger (c.log d.id) = opening :: body ∧
        (c₂.log d.id).handed = opening :: (body ++ d.lastWords)
  pending : c₂.completes (c.closings ids) = false ↔ ∃ d ∈ c.documents, d.Departs ∧
    ∃ d' ∈ c₂.documents, d'.id = d.id ∧ c₂.Detained d' (d.ledger (c.log d.id) ++ d.lastWords)
  lasting : c₂.completes (c.closings ids) = true →
    ∀ more, (c₂.play more).completes (c.closings ids) = true

/-- An opened document with its changes and saves, before it is closed. -/
theorem opening_of_bidsFarewell {d : Document} {l : Log} (hk : d.Keeps (d.ledger l))
    (h : d.bidsFarewell = true) : ∃ opening body, opening.isOpening = true ∧
      (∀ n ∈ body, n.isUpdate = true) ∧ d.ledger l = opening :: body := by
  obtain ⟨ha, ho⟩ := Document.bidsFarewell_iff.mp h
  have hunderway := hk.underway ha
  rw [ho] at hunderway
  generalize d.ledger l = ns at hunderway ⊢
  cases hunderway with
  | opened uri languageId version text hbody => exact ⟨_, _, rfl, hbody, rfl⟩

/-- Some documents of a client, all that are open among them, are ready to be closed. -/
structure Closable (c : Client) (ids : List DocumentId) : Prop where
  distinct : ids.Nodup
  known : ids ⊆ c.ids
  all : ∀ d ∈ c.documents, d.phase ≠ .closed → d.id ∈ ids
  begun : ∀ d ∈ c.documents, d.phase ≠ .unopened
  active : c.env.session.active = true

theorem Closable.departs {c : Client} {ids : List DocumentId} (h : c.Closable ids) {d : Document}
    (hd : d ∈ c.documents) : d.bidsFarewell = true ↔ d.Departs :=
  Document.bidsFarewell_iff_departs (h.begun d hd)

theorem Closable.closed {c : Client} {ids : List DocumentId} (h : c.Closable ids) (hc : c.Sound) :
    ∀ d ∈ (c.play (closes ids)).documents, d.phase = .closed := by
  intro d hd
  by_cases hid : d.id ∈ ids
  · exact closed_closes hc hd hid
  · have hfound := find?_closes hc hid
    rw [find?_of_mem (hc.play _).distinct hd] at hfound
    by_contra hp
    exact hid (h.all d (find?_eq_some hfound.symm).1 hp)

/-- Only the documents that say that they are closed are waited for. -/
theorem Closable.completes_iff {c : Client} {ids : List DocumentId} (h : c.Closable ids)
    (hc : c.Sound) (c₂ : Client) : c₂.completes (c.closings ids) = true ↔
      ∀ d ∈ c.documents, d.bidsFarewell = true →
        c₂.isPending (.ticket d.id (d.tickets + d.lastChanges.length)) = false := by
  have hdelivery {d : Document} (hd : d ∈ c.documents) : (c.close d.id).2 =
      if d.bidsFarewell = true then .ticket d.id (d.tickets + d.lastChanges.length)
      else .skipped := by
    rw [close_snd hc hd, h.active, d.close_delivery]
  rw [completes, Bool.not_eq_true', List.any_eq_false, closings_eq hc h.distinct h.known]
  constructor
  · intro hnone d hd hb
    have hid := h.all d hd ((h.departs hd).mp hb).phase
    have hmem := List.mem_map_of_mem (f := fun id => (c.close id).2) hid
    rw [hdelivery hd, if_pos hb] at hmem
    simpa using hnone _ hmem
  · intro hanswered x hx
    obtain ⟨id, hid, rfl⟩ := List.mem_map.mp hx
    obtain ⟨d, hd, rfl⟩ := List.mem_map.mp (h.known hid)
    rw [hdelivery hd]
    split
    · rename_i hb
      simp [hanswered d hd hb]
    · simp [isPending]

section Run

variable {env : Environment} {ms : List Move} {ids : List DocumentId}
  (h : ((start env).play ms).Closable ids) (later : List Move) {d : Document}
  (hd : d ∈ ((start env).play ms).documents)
include h hd

/-- All that a document ever said ends with its last words. -/
theorem spoken_departed (hb : d.bidsFarewell = true) :
    (start env).spoken d.id (ms ++ closes ids ++ later) =
      d.ledger (((start env).play ms).log d.id) ++ d.lastWords := by
  have hc := sound_play env ms
  have hspoken := (speaks_play env ms d hd).complete
    (Document.acceptsOutgoing_phase (Document.bidsFarewell_iff.mp hb).1).2
  obtain ⟨d₁, hd₁, hid⟩ := hc.exists_play hd (closes ids)
  have hafter := spoken_of_closed (hc.play _) hd₁ (h.closed hc d₁ hd₁) later
  rw [hid] at hafter
  rw [spoken_append, spoken_append, play_append, hafter, List.append_nil,
    spoken_closes hc h.distinct h.active hd (h.all d hd ((h.departs hd).mp hb).phase), if_pos hb,
    ← hspoken]

/-- The last of the tickets of a document is the one of its closing. -/
theorem length_departed (hb : d.bidsFarewell = true) :
    (ticketed ((start env).spoken d.id (ms ++ closes ids ++ later))).length =
      d.tickets + d.lastChanges.length + 1 := by
  have htickets := (Document.delivers_account.play env ms d hd).2.2.tickets
  have hspoken := (speaks_play env ms d hd).complete
    (Document.acceptsOutgoing_phase (Document.bidsFarewell_iff.mp hb).1).2
  rw [spoken_departed h later hd hb, hspoken, ticketed_append, d.ticketed_lastWords,
    List.length_append, ← htickets, d.length_lastWords, Nat.add_assoc]

theorem gone_of_closes : ∃ d' ∈ ((start env).play (ms ++ closes ids ++ later)).documents,
    d'.id = d.id ∧ d'.phase = .closed ∧ d'.timer = none ∧ d'.waiting = [] ∧
      ((start env).play (ms ++ closes ids ++ later)).Gone d' := by
  have hc := sound_play env ms
  obtain ⟨d₁, hd₁, hid₁⟩ := hc.exists_play hd (closes ids)
  obtain ⟨d₂, hd₂, hid₂⟩ := (hc.play _).exists_play hd₁ later
  have hp₂ := (hc.play _).closed_lasting hd₁ (h.closed hc d₁ hd₁) later d₂ hd₂ hid₂
  rw [← play_append, ← play_append, ← List.append_assoc] at hd₂
  have hlife := Document.lifecycle_invariant.play env _ d₂ hd₂
  obtain ⟨-, -, htimer, hwaiting⟩ := hlife.closed hp₂
  exact ⟨d₂, hd₂, hid₂.trans hid₁, hp₂, htimer, hwaiting,
    (sound_play env _).gone hd₂ hlife hp₂⟩

/-- The closing of a document is delivered when the server has heard all of it, or never will. -/
theorem heard_of_answered (hb : d.bidsFarewell = true)
    (hanswered : ((start env).play (ms ++ closes ids ++ later)).isPending
      (.ticket d.id (d.tickets + d.lastChanges.length)) = false) :
    (∃ e, ((start env).play (ms ++ closes ids ++ later)).handshakeOutcome? (.shared d.id) =
      some (.error e)) ∨
    (((start env).play (ms ++ closes ids ++ later)).log d.id).handed =
      d.ledger (((start env).play ms).log d.id) ++ d.lastWords := by
  have hlength := length_departed h later hd hb
  obtain ⟨e, he, hid, -⟩ := gone_of_closes h later hd
  rw [← hid] at hlength hanswered
  rw [← spoken_departed h later hd hb, ← hid]
  refine (handed_of_answered env _ he hlength hanswered).imp_left fun hr => ?_
  obtain ⟨fault, hw⟩ := Document.isRefused_iff.mp hr
  exact ⟨_, handshakeOutcome_refused (sound_play env _).distinct he hw⟩

/-- It is not delivered as long as the document is detained. -/
theorem pending_iff_detained (hb : d.bidsFarewell = true) :
    ((start env).play (ms ++ closes ids ++ later)).isPending
        (.ticket d.id (d.tickets + d.lastChanges.length)) = true ↔
      ∃ d' ∈ ((start env).play (ms ++ closes ids ++ later)).documents, d'.id = d.id ∧
        ((start env).play (ms ++ closes ids ++ later)).Detained d'
          (d.ledger (((start env).play ms).log d.id) ++ d.lastWords) := by
  have hlength := length_departed h later hd hb
  rw [← spoken_departed h later hd hb]
  constructor
  · intro hpending
    obtain ⟨e, he, hid, -⟩ := gone_of_closes h later hd
    rw [← hid] at hlength hpending ⊢
    exact ⟨e, he, rfl, (pending_last_iff env _ he hlength).mp hpending⟩
  · rintro ⟨e, he, hid, hdetained⟩
    rw [← hid] at hlength hdetained ⊢
    exact (pending_last_iff env _ he hlength).mpr hdetained

end Run

/-- Documents that are closed together are closed for good, and it is known when that is done. -/
theorem Closable.closesAll {env : Environment} {ms : List Move} {ids : List DocumentId}
    (h : ((start env).play ms).Closable ids) (later : List Move) :
    ClosesAll ((start env).play ms) ((start env).play (ms ++ closes ids))
      ((start env).play (ms ++ closes ids ++ later)) ids := by
  have hc := sound_play env ms
  refine ⟨?closed, ?said, ?silent, closings_eq hc h.distinct h.known, ?cleared, ?kept,
    fun d hd => gone_of_closes h later hd, ?complete, ?pending, ?lasting⟩
  case closed =>
    rw [play_append]
    exact h.closed hc
  case said =>
    intro d hd hdeparts
    rw [spoken_closes hc h.distinct h.active hd (h.all d hd hdeparts.phase),
      if_pos ((h.departs hd).mpr hdeparts)]
  case silent =>
    intro d hd hstays
    by_cases hid : d.id ∈ ids
    · rw [spoken_closes hc h.distinct h.active hd hid,
        if_neg fun hb => hstays ((h.departs hd).mp hb)]
    · exact spoken_closes_of_notMem hc hid
  case cleared =>
    intro d hd hp
    rw [play_append, file_closes hc h.distinct, if_pos ⟨d, hd, h.all d hd hp, hp, rfl⟩]
  case kept =>
    intro uri hclosed
    rw [play_append, file_closes hc h.distinct, if_neg]
    rintro ⟨d, hd, -, hp, hu⟩
    exact hp (hclosed d hd hu)
  case complete =>
    intro hdone d hd hdeparts
    have hb := (h.departs hd).mpr hdeparts
    refine (heard_of_answered h later hd hb ((h.completes_iff hc _).mp hdone d hd hb)).imp_right
      fun hhanded => ?_
    obtain ⟨opening, body, ho, hbody, hledger⟩ :=
      opening_of_bidsFarewell (Document.keeps_invariant.play env ms d hd) hb
    rw [hledger] at hhanded
    exact ⟨opening, body, ho, hbody, hledger, hhanded⟩
  case pending =>
    rw [← Bool.not_eq_true, h.completes_iff hc]
    simp only [not_forall, Bool.not_eq_false, exists_prop]
    refine exists_congr fun d => and_congr_right fun hd => ?_
    rw [← h.departs hd]
    exact and_congr_right fun hb => pending_iff_detained h later hd hb
  case lasting =>
    intro hdone more
    rw [h.completes_iff hc] at hdone ⊢
    intro d hd hb
    have hlength := length_departed h later hd hb
    have hanswered := hdone d hd hb
    obtain ⟨e, he, hid, -⟩ := gone_of_closes h later hd
    rw [← hid] at hlength hanswered ⊢
    rw [← play_append]
    exact answered_lasting env _ he hlength hanswered more

end Client

namespace Manager

/-- A manager opens the documents that it creates. -/
def Begun (m : Manager) : Prop := ∀ d ∈ m.client.documents, d.phase ≠ .unopened

theorem begun_start (name : String) (definition : ServerDefinition) (policy : SyncPolicy)
    (settings : Settings) (env : Environment) :
    (start name definition policy settings env).Begun := by
  simp [Begun, start, Client.start]

theorem Begun.step {m : Manager} (h : m.Begun) (hm : m.Sound) (a : ManagerAction) :
    (m.step a).Begun := by
  intro d' hd'
  rw [client_step] at hd'
  by_cases hopens : ∃ u, m.opens u a = true
  · obtain ⟨u, hu⟩ := hopens
    obtain ⟨languageId, text, hmoves⟩ := moves_opens hu
    have hcreated := hm.client.move (.create u languageId m.policy m.settings text none)
    rw [hmoves, Client.play_cons] at hd'
    obtain ⟨d, hd, hid, -⟩ := hcreated.earlier
      (fun move hmove => ⟨_, List.mem_singleton.mp hmove⟩) hd'
    rcases List.mem_append.mp hd with hold | hnew
    · rw [← Client.play_cons, ← hmoves] at hd'
      exact hm.client.phase_lasting hold (h d hold) _ d' hd' hid
    · obtain rfl := List.mem_singleton.mp hnew
      exact (hcreated.begun hd rfl [] d' hd' hid).phase
  · have hnone : ∀ u, m.opens u a = false := fun u => by simpa using not_exists.mp hopens u
    obtain ⟨d, hd, hid, -⟩ := hm.client.earlier (moves_act hnone) hd'
    exact hm.client.phase_lasting hd (h d hd) _ d' hd' hid

theorem Begun.run {m : Manager} (h : m.Begun) (hm : m.Sound) (as : List ManagerAction) :
    (m.run as).Begun := by
  induction as generalizing m with
  | nil => exact h
  | cons a as ih => exact ih (h.step hm a) (hm.step a)

/-- A shutdown closes what is listed, and is complete when all deliveries are. -/
theorem shutdown_closes (m : Manager) :
    m.shutdown = ({ m with
      client := m.client.play (closes (m.documents.map Prod.snd)), documents := [] },
      (m.client.play (closes (m.documents.map Prod.snd))).completes
        (m.client.closings (m.documents.map Prod.snd))) := by
  have hfold (xs : List (Uri × DocumentId)) (c : Client) (ds : List Delivery) :
      (xs.foldl (fun (r : Client × List Delivery) x =>
        ((r.1.close x.2).1, (r.1.close x.2).2 :: r.2)) (c, ds)).2 =
        (c.closings (xs.map Prod.snd)).reverse ++ ds := by
    induction xs generalizing c ds with
    | nil => rfl
    | cons x xs ih =>
      have hmove : (c.close x.2).1 = c.move (.act (.document x.2 .close)) :=
        (c.step_close x.2).symm
      rw [List.foldl_cons, ih, hmove]
      simp [Client.closings]
  have hafter : m.shutdown.1 = { m with
      client := m.client.play (closes (m.documents.map Prod.snd)), documents := [] } := by
    rw [m.shutdown_eq, after, moves, lists, closes, List.map_map]
    rfl
  have hall : m.shutdown.2 = m.shutdown.1.client.completes
      ((m.client.closings (m.documents.map Prod.snd)).reverse ++ []) := by
    rw [← hfold m.documents m.client []]
    rfl
  refine Prod.ext hafter ?_
  rw [hall, hafter, List.append_nil]
  simp [Client.completes]

/-- What shutting down a manager comes to, as long as the session is active: no document stays open,
in whatever order the documents are closed, and the wait for them is over when it should be. -/
theorem shut_down (name : String) (definition : ServerDefinition) (policy : SyncPolicy)
    (settings : Settings) (env : Environment) (before : List ManagerAction) :
    let m := (start name definition policy settings env).run before
    let listed := m.documents.map Prod.snd
    m.client.env.session.active = true →
      m.shutdown = ({ m with client := m.client.play (closes listed), documents := [] },
        (m.client.play (closes listed)).completes (m.client.closings listed)) ∧
      (∀ d ∈ m.client.documents, d.phase ≠ .unopened ∧ (d.phase ≠ .closed → d.id ∈ listed)) ∧
      ∀ ids : List DocumentId, ids.Perm listed → ∀ later,
        m.client.ClosesAll (m.client.play (closes ids))
          ((m.client.play (closes ids)).play later) ids := by
  intro m listed hactive
  have hs : (start name definition policy settings env).Sound := sound_start _ _ _ _ _
  have hm : m.Sound := hs.run before
  have hbegun : m.Begun := (begun_start _ _ _ _ _).run hs before
  have hheld : m.Held := (held_start _ _ _ _ _).run hs before
  have hdistinct : m.Distinct := (distinct_start _ _ _ _ _).run before
  have howned : m.Owned := (owned_start _ _ _ _ _).run before
  have hlisted : ∀ d ∈ m.client.documents, d.phase ≠ .closed → d.id ∈ listed := fun d hd hp =>
    List.mem_map.mpr ⟨(d.uri, d.id), Table.mem_of_lookup (hm.listed d hd hp), rfl⟩
  refine ⟨m.shutdown_closes, fun d hd => ⟨hbegun d hd, hlisted d hd⟩, fun ids hperm later => ?_⟩
  have hclosable : m.client.Closable ids := by
    refine ⟨hperm.nodup_iff.mpr (hdistinct.ids howned), fun id hid => ?_,
      fun d hd hp => hperm.mem_iff.mpr (hlisted d hd hp), hbegun, hactive⟩
    obtain ⟨x, hx, rfl⟩ := List.mem_map.mp (hperm.mem_iff.mp hid)
    exact hheld x hx
  have hclient : m.client = (Client.start env).play
      ((start name definition policy settings env).script before) := client_run _ before
  rw [hclient] at hclosable ⊢
  rw [← Client.play_append, ← Client.play_append]
  exact hclosable.closesAll later

/-- Two documents that the server has not taken in yet, one of them with a change to tell of. -/
def unsettled (a b : Uri) : List ManagerAction :=
  [.openDocument a "a" (some "text"), .openDocument b "b" (some "text"),
    .document b (.type (.insertion 1 "c") none)]

/-- Shut down at once, the manager waits for the handshakes, and then for nothing. -/
theorem shut_down_unsettled :
    let a : Uri := ⟨"file:///a"⟩
    let b : Uri := ⟨"file:///b"⟩
    let c := (attentive.run (unsettled a b)).client
    let c₁ := c.play (closes [⟨b, 0⟩, ⟨a, 0⟩])
    let c₂ := c₁.play [.act (.shared (.advance 500))]
    c₁.completes (c.closings [⟨b, 0⟩, ⟨a, 0⟩]) = false ∧
      ∃ opening body, opening.isOpening = true ∧ (c₂.log ⟨b, 0⟩).handed =
        opening :: (body ++ [.didChange b ⟨2⟩ [.full "bc"], .didClose b]) := by
  intro a b c c₁ c₂
  have hactive : (attentive.run (unsettled a b)).client.env.session.active = true := by decide
  have hperm : [⟨b, 0⟩, ⟨a, 0⟩].Perm
      ((attentive.run (unsettled a b)).documents.map Prod.snd) := by decide
  have hstart : start "text" { languageId := "text" } ⟨.full, true, .notify⟩ {} Client.plain =
    attentive := rfl
  have hall := shut_down "text" { languageId := "text" } ⟨.full, true, .notify⟩ {} Client.plain
    (unsettled a b)
  dsimp only at hall
  rw [hstart] at hall
  obtain ⟨-, -, hall⟩ := hall hactive
  have hnow := hall [⟨b, 0⟩, ⟨a, 0⟩] hperm []
  rw [Client.play_nil] at hnow
  have hnow : c.ClosesAll c₁ c₁ [⟨b, 0⟩, ⟨a, 0⟩] := hnow
  have hlater : c.ClosesAll c₁ c₂ [⟨b, 0⟩, ⟨a, 0⟩] :=
    hall [⟨b, 0⟩, ⟨a, 0⟩] hperm [.act (.shared (.advance 500))]
  obtain ⟨d, hd, hid, hopen, hpolicy, hwaits, hwords⟩ : ∃ d ∈ c.documents, d.id = ⟨b, 0⟩ ∧
      d.phase ≠ .closed ∧ d.policy.openClose = true ∧ d.handshakeOutcome? = none ∧
        d.lastWords = [.didChange b ⟨2⟩ [.full "bc"], .didClose b] := by decide
  have hdeparts : d.Departs := ⟨hopen, hpolicy, by simp [hwaits]⟩
  obtain ⟨e, he, heid, hnone⟩ : ∃ e ∈ c₁.documents, e.id = ⟨b, 0⟩ ∧
      e.handshakeOutcome? = none := by decide
  refine ⟨hnow.pending.mpr ⟨d, hd, hdeparts, e, he, heid.trans hid.symm, .inl hnone⟩, ?_⟩
  have hdone : c₂.completes (c.closings [⟨b, 0⟩, ⟨a, 0⟩]) = true := by decide
  have hshaken : (c₂.handshakeOutcome? (.shared ⟨b, 0⟩)).map Except.isOk = some true := by decide
  rcases hlater.complete hdone d hd hdeparts with ⟨fault, hfault⟩ | ⟨opening, body, ho, -, -, h⟩
  · rw [← hid, hfault] at hshaken
    cases hshaken
  · rw [hid, hwords] at h
    exact ⟨opening, body, ho, h⟩

end Manager

end DocSync
