import DocSync.Proofs.Manager.Play

/-!
# Closing a document and opening it again

A manager forgets a document as soon as it is closed, and the next one of the same URI greets the
server by itself. What the server hears about a URI is therefore a sequence of sessions if every
document is drained before the next one is created, and with a server that is ready only then. A
document that is opened again while the one before still waits is announced before the other is
taken back.
-/
namespace DocSync

def Client.Drained (c : Client) (u : Uri) : Prop := ∀ d ∈ c.documents, d.uri = u → d.unsent = []

instance (c : Client) (u : Uri) : Decidable (c.Drained u) :=
  inferInstanceAs (Decidable (∀ d ∈ c.documents, d.uri = u → d.unsent = []))

def Event.failsOpening : Event → Bool
  | .finished n (some _) => n.isOpening
  | _ => false

theorem failsOpening_of_log {h : List Entry} {id : DocumentId} (hf : (logOf id h).OpeningFailed) :
    ∃ x ∈ h, x.document = id ∧ x.event.failsOpening = true := by
  obtain ⟨t, n, e, hmem, hn⟩ := hf
  obtain ⟨x, hx, heq⟩ := List.mem_filterMap.mp hmem
  by_cases hid : x.document = id
  · rw [if_pos hid] at heq
    have hevent : x.event = .finished n (some e) :=
      congrArg Prod.snd (Option.some.inj heq)
    exact ⟨x, hx, hid, by rw [hevent]; exact hn⟩
  · rw [if_neg hid] at heq
    cases heq

namespace Manager

open Client (Orderly)
open Document (Keeps Paced)

/-- The session is active whenever something is done. -/
def Active (m : Manager) (as : List ManagerAction) : Prop :=
  m.Throughout (fun m _ => m.client.env.session.active = true) as

/-- No opening of a document of the URI fails. -/
def Welcome (m : Manager) (u : Uri) (as : List ManagerAction) : Prop :=
  ∀ x ∈ (m.run as).client.env.history, x.document.uri = u → x.event.failsOpening = false

/-- A document of the URI is only created when nothing is left to be handed over about it. -/
def Patient (m : Manager) (u : Uri) (as : List ManagerAction) : Prop :=
  m.Throughout (fun m a => m.opens u a = true → m.client.Drained u) as

/-- The session is ready whenever a document of the URI is created. -/
def Ready (m : Manager) (u : Uri) (as : List ManagerAction) : Prop :=
  m.Throughout (fun m a => m.opens u a = true → m.client.env.session.state = .ready) as

instance (m : Manager) (as : List ManagerAction) : Decidable (m.Active as) :=
  decidableThroughout _ m as

instance (m : Manager) (u : Uri) (as : List ManagerAction) : Decidable (m.Welcome u as) :=
  inferInstanceAs (Decidable (∀ x ∈ (m.run as).client.env.history, x.document.uri = u →
    x.event.failsOpening = false))

instance (m : Manager) (u : Uri) (as : List ManagerAction) : Decidable (m.Patient u as) :=
  decidableThroughout _ m as

theorem history_run {m : Manager} (h : m.Sound) (as : List ManagerAction) :
    ∃ entries, (m.run as).client.env.history = m.client.env.history ++ entries := by
  rw [client_run]
  exact h.client.history_play _

/-! ## A manager that waits -/

theorem Sound.vacant {m : Manager} (h : m.Sound) {u : Uri} (ho : Orderly u m.client)
    (hfind : m.find? u = none) (hdrained : m.client.Drained u)
    (halive : ∀ x ∈ m.client.env.history, x.document.uri = u → x.event.failsOpening = false) :
    m.client.Vacant u := by
  refine ho.vacant (fun d hd hu => ⟨?_, hdrained d hd hu⟩) fun d hd hu hf => ?_
  · by_contra hp
    have hlisted := h.listed d hd hp
    rw [hu, hfind] at hlisted
    cases hlisted
  · obtain ⟨x, hx, hid, hfails⟩ := failsOpening_of_log hf
    rw [halive x hx (by rw [hid]; exact hu)] at hfails
    cases hfails

theorem orderly_step {m : Manager} (h : m.Sound) {u : Uri} (ho : Orderly u m.client)
    (hpolicy : m.policy.openClose = true) (hactive : m.client.env.session.active = true)
    {a : ManagerAction} (hvacant : m.opens u a = true → m.client.Vacant u) :
    Orderly u (m.step a).client := by
  rw [client_step]
  by_cases hopens : ∃ v, m.opens v a = true
  · obtain ⟨v, hv⟩ := hopens
    obtain ⟨languageId, text, hmoves⟩ := moves_opens hv
    rw [hmoves, Client.play_cons]
    have hcreated : Orderly u
        (m.client.move (.create v languageId m.policy m.settings text none)) := by
      refine ho.move hactive _ (fun hm => hvacant ?_) fun d hd hid => ?_
      · have hvu : v = u := hm
        exact hvu ▸ hv
      · rcases List.mem_append.mp hd with hd | hd
        · exact absurd (Client.mem_ids hd) hid
        · rw [List.mem_singleton.mp hd]
          exact hpolicy
    exact hcreated.play hactive fun move hmove => ⟨_, _, List.mem_singleton.mp hmove⟩
  · have hnone : ∀ v, m.opens v a = false := fun v => by simpa using not_exists.mp hopens v
    rcases moves_cases hnone with ⟨b, hmoves⟩ | hall
    · rw [hmoves, Client.play_cons, Client.play_nil]
      exact ho.move hactive _ (fun hm => hm.elim) fun d hd hid =>
        (h.client.created hd hid).1.elim
    · exact ho.play hactive hall

theorem orderly_run {m : Manager} (h : m.Sound) {u : Uri} (ho : Orderly u m.client)
    (hpolicy : m.policy.openClose = true) {as : List ManagerAction} (hactive : m.Active as)
    (hwelcome : m.Welcome u as) (hpatient : m.Patient u as) : Orderly u (m.run as).client := by
  induction as generalizing m with
  | nil => exact ho
  | cons a as ih =>
    obtain ⟨hnow, hlater⟩ := hactive
    obtain ⟨hwait, hwaits⟩ := hpatient
    refine ih (h.step a) ?_ (by rw [step_policy, hpolicy]) hlater hwelcome hwaits
    refine orderly_step h ho hpolicy hnow fun hopens => ?_
    refine h.vacant ho (eq_of_opens hopens).1 (hwait hopens) fun x hx => ?_
    obtain ⟨entries, hentries⟩ := history_run h (a :: as)
    exact hwelcome x (hentries ▸ List.mem_append_left entries hx)

/-! ## A manager that does not wait -/

/-- With a ready server, documents that take turns leave nothing undone when the next one is
created. -/
theorem patient_of_inTurn {m : Manager} (h : m.Sound)
    (hpaced : ∀ d ∈ m.client.documents, Keeps d (d.ledger (m.client.log d.id)) ∧
      Paced d (m.client.log d.id) m.client.env.now)
    (hpolicy : m.policy.openClose = true) {u : Uri} {as : List ManagerAction}
    (hready : m.Ready u as) (hturn : InTurn u (m.run as).client.env.history) : m.Patient u as := by
  induction as generalizing m with
  | nil => trivial
  | cons a as ih =>
    obtain ⟨hnow, hlater⟩ := hready
    refine ⟨fun hopens d hd hu => ?_, ?_⟩
    · by_contra hunsent
      have hstate := hnow hopens
      have hwriter : Document.Writer.greeting? d.writer = none := by
        cases hw : d.writer with
        | waiting greeting =>
          have hheld := (h.client.rests d hd).waiting greeting hw
          rw [hstate] at hheld
          cases hheld
        | _ => rfl
      obtain ⟨hopened, hended⟩ := (hpaced d hd).1.standing
        ((congrArg _ (h.policy d hd)).trans hpolicy) (hpaced d hd).2.queue hwriter hunsent
      -- The next document is announced while this one is open on the server.
      obtain ⟨languageId, text, hmoves⟩ := moves_opens hopens
      obtain ⟨n, entries, hn, hnu, hgreeting⟩ :=
        h.client.greets u languageId m.settings text hpolicy hstate
      have hstep : (m.step a).client.env.history = m.client.env.history ++
          ⟨m.client.env.now, m.client.freshId u, .handed n⟩ :: entries := by
        rw [client_step, hmoves]
        exact hgreeting
      obtain ⟨rest, hrest⟩ := history_run (h.step a) as
      have hrun : (m.run (a :: as)).client.env.history = m.client.env.history ++
          ⟨m.client.env.now, m.client.freshId u, .handed n⟩ :: (entries ++ rest) := by
        rw [run_cons, hrest, hstep, List.append_assoc, List.cons_append]
      exact hended (hturn _ _ _ n _ hrun hn hnu d.id hu hopened)
    · refine ih (h.step a) ?_ (by rw [step_policy, hpolicy]) hlater hturn
      rw [client_step]
      exact Document.paced_invariant.moves h.client hpaced _

/-! ## Reopening -/

/-- Sessions about a URI follow each other exactly if the documents take turns. It is enough that no
document is created before all others are drained; with a server that is ready it is necessary. -/
theorem succession (name : String) (definition : ServerDefinition) {policy : SyncPolicy}
    (settings : Settings) (env : Environment) (as : List ManagerAction) (u : Uri)
    (hpolicy : policy.openClose = true) :
    let m := start name definition policy settings env
    ((∃ b, Sessions b (wireOf u (m.run as).client.env.history)) ↔
        InTurn u (m.run as).client.env.history) ∧
      (m.Active as → m.Welcome u as → m.Patient u as →
        ∃ b, Sessions b (wireOf u (m.run as).client.env.history)) ∧
      (m.Ready u as → (∃ b, Sessions b (wireOf u (m.run as).client.env.history)) →
        m.Patient u as) := by
  intro m
  have hm : m.Sound := sound_start name definition policy settings env
  have hrun := hm.run as
  have hpaced : ∀ d ∈ (m.run as).client.documents,
      Keeps d (d.ledger ((m.run as).client.log d.id)) ∧
        Paced d ((m.run as).client.log d.id) (m.run as).client.env.now := by
    rw [client_run]
    exact Document.paced_invariant.play env _
  have htidy : Tidy u (m.run as).client.env.history :=
    hrun.client.tidy (fun d hd => (hpaced d hd).1) fun d hd => by
      rw [hrun.policy d hd, (run_setup _ as).2.1]
      exact hpolicy
  have hturns := sessions_iff_inTurn htidy
  refine ⟨hturns, fun hactive hwelcome hpatient => ?_, fun hready hsessions => ?_⟩
  · exact hturns.mpr (orderly_run hm (Client.orderly_start u env) hpolicy hactive hwelcome
      hpatient).inTurn
  · exact patient_of_inTurn hm (by simp [m, start, Client.start]) hpolicy hready
      (hturns.mp hsessions)

/-- A manager for a server that wants to hear of opening and closing. -/
def attentive : Manager :=
  start "text" { languageId := "text" } ⟨.full, true, .notify⟩ {} Client.plain

/-- A document is closed, opened again after some time, and changed later. -/
def reopening (u : Uri) (millis : Nat) : List ManagerAction :=
  [.openDocument u "a" (some "text"), .close u, .shared (.advance millis),
    .openDocument u "b" (some "text"), .shared (.advance 500),
    .document u (.edit (.insertion 1 "c") none)]

theorem succession_patient : attentive.Patient ⟨"file:///a"⟩ (reopening ⟨"file:///a"⟩ 500) ∧
    ∃ b, Sessions b (wireOf ⟨"file:///a"⟩
      (attentive.run (reopening ⟨"file:///a"⟩ 500)).client.env.history) := by
  have hpatient : attentive.Patient ⟨"file:///a"⟩ (reopening ⟨"file:///a"⟩ 500) := by decide
  have h := succession "text" { languageId := "text" } {} Client.plain
    (reopening ⟨"file:///a"⟩ 500) ⟨"file:///a"⟩ (show (SyncPolicy.mk .full true .notify).openClose =
      true from rfl)
  exact ⟨hpatient, h.2.1 (by decide) (by decide) hpatient⟩

/-- A document that is opened again at once is announced before the one before is taken back, and
the server hears of its changes when it has closed it. -/
theorem succession_overtaken :
    attentive.Active (reopening ⟨"file:///a"⟩ 0) ∧
      attentive.Welcome ⟨"file:///a"⟩ (reopening ⟨"file:///a"⟩ 0) ∧
      (wireOf ⟨"file:///a"⟩ (attentive.run (reopening ⟨"file:///a"⟩ 0)).client.env.history).map
          Notification.method =
        ["textDocument/didOpen", "textDocument/didOpen", "textDocument/didClose",
          "textDocument/didChange"] ∧
      ¬ ∃ b, Sessions b (wireOf ⟨"file:///a"⟩
        (attentive.run (reopening ⟨"file:///a"⟩ 0)).client.env.history) := by
  refine ⟨by decide, by decide, by decide, fun ⟨b, h⟩ => ?_⟩
  have hwire : (wireOf ⟨"file:///a"⟩
      (attentive.run (reopening ⟨"file:///a"⟩ 0)).client.env.history).map Notification.isOpening =
        [true, true, false, false] := by decide
  obtain ⟨first, rest, hrest, hfirst, htail⟩ := List.map_eq_cons_iff.mp hwire
  obtain ⟨second, later, rfl, hsecond, -⟩ := List.map_eq_cons_iff.mp htail
  rw [hrest] at h
  exact not_sessions_of_openings hfirst hsecond later b h

end Manager

end DocSync
