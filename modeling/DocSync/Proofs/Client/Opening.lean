import DocSync.Proofs.Client.Lifecycle
import DocSync.Proofs.Client.View
import DocSync.Proofs.Document.Opening

/-!
# Opening a document many times

The first attempt to open a document makes its writer wait for the session. Every later one changes
nothing, and shares the handshake of the first, or learns that the document is closed. How the
handshake came out is known for good once it is known, also after the document was closed, and if
neither session nor link hold the document up it is known when the server had its time.
-/
namespace DocSync.Client

open Document (Keeps Writer.isWaiting)

/-- Whether a move makes the writer of a document wait for the session. -/
def begins (c : Client) (id : DocumentId) (m : Move) : Bool :=
  match c.find? id with
  | none => false
  | some d =>
    !Writer.isWaiting d.writer && Writer.isWaiting (m.work c.env.session.active d).writer

/-- How often a run makes the writer of a document wait for the session. -/
def starts (c : Client) (id : DocumentId) : List Move → Nat
  | [] => 0
  | m :: ms => (if c.begins id m then 1 else 0) + (c.move m).starts id ms

theorem starts_append (c : Client) (id : DocumentId) (ms ns : List Move) :
    c.starts id (ms ++ ns) = c.starts id ms + (c.play ms).starts id ns := by
  induction ms generalizing c with
  | nil => simp [starts]
  | cons m ms ih => rw [List.cons_append, starts, ih, starts, play_cons, Nat.add_assoc]

/-- What is left of the opening of a document once it was tried. -/
structure OpensOnce (greetings : List Notification) (c : Client) (d : Document) : Prop where
  /-- The document was not announced more than once, nor with another text. -/
  openings : (c.log d.id).handed.filter Notification.isOpening <+: greetings
  /-- All handshakes have one outcome, and it stands in the log. -/
  outcome : (c.log d.id).handshakes.map (Except.mapError OpenError.session) =
    (c.handshakeOutcome? (.shared d.id)).toList
  lasting : ∀ r, c.handshakeOutcome? (.shared d.id) = some r →
    ∀ ms, (c.play ms).handshakeOutcome? (.shared d.id) = some r
  known : c.env.session.state ≠ .held → c.env.link.stalled = false →
    ((c.move (.act (.shared (.advance d.settings.settleDelay)))).handshakeOutcome?
      (.shared d.id)).isSome = true
  again : d.phase ≠ .closed →
    c.perform (.document d.id .beginOpen) = some (c, .handshake (.shared d.id))

theorem handshakeOutcome?_shared {c : Client} {id : DocumentId} {d : Document}
    (hf : c.find? id = some d) :
    c.handshakeOutcome? (.shared id) = d.handshakeOutcome?.map (Except.mapError .session) := by
  simp [handshakeOutcome?, hf]

theorem begins_eq {c : Client} (hc : c.ids.Nodup) {d : Document} (hd : d ∈ c.documents) (m : Move) :
    c.begins d.id m =
      (!Writer.isWaiting d.writer && Writer.isWaiting (m.work c.env.session.active d).writer) := by
  rw [begins, find?_of_mem hc hd]

/-- Only the first attempt to open a document makes its writer wait. -/
theorem begins_of_opened {c : Client} (hc : c.ids.Nodup) {d : Document} (hd : d ∈ c.documents)
    (hp : d.phase ≠ .unopened) (m : Move) : c.begins d.id m = false := by
  have hsame : (m.work c.env.session.active d).writer = d.writer := by
    unfold Move.work
    split
    · split
      · rename_i a _
        by_cases ha : a = .beginOpen
        · rw [ha, DocumentAction.work, Document.beginOpen_of_ne hp]
        · exact d.work_writer _ ha
      · rfl
    · rfl
  rw [begins_eq hc hd, hsame]
  exact Bool.not_and_self _

theorem Sound.exists_play {c : Client} (h : c.Sound) {d : Document} (hd : d ∈ c.documents)
    (ms : List Move) : ∃ e ∈ (c.play ms).documents, e.id = d.id :=
  List.mem_map.mp (h.ids_subset_play ms (mem_ids hd))

theorem Sound.phase_lasting {c : Client} (h : c.Sound) {d : Document} (hd : d ∈ c.documents)
    (hp : d.phase ≠ .unopened) (ms : List Move) :
    ∀ e ∈ (c.play ms).documents, e.id = d.id → e.phase ≠ .unopened := by
  refine h.lasting (P := fun d => d.phase ≠ .unopened) (fun hcall hp => ?_)
    (fun hcourse hp hn => ?_) hd hp ms
  · cases hcall with
    | begin hn => exact absurd hn hp
    | write | change | save | vain => exact hp
    | close | abandon => simp [Document.shut]
  · rcases hcourse.phase with heq | ⟨-, hopened⟩
    · exact hp (heq ▸ hn)
    · cases hopened.symm.trans hn

theorem Sound.closed_lasting {c : Client} (h : c.Sound) {d : Document} (hd : d ∈ c.documents)
    (hp : d.phase = .closed) (ms : List Move) :
    ∀ e ∈ (c.play ms).documents, e.id = d.id → e.phase = .closed :=
  h.lasting (P := fun d => d.phase = .closed) (fun hcall hp => (hcall.closed hp).1)
    (fun hcourse hp => hcourse.closed.mpr hp) hd hp ms

theorem Sound.starts_of_opened {c : Client} (h : c.Sound) {d : Document} (hd : d ∈ c.documents)
    (hp : d.phase ≠ .unopened) (ms : List Move) : c.starts d.id ms = 0 := by
  induction ms generalizing c d with
  | nil => rfl
  | cons m ms ih =>
    obtain ⟨e, he, hid⟩ := h.exists_play hd [m]
    have hrest := ih (h.move m) he (h.phase_lasting hd hp [m] e he hid)
    rw [hid] at hrest
    rw [starts, begins_of_opened h.distinct hd hp, hrest]
    rfl

theorem begins_unknown {c : Client} {id : DocumentId} (h : id ∉ c.ids) (m : Move) :
    c.begins id m = false := by
  unfold begins
  split
  · rfl
  · rename_i d hf
    obtain ⟨hd, hid⟩ := find?_eq_some hf
    exact absurd (hid ▸ mem_ids hd) h

theorem starts_unknown (env : Environment) (ms : List Move) {id : DocumentId}
    (h : id ∉ ((start env).play ms).ids) : (start env).starts id ms = 0 := by
  induction ms using List.reverseRecOn with
  | nil => rfl
  | append_singleton ms m ih =>
    have hbefore : id ∉ ((start env).play ms).ids := fun hmem =>
      h (play_concat _ ms m ▸ ids_subset_move (sound_play env ms) m hmem)
    rw [starts_append, ih hbefore, starts, begins_unknown hbefore]
    rfl

/-- The writer of a document that nobody tried to open never waited. -/
theorem starts_of_unopened (env : Environment) (ms : List Move) {d : Document}
    (hd : d ∈ ((start env).play ms).documents) (hp : d.phase = .unopened) :
    (start env).starts d.id ms = 0 := by
  induction ms using List.reverseRecOn generalizing d with
  | nil => rfl
  | append_singleton ms m ih =>
    have hc := sound_play env ms
    rw [play_concat] at hd
    rw [starts_append, starts]
    rcases hc.source hd with ⟨e, he, l, hcourse, -, hid⟩ | ⟨-, hfresh, -⟩
    · have hworked : (m.work ((start env).play ms).env.session.active e).phase = .unopened := by
        rcases hcourse.phase with heq | ⟨-, hopened⟩
        · exact heq.symm.trans hp
        · cases hopened.symm.trans hp
      have hlife : (m.work ((start env).play ms).env.session.active e).Lifecycle :=
        m.work_induct (fun _ _ hcall he => he.call hcall)
          (Document.lifecycle_invariant.play env ms e he)
      obtain ⟨-, -, hwriter, -⟩ := hlife.unopened hworked
      have hunopened : e.phase = .unopened := by
        by_contra hne
        exact hc.phase_lasting he hne [m] d hd hid.symm hp
      rw [← hid, ih he hunopened, begins_eq hc.distinct he, hwriter, starts]
      simp [Writer.isWaiting]
    · have hunknown : d.id ∉ ((start env).play ms).ids := hfresh ▸ hc.freshId_notMem d.uri
      rw [starts_unknown env ms hunknown, begins_unknown hunknown, starts]
      rfl

/-! ## The first attempt and all later ones -/

/-- A later attempt changes nothing. -/
theorem beginOpen_again {c : Client} (hc : c.Sound) {d : Document} (hd : d ∈ c.documents)
    (hp : d.phase ≠ .unopened) : c.beginOpen d.id = (c, d.handshake) := by
  have hf := find?_of_mem hc.distinct hd
  have hedit : c.edit d.id Document.beginOpen = c := by
    rw [edit, turn, hf]
    dsimp only
    rw [Document.beginOpen_of_ne hp, Turn.progress_of_rests (hc.rests d hd),
      put_self hc.distinct hd]
  rw [beginOpen, hf]
  dsimp only
  rw [hedit]

theorem perform_beginOpen {c : Client} (hc : c.Sound) {d : Document} (hd : d ∈ c.documents)
    (hp : d.phase ≠ .unopened) :
    c.perform (.document d.id .beginOpen) = some (c, .handshake d.handshake) := by
  have hf := find?_of_mem hc.distinct hd
  simp only [perform, hf, Option.map_some, performOn, beginOpen_again hc hd hp]

/-- A document that is closed is not opened any more. -/
theorem perform_beginOpen_closed {c : Client} (hc : c.Sound) {d : Document} (hd : d ∈ c.documents)
    (hp : d.phase = .closed) :
    c.perform (.document d.id .beginOpen) = some (c, .handshake (.closed d.uri)) := by
  rw [perform_beginOpen hc hd (by simp [hp]), Document.handshake, if_pos hp]

/-- No later attempt makes the document say that it is opened. -/
theorem ledger_of_begun (env : Environment) (before after : List Move) {d : Document}
    (hd : d ∈ ((start env).play before).documents) (hp : d.phase = .unopened) {e : Document}
    (he : e ∈ ((start env).play (before ++ .act (.document d.id .beginOpen) :: after)).documents)
    (hid : e.id = d.id) : ∃ said, e.ledger (((start env).play
      (before ++ .act (.document d.id .beginOpen) :: after)).log e.id) <+: d.greetings ++ said := by
  have hc := sound_play env before
  obtain ⟨hkeeps, hspeaks⟩ := Document.speaks_account.play env before d hd
  obtain ⟨hwriter, hlog, hbacklog⟩ := hkeeps.blank hp
  have hledger : d.ledger (((start env).play before).log d.id) = [] := (hkeeps.unopened hp).2
  have hnothing : (start env).spoken d.id before = [] := by
    rw [← hspeaks.complete (by simp [Document.isRefused, hwriter]), hledger]
  have hqueued : ((start env).play before).queues d.id (.act (.document d.id .beginOpen)) =
      d.greetings := by
    refine queues_eq hc.distinct hd ?_
    rw [Move.work, if_pos rfl, DocumentAction.work, Document.backlog_beginOpen hp hbacklog, hbacklog,
      List.nil_append]
  refine ⟨(((start env).play before).move (.act (.document d.id .beginOpen))).spoken d.id after, ?_⟩
  have hsaid := (speaks_play env _ e he).ledger
  rw [hid] at hsaid ⊢
  rwa [spoken_append, spoken, hnothing, hqueued, List.nil_append] at hsaid

theorem Sound.outcome_lasting {c : Client} (h : c.Sound) {d : Document} (hd : d ∈ c.documents)
    {r : Except SessionError Unit} (hr : d.handshakeOutcome? = some r) (ms : List Move) :
    ∀ e ∈ (c.play ms).documents, e.id = d.id → e.handshakeOutcome? = some r := by
  have hboth := h.lasting (P := fun d => d.Calm ∧ d.handshakeOutcome? = some r)
    (fun hcall hd => ⟨hcall.calm hd.1, hcall.outcome hd.1 hd.2⟩)
    (fun hcourse hd => ⟨hcourse.calm hd.1, hcourse.outcome hd.2⟩) hd ⟨h.calm d hd, hr⟩ ms
  exact fun e he hid => (hboth e he hid).2

/-- With a session and a link that do not hold a document up, its handshake is over when the server
had its time. -/
theorem Sound.outcome_known {c : Client} (h : c.Sound) {d : Document} (hd : d ∈ c.documents)
    (hl : d.Lingers c.env.now) (hw : d.writer ≠ .absent) (hstate : c.env.session.state ≠ .held)
    (hstalled : c.env.link.stalled = false) :
    ∀ e ∈ (c.move (.act (.shared (.advance d.settings.settleDelay)))).documents, e.id = d.id →
      e.handshakeOutcome?.isSome = true := by
  intro e he hid
  have hrest := h.rests d hd
  have hkept {r : Except SessionError Unit} (hr : d.handshakeOutcome? = some r) :
      e.handshakeOutcome?.isSome = true := by
    rw [h.outcome_lasting hd hr [.act (.shared (.advance d.settings.settleDelay))] e he hid]
    rfl
  cases hwriter : d.writer with
  | absent => exact absurd hwriter hw
  | waiting greeting => exact absurd (hrest.waiting greeting hwriter) hstate
  | greeting n fault =>
    have hheld := hrest.held (by rw [hwriter]; rfl)
    simp [hstalled] at hheld
  | settling n due =>
    rcases h.source he with ⟨d', hd', l, hcourse, -, hsame⟩ | ⟨-, hfresh, -⟩
    · obtain rfl : d' = d := eq_of_id h.distinct hd' hd (hsame.trans hid)
      rcases Document.Course.settling hcourse hwriter with hstill | hdone
      · have hlate := (h.move _).rests e he
        have hnow : (c.move (.act (.shared (.advance d'.settings.settleDelay)))).env.now =
            c.env.now + d'.settings.settleDelay := (h.world _).now
        have hdue := hl n due hwriter
        have hbefore := hlate.settling n due hstill
        dsimp only at hbefore
        omega
      · rw [hdone]
        rfl
    · exact absurd (mem_ids hd) (hid ▸ hfresh ▸ h.freshId_notMem e.uri)
  | idle => exact hkept (r := .ok ()) (by simp [Document.handshakeOutcome?, hwriter])
  | sending item fault => exact hkept (r := .ok ()) (by simp [Document.handshakeOutcome?, hwriter])
  | refused f | stopped f =>
    exact hkept (r := .error f) (by simp [Document.handshakeOutcome?, hwriter])

theorem find?_of_id {c : Client} (hc : c.ids.Nodup) {d : Document} (hd : d ∈ c.documents)
    {id : DocumentId} (hid : d.id = id) : c.find? id = some d :=
  hid ▸ find?_of_mem hc hd

theorem Sound.begun {c : Client} (h : c.Sound) {d : Document} (hd : d ∈ c.documents)
    (hp : d.phase = .unopened) (after : List Move) :
    ∀ e ∈ ((c.move (.act (.document d.id .beginOpen))).play after).documents, e.id = d.id →
      e.Begun := by
  obtain ⟨d', hd', hid'⟩ := h.exists_play hd [.act (.document d.id .beginOpen)]
  rw [play_cons, play_nil] at hd'
  have hfirst : d'.Begun := by
    rcases h.source hd' with ⟨x, hx, l, hcourse, -, hxid⟩ | ⟨-, hfresh, -⟩
    · obtain rfl : x = d := eq_of_id h.distinct hx hd (hxid.trans hid')
      rw [Move.work, if_pos rfl, DocumentAction.work] at hcourse
      exact (Document.begun_beginOpen hp).course hcourse
    · exact absurd (mem_ids hd) (hid' ▸ hfresh ▸ h.freshId_notMem d'.uri)
  exact fun e he hid => (h.move _).lasting (P := Document.Begun) (fun hcall hx => hx.call hcall)
    (fun hcourse hx => hx.course hcourse) hd' hfirst after e he (hid.trans hid'.symm)

theorem Sound.policy_lasting {c : Client} (h : c.Sound) {d : Document} (hd : d ∈ c.documents)
    (ms : List Move) : ∀ e ∈ (c.play ms).documents, e.id = d.id → e.policy = d.policy :=
  h.lasting (P := fun e => e.policy = d.policy) (fun hcall he => hcall.setup.1.trans he)
    (fun hcourse he => hcourse.sameText.policy.trans he) hd rfl ms

/-- All attempts share what comes of the first. -/
theorem Sound.opensOnce {c : Client} (h : c.Sound) {d : Document} (hd : d ∈ c.documents)
    (hbegun : d.Begun) (hl : d.Lingers c.env.now) (hr : d.Resolves (c.log d.id))
    {greetings : List Notification}
    (ho : (c.log d.id).handed.filter Notification.isOpening <+: greetings) :
    OpensOnce greetings c d := by
  have hf := find?_of_mem h.distinct hd
  refine ⟨ho, ?_, fun r hr ms => ?_, fun hstate hstalled => ?_, fun hopen => ?_⟩
  · rw [hr, handshakeOutcome?_shared hf]
    cases d.handshakeOutcome? <;> rfl
  · rw [handshakeOutcome?_shared hf] at hr
    obtain ⟨r', hr', rfl⟩ := Option.map_eq_some_iff.mp hr
    obtain ⟨e, he, hid⟩ := h.exists_play hd ms
    rw [handshakeOutcome?_shared (find?_of_id (h.play ms).distinct he hid),
      h.outcome_lasting hd hr' ms e he hid]
    rfl
  · obtain ⟨e, he, hid⟩ := h.exists_play hd [.act (.shared (.advance d.settings.settleDelay))]
    rw [play_cons, play_nil] at he
    rw [handshakeOutcome?_shared (find?_of_id (h.move _).distinct he hid), Option.isSome_map]
    exact h.outcome_known hd hl hbegun.writer hstate hstalled e he hid
  · rw [perform_beginOpen h hd hbegun.phase, Document.handshake, if_neg hopen]

/-- However often and whenever somebody tries to open a document, it is opened once. -/
theorem opensOnce_play (env : Environment) (before after : List Move) {d : Document}
    (hd : d ∈ ((start env).play before).documents) (hp : d.phase = .unopened) {e : Document}
    (he : e ∈ ((start env).play (before ++ .act (.document d.id .beginOpen) :: after)).documents)
    (hid : e.id = d.id) :
    OpensOnce d.greetings
      ((start env).play (before ++ .act (.document d.id .beginOpen) :: after)) e := by
  obtain ⟨said, hsaid⟩ := ledger_of_begun env before after hd hp he hid
  obtain ⟨hkeeps, hresolves⟩ := Document.resolves_invariant.play env _ e he
  have hlingers := Document.lingers_invariant.play env _ e he
  have he' := he
  rw [play_append, play_cons, ← play_cons] at he'
  have hpolicy := (sound_play env before).policy_lasting hd _ e he' hid
  have hbegun := (sound_play env before).begun hd hp after e he' hid
  refine (sound_play env _).opensOnce he hbegun hlingers hresolves
    (hkeeps.openings hsaid (fun hnil => ?_) fun ho => ?_)
  · rw [hpolicy]
    by_contra hne
    simp [Document.greetings, hne] at hnil
  · exact ⟨d.greeting, if_pos (hpolicy ▸ ho)⟩

theorem starts_begun (env : Environment) (before after : List Move) {d : Document}
    (hd : d ∈ ((start env).play before).documents) (hp : d.phase = .unopened) :
    (start env).starts d.id (before ++ .act (.document d.id .beginOpen) :: after) = 1 := by
  have hc := sound_play env before
  obtain ⟨greeting, hwaiting⟩ := Document.beginOpen_waiting hp
  obtain ⟨-, -, habsent, -⟩ := (Document.lifecycle_invariant.play env before d hd).unopened hp
  obtain ⟨d', hd', hid'⟩ := hc.exists_play hd [.act (.document d.id .beginOpen)]
  rw [play_cons, play_nil] at hd'
  have hafter := (hc.move _).starts_of_opened hd' (hc.begun hd hp [] d' hd' hid').phase after
  rw [hid'] at hafter
  rw [starts_append, starts_of_unopened env before hd hp, starts, hafter,
    begins_eq hc.distinct hd, Move.work, if_pos rfl, DocumentAction.work, hwaiting, habsent]
  rfl

/-- The first attempt stamps a version if the server is to hear of the opening. -/
theorem perform_first {c : Client} (hc : c.Sound) {d : Document} (hd : d ∈ c.documents)
    (hp : d.phase = .unopened) :
    (c.perform (.document d.id .beginOpen)).map Prod.snd = some (.handshake (.shared d.id)) ∧
      ∀ e ∈ (c.move (.act (.document d.id .beginOpen))).documents, e.id = d.id →
        e.version = if d.policy.openClose = true then d.version.next else d.version := by
  have hf := find?_of_mem hc.distinct hd
  refine ⟨?_, fun e he hid => ?_⟩
  · simp [perform, hf, performOn, beginOpen, Document.handshake, hp]
  · rcases hc.source he with ⟨x, hx, l, hcourse, -, hxid⟩ | ⟨-, hfresh, -⟩
    · obtain rfl : x = d := eq_of_id hc.distinct hx hd (hxid.trans hid)
      rw [Move.work, if_pos rfl, DocumentAction.work] at hcourse
      rw [hcourse.sameText.version, Document.beginOpen_eq hp]
      split <;> rfl
    · exact absurd (mem_ids hd) (hid ▸ hfresh ▸ hc.freshId_notMem e.uri)

end DocSync.Client
