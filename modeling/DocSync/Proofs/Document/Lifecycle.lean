import DocSync.Proofs.Document.Pull

/-!
# The life of a document

Before its opening a document holds nothing, and has no writer. From then on it has one, and it
counts as opened only after the handshake came out well. When it is closed it gives up its changes
and its timer, and takes nothing more; whatever is done to it then concerns the buffer alone.
-/
namespace DocSync

/-- One step through the phases, if any: forward to the next one, or from anywhere to the end. -/
inductive Phase.Leads : Phase → Phase → Prop
  | stays (p : Phase) : Leads p p
  | begins : Leads .unopened .opening
  | opens : Leads .opening .opened
  | closes (p : Phase) : Leads p .closed

namespace Document

structure Lifecycle (d : Document) : Prop where
  unopened : d.phase = .unopened → d.version = ⟨0⟩ ∧ d.pending.events = [] ∧
    d.writer = .absent ∧ d.queue = [] ∧ d.timer = none
  underway : d.phase = .opening ∨ d.phase = .opened → d.writer ≠ .absent
  opened : d.phase = .opened → d.handshakeOutcome? = some (.ok ())
  closed : d.phase = .closed →
    d.pending.events = [] ∧ d.pending.resync = false ∧ d.timer = none ∧ d.waiting = []

variable {d d' : Document}

theorem lifecycle_new (h : d.IsNew) : Lifecycle d := by
  rw [h]
  exact ⟨fun _ => ⟨rfl, rfl, rfl, rfl, rfl⟩, by simp, by simp, by simp⟩

/-- While a document takes notifications its phase is neither the first nor the last. -/
theorem Lifecycle.push (h : Lifecycle d) (ha : d.acceptsEdits = true)
    (hp : d'.phase = d.phase) (hw : d'.writer = d.writer) : Lifecycle d' := by
  have houtcome : d'.handshakeOutcome? = d.handshakeOutcome? := by
    rw [handshakeOutcome?, handshakeOutcome?, hw]
  refine ⟨fun hn => ?_, fun hu => ?_, fun ho => ?_, fun hc => ?_⟩
  · exact absurd (hp.symm.trans hn) (acceptsEdits_unopened ha)
  · rw [hw]
    exact h.underway (hp ▸ hu)
  · rw [houtcome]
    exact h.opened (hp ▸ ho)
  · exact absurd (hp.symm.trans hc) (acceptsEdits_open ha)

theorem lifecycle_shut (d : Document) : Lifecycle d.shut :=
  ⟨by simp [shut], by simp [shut], by simp [shut], fun _ => ⟨rfl, rfl, rfl, rfl⟩⟩

theorem Lifecycle.call {active : Bool} (h : Lifecycle d) (hc : Call active d d') :
    Lifecycle d' := by
  cases hc with
  | begin hp =>
    rw [beginOpen_eq hp]
    split
    · exact ⟨by simp, by simp, by simp, by simp⟩
    · exact ⟨by simp, by simp, by simp, by simp⟩
  | write buffer initialText pending hk hs hu hc =>
    refine ⟨fun hp => ?_, h.underway, h.opened, fun hp => ?_⟩
    · obtain ⟨hversion, hevents, hrest⟩ := h.unopened hp
      exact ⟨hversion, hu (by simp [acceptsEdits, show d.phase = .unopened from hp]) hevents, hrest⟩
    · obtain ⟨hevents, hrest⟩ := h.closed hp
      have hsame : pending = d.pending := hc hp hevents
      exact ⟨hsame ▸ hevents, hsame ▸ hrest⟩
  | change ha hp => exact h.push (acceptsEdits_of_acceptsOutgoing ha) rfl rfl
  | save ha hs text => exact h.push (acceptsEdits_of_acceptsOutgoing ha) rfl rfl
  | vain ha hr hl hs text => exact h.push ha rfl rfl
  | close => exact lifecycle_shut _
  | abandon => exact lifecycle_shut _

theorem Attends.timer_closed {now : Nat} {supported : Bool} {sent : Option Version}
    {timer : Option PullTimer} {pulls : List Event} (h : Attends now supported d sent timer pulls)
    (hp : d.phase = .closed) : timer = d.timer := by
  cases h with
  | delay v hm => simp [minds, hp] at hm
  | _ => rfl

/-- A document that opens in a step learned that the handshake came out well. -/
theorem Step.opens {now : Nat} {supported : Bool} {es : List Event}
    (hs : Step now supported d es d') (hp : d.phase = .opening) (hp' : d'.phase = .opened) :
    d'.handshakeOutcome? = some (.ok ()) := by
  cases hs with
  | join | establish => rfl
  | _ => exact absurd (hp.symm.trans hp') (by simp)

theorem Step.writer {now : Nat} {supported : Bool} {es : List Event}
    (hs : Step now supported d es d') : d'.writer = .absent ↔ d.writer = .absent := by
  cases hs <;> simp_all [lose, Document.stop, Document.establish]

theorem Step.still {now : Nat} {supported : Bool} {es : List Event}
    (hs : Step now supported d es d') (hw : d.writer = .absent) (ht : d.timer = none) :
    d'.queue = d.queue ∧ d'.timer = none := by
  cases hs <;> simp_all

theorem Step.quiet_closed {now : Nat} {supported : Bool} {es : List Event}
    (hs : Step now supported d es d') (hp : d.phase = .closed) (ht : d.timer = none)
    (hw : d.waiting = []) : d'.timer = none ∧ d'.waiting = [] := by
  cases hs with
  | refuse => exact ⟨ht, rfl⟩
  | fail => exact ⟨ht, rfl⟩
  | establish h hdue timer unpulled hu hattends =>
    exact ⟨(hattends.timer_closed hp).trans ht, hw⟩
  | finish timer pulls h hattends => exact ⟨(hattends.timer_closed hp).trans ht, hw⟩
  | fire => exact ⟨rfl, hw⟩
  | serve hwaiting => simp [hw] at hwaiting
  | enlist hopening => simp [hp] at hopening
  | _ => exact ⟨ht, hw⟩

theorem Lifecycle.step {now : Nat} {supported : Bool} {es : List Event} (h : Lifecycle d)
    (hs : Step now supported d es d') : Lifecycle d' := by
  have hsame := hs.sameText
  refine ⟨fun hp => ?_, fun hp hw => ?_, fun hp => ?_, fun hp => ?_⟩
  · obtain ⟨hversion, hevents, hw, hq, ht⟩ := h.unopened (hs.unopened hp)
    obtain ⟨hqueue, htimer⟩ := hs.still hw ht
    exact ⟨hsame.version.trans hversion, hsame.pending ▸ hevents, hs.writer.mpr hw,
      hqueue.trans hq, htimer⟩
  · refine h.underway ?_ (hs.writer.mp hw)
    rcases hs.phase with heq | ⟨hopening, -⟩
    · rwa [← heq]
    · exact .inl hopening
  · rcases hs.phase with heq | ⟨hopening, -⟩
    · exact hs.outcome (h.opened (heq ▸ hp))
    · exact hs.opens hopening hp
  · have hbefore : d.phase = .closed := hs.closed.mp hp
    obtain ⟨hevents, hresync, ht, hw⟩ := h.closed hbefore
    rw [hsame.pending]
    exact ⟨hevents, hresync, hs.quiet_closed hbefore ht hw⟩

theorem lifecycle_invariant : Invariant fun d _ _ => Lifecycle d where
  new h := lifecycle_new h
  call hc h := h.call hc
  step hs h := h.step hs
  wait _ _ h := h

/-! ## Phases -/

/-- Only opening and closing move a document from its phase. -/
theorem work_phase {active : Bool} (d : Document) {a : DocumentAction} (hb : a ≠ .beginOpen)
    (hc : a ≠ .close) : (a.work active d).phase = d.phase := by
  cases a with
  | beginOpen => contradiction
  | close => contradiction
  | before e old => exact d.recordBefore_phase _ e
  | after new => exact recordAfter_phase _ new
  | type e new =>
    rw [DocumentAction.work]
    split
    · rfl
    · exact d.type_phase e _
  | edit e new =>
    rw [DocumentAction.work]
    split
    · rfl
    · exact (flush_phase _).trans (d.type_phase e _)
  | setText text => rfl
  | flush => exact d.flush_phase
  | save => exact d.save_phase active
  | refresh origin => rfl

theorem work_leads (active : Bool) (d : Document) (a : DocumentAction) :
    Phase.Leads d.phase (a.work active d).phase := by
  cases a with
  | beginOpen =>
    rw [DocumentAction.work]
    by_cases hp : d.phase = .unopened
    · have hopening : d.beginOpen.phase = .opening := by
        rw [beginOpen_eq hp]
        split <;> rfl
      exact hp ▸ hopening ▸ .begins
    · rw [beginOpen_of_ne hp]
      exact .stays d.phase
  | close =>
    rw [DocumentAction.work, d.close_phase active]
    exact .closes d.phase
  | _ =>
    rw [d.work_phase (by simp) (by simp)]
    exact .stays d.phase

theorem Course.phase {supported : Bool} {a b : Nat} {l : Log} (hc : Course supported a d l b d') :
    d'.phase = d.phase ∨ d.phase = .opening ∧ d'.phase = .opened := by
  induction hc with
  | refl => exact .inl rfl
  | wait _ _ _ ih => exact ih
  | step _ hs ih =>
    rcases hs.phase with heq | ⟨hopening, hopened⟩
    · rwa [heq]
    · rcases ih with heq | ⟨-, hopened'⟩
      · exact .inr ⟨heq.symm.trans hopening, hopened⟩
      · cases hopening.symm.trans hopened'

theorem Course.leads {supported : Bool} {a b : Nat} {l : Log} (hc : Course supported a d l b d') :
    Phase.Leads d.phase d'.phase := by
  rcases hc.phase with heq | ⟨hopening, hopened⟩
  · exact heq ▸ .stays d.phase
  · exact hopening ▸ hopened ▸ .opens

/-! ## After the closing -/

/-- What is done to a closed document concerns its buffer alone. -/
theorem Lifecycle.work_closed (h : Lifecycle d) (hp : d.phase = .closed) (active : Bool)
    (a : DocumentAction) : ∃ buffer, a.work active d = { d with buffer } := by
  obtain ⟨hevents, -⟩ := h.closed hp
  have hbefore (old : String) (e : Edit) : d.recordBefore old e = d := by rw [recordBefore, hp]
  have hclose : (d.close active).1 = d := by rw [close_fst, if_pos hp]
  have hsave : (d.save active).1 = d := by rw [save_fst, if_pos (by simp [acceptsEdits, hp])]
  have hflush (buffer : String) : { d with buffer }.flush.1 = { d with buffer } := by
    rw [flush_fst, if_pos hevents]
  have htype (e : Edit) (text : String) : d.type e text = { d with buffer := text } := by
    simp [type, recordBefore, recordAfter, hp]
  cases a with
  | beginOpen => exact ⟨d.buffer, beginOpen_of_ne (by simp [hp])⟩
  | before e old => exact ⟨d.buffer, hbefore _ e⟩
  | after new => exact ⟨new, by simp [DocumentAction.work, recordAfter, hp]⟩
  | type e new =>
    rw [DocumentAction.work]
    split
    · exact ⟨d.buffer, rfl⟩
    · rename_i text _
      exact ⟨text, htype e text⟩
  | edit e new =>
    rw [DocumentAction.work]
    split
    · exact ⟨d.buffer, rfl⟩
    · rename_i text _
      exact ⟨text, by rw [htype, hflush]⟩
  | setText text => exact ⟨text, rfl⟩
  | flush => exact ⟨d.buffer, hflush d.buffer⟩
  | save => exact ⟨d.buffer, hsave⟩
  | close => exact ⟨d.buffer, hclose⟩
  | refresh origin => exact ⟨d.buffer, rfl⟩

end Document

end DocSync
