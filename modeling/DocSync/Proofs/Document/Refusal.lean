import DocSync.Proofs.Document.Delivery
import DocSync.Proofs.Document.Lifecycle

/-!
# A handshake that fails

As long as the handshake has no outcome a document neither pulls nor sets its timer. If it fails,
the opening is all that was handed over, no pull waits, and no timer is set. One step is left to the
document: its writer learns of the failure, and lets go of what is queued.
-/
namespace DocSync

namespace Document

variable {d d' : Document} {l : Log} {now : Nat} {supported : Bool}

/-- What waits for the handshake, and what a failed one leaves behind. -/
structure Refuses (d : Document) (l : Log) : Prop where
  timer : ∀ p, d.timer = some p → d.handshakeOutcome? = some (.ok ())
  pulled : ∀ t cause v request, (t, .pulled cause v request) ∈ l →
    d.handshakeOutcome? = some (.ok ())
  waiting : d.isRefused = true → d.waiting = []
  handed : ∀ e, d.handshakeOutcome? = some (.error e) → l.handed = [] ∨
    ∃ n, n.isOpening = true ∧ l.handed = [n] ∧ l.outcomes = [(n, some e)]

theorem refuses_new (h : d.IsNew) : Refuses d [] := by
  rw [h]
  exact ⟨by simp, by simp, by simp, by simp⟩

theorem Refuses.call {active : Bool} (h : Refuses d l) (hl : Lifecycle d)
    (hc : Call active d d') : Refuses d' l := by
  have hkeep (hw : d'.writer = d.writer) (ht : ∀ p, d'.timer = some p → d.timer = some p)
      (hwaiting : d.waiting = [] → d'.waiting = []) : Refuses d' l := by
    have houtcome : d'.handshakeOutcome? = d.handshakeOutcome? := by
      rw [handshakeOutcome?, handshakeOutcome?, hw]
    have hrefused : d'.isRefused = d.isRefused := by rw [isRefused, isRefused, hw]
    refine ⟨fun p hp => ?_, fun t cause v request hmem => ?_, fun hr => ?_, fun e he => ?_⟩
    · exact houtcome.trans (h.timer p (ht p hp))
    · exact houtcome.trans (h.pulled t cause v request hmem)
    · exact hwaiting (h.waiting (hrefused ▸ hr))
    · exact h.handed e (houtcome ▸ he)
  cases hc with
  | begin hp =>
    obtain ⟨-, -, hw, -, ht⟩ := hl.unopened hp
    have htimer : d.beginOpen.timer = d.timer := d.beginOpen_same Document.timer fun _ _ _ _ => rfl
    have hnone : d.handshakeOutcome? = none := by simp [handshakeOutcome?, hw]
    obtain ⟨greeting, hwriter⟩ := beginOpen_waiting hp
    refine ⟨by simp [htimer, ht], fun t cause v request hmem => ?_, ?_, ?_⟩
    · have := h.pulled t cause v request hmem
      simp [hnone] at this
    · simp [isRefused, hwriter]
    · simp [handshakeOutcome?, hwriter]
  | close => exact hkeep rfl (by simp [shut]) fun _ => rfl
  | abandon => exact hkeep rfl (by simp [shut]) fun _ => rfl
  | _ => exact hkeep rfl (fun _ hp => hp) fun hw => hw

theorem Refuses.pulled_step {es : List Event} (h : Refuses d l) (hl : Lifecycle d)
    (hs : Step now supported d es d') {cause : PullCause} {v : PullVersion}
    {request : DiagnosticRequest} (hmem : .pulled cause v request ∈ es) :
    d'.handshakeOutcome? = some (.ok ()) := by
  cases hs with
  | establish => rfl
  | finish => rfl
  | fire hp => exact h.timer _ hp
  | serve hw hk => exact hk
  | refresh hp => exact hl.opened hp
  | _ => simp [dismissals] at hmem

/-- After its handshake failed a document takes one step at most: its writer learns of it. -/
theorem Refuses.stops {es : List Event} {e : SessionError} (h : Refuses d l) (hl : Lifecycle d)
    (he : d.handshakeOutcome? = some (.error e)) (hs : Step now supported d es d') :
    d.writer = .refused e ∧ es = d.dismissals ∧ d' = d.stop e := by
  have hr := isRefused_iff.mpr ⟨e, he⟩
  have hnot (hok : d.handshakeOutcome? = some (.ok ())) : False := by
    cases hok.symm.trans he
  cases hs with
  | @stop f hw =>
    obtain rfl : f = e := by simpa [handshakeOutcome?, hw] using he
    exact ⟨hw, rfl, rfl⟩
  | fire hp => exact (hnot (h.timer _ hp)).elim
  | serve hw hk => exact (hnot hk).elim
  | refresh hp => exact (hnot (hl.opened hp)).elim
  | enlist hp hrefused => simp [hrefused] at hr
  | refuse e hw => simp [isRefused, hw] at hr
  | greet fault hw => simp [isRefused, hw] at hr
  | fail hw => simp [isRefused, hw] at hr
  | settle hw => simp [isRefused, hw] at hr
  | join hw => simp [isRefused, hw] at hr
  | establish hw => simp [isRefused, hw] at hr
  | hand fault hw => simp [isRefused, hw] at hr
  | finish timer pulls hw => simp [isRefused, hw] at hr

theorem Refuses.stop (h : Refuses d l) {e : SessionError} (hw : d.writer = .refused e) :
    Refuses (d.stop e) (l ++ d.dismissals.map (now, ·)) := by
  have houtcome : d.handshakeOutcome? = some (.error e) := by simp [handshakeOutcome?, hw]
  refine ⟨fun p hp => ?_, fun t cause v request hmem => ?_, fun _ => ?_, fun f hf => ?_⟩
  · cases houtcome.symm.trans (h.timer p hp)
  · have hbefore : (t, .pulled cause v request) ∈ l := by
      simpa [dismissals] using hmem
    cases houtcome.symm.trans (h.pulled t cause v request hbefore)
  · exact h.waiting (isRefused_iff.mpr ⟨e, houtcome⟩)
  · obtain rfl : e = f := by simpa [handshakeOutcome?, Document.stop] using hf
    rw [Log.handed_quiet d.quiet_dismissals, Log.outcomes_quiet d.quiet_dismissals]
    exact h.handed e houtcome

theorem Refuses.step {es : List Event} (h : Refuses d l) (hl : Lifecycle d) (hp : Paced d l now)
    (hsettles : Settles d l) (hs : Step now supported d es d') :
    Refuses d' (l ++ es.map (now, ·)) := by
  by_cases hfailed : ∃ e, d.handshakeOutcome? = some (.error e)
  · obtain ⟨e, he⟩ := hfailed
    obtain ⟨hw, rfl, rfl⟩ := h.stops hl he hs
    exact h.stop hw
  have hfits := hp.writer
  refine ⟨fun p ht => ?_, fun t cause v request hmem => ?_, fun hr => ?_, fun e he => ?_⟩
  · have hkept (hd : d.timer = some p) : d'.handshakeOutcome? = some (.ok ()) :=
      hs.outcome (h.timer p hd)
    cases hs with
    | establish => rfl
    | finish => rfl
    | fire => cases ht
    | _ => exact hkept ht
  · rcases List.mem_append.mp hmem with hmem | hmem
    · exact hs.outcome (h.pulled t cause v request hmem)
    · obtain ⟨event, hevent, heq⟩ := List.mem_map.mp hmem
      cases heq
      exact h.pulled_step hl hs hevent
  · cases hs with
    | refuse => rfl
    | fail => rfl
    | stop hw => exact absurd (isRefused_iff.mp (by simp [isRefused, hw])) hfailed
    | greet | settle | join | establish | hand | finish => cases hr
    | _ => exact absurd (isRefused_iff.mp hr) hfailed
  · cases hs with
    | @refuse greeting f hw =>
      left
      rw [Log.handed_quiet (quiet_handshake (some f))]
      rw [WriterFits, hw] at hfits
      cases greeting with
      | none => exact hfits.2.2.1
      | some n => exact hfits.2.2.1
    | @fail n f hw =>
      right
      rw [WriterFits, hw] at hfits
      obtain rfl : f = e := by simpa [handshakeOutcome?, Document.lose] using he
      have hnone : l.outcomes = [] := hsettles.greeting n _ hw
      have hhanded : l.handed = [n] := by rw [hsettles.order, hnone, hfits.1]; rfl
      refine ⟨n, hfits.2.2, ?_, ?_⟩
      · rw [Log.handed_append, hhanded]
        rfl
      · rw [Log.outcomes_append, hnone]
        rfl
    | greet | settle | join | establish | hand | finish => cases he
    | stop hw => exact absurd (isRefused_iff.mp (by simp [isRefused, hw])) hfailed
    | _ => exact absurd ⟨e, he⟩ hfailed

theorem refuses_account : Account fun d l spoken now =>
    ((Keeps d (d.ledger l) ∧ Paced d l now) ∧ Resolves d l ∧ Delivers d l (ticketed spoken)) ∧
      (Settles d l ∧ Lifecycle d ∧ Refuses d l) where
  new h := ⟨delivers_account.new h, ⟨rfl, fun _ _ _ => rfl, fun _ => rfl⟩, lifecycle_new h,
    refuses_new h⟩
  call hc h := by
    obtain ⟨hdelivers, hsettles, hl, hr⟩ := h
    obtain ⟨added, hadded, hnext⟩ := delivers_account.call hc hdelivers
    exact ⟨added, hadded, hnext, hsettles.call hc, hl.call hc, hr.call hl hc⟩
  step hs h := by
    obtain ⟨hdelivers, hsettles, hl, hr⟩ := h
    exact ⟨delivers_account.step hs hdelivers, hsettles.step hdelivers.1.2 hs, hl.step hs,
      hr.step hl hdelivers.1.2 hsettles hs⟩
  wait hle hu h := ⟨delivers_account.wait hle hu h.1, h.2⟩

end Document

end DocSync
