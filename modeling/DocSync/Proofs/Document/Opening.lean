import DocSync.Proofs.Document.Handshake
import DocSync.Proofs.Document.Lifecycle

/-!
# The opening of a document

Only the first attempt to open a document sets its writer off. What was handed over to open the
document is the greeting that this attempt made, if anything. Once the greeting came through, the
handshake is over as soon as the server had its time.
-/
namespace DocSync.Document

variable {d d' : Document}

def Writer.isWaiting : Writer → Bool
  | .waiting _ => true
  | _ => false

@[simp] theorem flush_writer (d : Document) : d.flush.1.writer = d.writer :=
  flush_same writer d rfl rfl

@[simp] theorem recordBefore_writer (d : Document) (old : String) (e : Edit) :
    (d.recordBefore old e).writer = d.writer := by
  unfold recordBefore
  split <;> rfl

@[simp] theorem recordAfter_writer (d : Document) (new : String) :
    (d.recordAfter new).writer = d.writer := by
  unfold recordAfter
  split <;> rfl

@[simp] theorem type_writer (d : Document) (e : Edit) (new : String) :
    (d.type e new).writer = d.writer := by
  simp [type]

/-- Nobody but the first to open a document touches its writer. -/
theorem work_writer (active : Bool) (d : Document) {a : DocumentAction} (ha : a ≠ .beginOpen) :
    (a.work active d).writer = d.writer := by
  cases a with
  | beginOpen => contradiction
  | before e old => exact d.recordBefore_writer _ e
  | after new => exact recordAfter_writer _ new
  | type e new =>
    rw [DocumentAction.work]
    split
    · rfl
    · exact d.type_writer e _
  | edit e new =>
    rw [DocumentAction.work]
    split
    · rfl
    · exact (flush_writer _).trans (d.type_writer e _)
  | setText text => rfl
  | flush => exact d.flush_writer
  | save =>
    rw [DocumentAction.work, save_fst]
    split
    · rfl
    · split
      · exact d.flush_writer
      · exact d.flush_writer
  | close =>
    rw [DocumentAction.work, close_fst]
    split
    · rfl
    · split
      · exact d.flush_writer
      · rfl
  | refresh origin => rfl

/-- The openings among what was handed over are the first of what the document ever had to say. -/
theorem Keeps.openings {l : Log} {greetings said : List Notification} (h : Keeps d (d.ledger l))
    (hsaid : d.ledger l <+: greetings ++ said)
    (hgreetings : greetings = [] → d.policy.openClose = false)
    (hone : d.policy.openClose = true → ∃ n, greetings = [n]) :
    l.handed.filter Notification.isOpening <+: greetings := by
  have hhanded : l.handed <+: d.ledger l := List.prefix_append _ _
  cases ho : d.policy.openClose with
  | false =>
    have hnone : l.handed.filter Notification.isOpening = [] := by
      refine List.filter_eq_nil_iff.mpr fun n hn hopening => ?_
      have hsuits := h.suits n (hhanded.subset hn)
      cases n with
      | didOpen => simp [Notification.Suits, ho] at hsuits
      | _ => cases hopening
    rw [hnone]
    exact List.nil_prefix
  | true =>
    obtain ⟨greeting, rfl⟩ := hone ho
    obtain ⟨s, hs, hledger⟩ := h.dialogue
    rw [ho] at hs
    cases hl : l.handed with
    | nil => exact List.nil_prefix
    | cons first rest =>
      rw [hl] at hhanded
      have hfirst : first = greeting := (List.cons_prefix_cons.mp (hhanded.trans hsaid)).1
      have hrest : rest.filter Notification.isOpening = [] := by
        refine List.filter_eq_nil_iff.mpr fun n hn hopening => ?_
        obtain ⟨before, after, rfl⟩ := List.append_of_mem hn
        have hns : (first :: before) ++ [n] <+: s := by
          refine List.IsPrefix.trans ⟨after, by simp⟩ (hhanded.trans hledger)
        cases hs.eq_nil_of_opening hns hopening
      rw [hfirst, List.filter_cons, hrest]
      split
      · exact List.prefix_rfl
      · exact List.nil_prefix

/-- The server is given its time and no more. -/
def Lingers (d : Document) (now : Nat) : Prop :=
  ∀ n due, d.writer = .settling n due → due ≤ now + d.settings.settleDelay

theorem lingers_invariant : Invariant fun d _ now => Lingers d now where
  new h := by
    rw [h]
    simp [Lingers]
  call hc h := by
    cases hc with
    | begin hp =>
      obtain ⟨greeting, hw⟩ := beginOpen_waiting hp
      simp [Lingers, hw]
    | _ => exact h
  step hs h := by
    have hsettings := hs.sameText.settings
    cases hs with
    | settle hw =>
      intro m due hm
      cases hm
      exact Nat.le_refl _
    | refuse | greet | fail | join | establish | hand | finish | stop =>
      intro m due hm
      cases hm
    | _ => exact h
  wait hle _ h := fun n due hw => Nat.le_trans (h n due hw) (Nat.add_le_add_right hle _)

/-- A document that gives its server time does so until the handshake is over. -/
theorem Step.settling {now : Nat} {supported : Bool} {es : List Event}
    (hs : Step now supported d es d') {n : Notification} {due : Nat}
    (h : d.writer = .settling n due ∨ d.handshakeOutcome? = some (.ok ())) :
    d'.writer = .settling n due ∨ d'.handshakeOutcome? = some (.ok ()) := by
  rcases h with hw | hk
  · cases hs with
    | refuse e hw' | greet fault hw' | fail hw' | settle hw' | stop hw' => simp [hw] at hw'
    | join | establish | hand | finish => exact .inr rfl
    | _ => exact .inl hw
  · exact .inr (hs.outcome hk)

theorem Course.settling {supported : Bool} {a b : Nat} {l : Log}
    (hc : Course supported a d l b d') {n : Notification} {due : Nat}
    (h : d.writer = .settling n due) :
    d'.writer = .settling n due ∨ d'.handshakeOutcome? = some (.ok ()) := by
  induction hc with
  | refl => exact .inl h
  | step _ hs ih => exact hs.settling (ih h)
  | wait _ _ _ ih => exact ih h

theorem Course.writer {supported : Bool} {a b : Nat} {l : Log} (hc : Course supported a d l b d') :
    d'.writer = .absent ↔ d.writer = .absent := by
  induction hc with
  | refl => exact Iff.rfl
  | step _ hs ih => exact hs.writer.trans ih
  | wait _ _ _ ih => exact ih

/-- How the handshake came out is not undone. -/
theorem Call.outcome {active : Bool} (hc : Call active d d') (h : d.Calm)
    {r : Except SessionError Unit} (hk : d.handshakeOutcome? = some r) :
    d'.handshakeOutcome? = some r := by
  cases hc with
  | begin hp => simp [handshakeOutcome?, h.unopened hp] at hk
  | _ => exact hk

/-- Somebody tried to open the document. -/
structure Begun (d : Document) : Prop where
  phase : d.phase ≠ .unopened
  writer : d.writer ≠ .absent

theorem begun_beginOpen (hp : d.phase = .unopened) : d.beginOpen.Begun := by
  obtain ⟨greeting, hw⟩ := beginOpen_waiting hp
  refine ⟨?_, by simp [hw]⟩
  rw [beginOpen_eq hp]
  split <;> simp

theorem Begun.call {active : Bool} (h : d.Begun) (hc : Call active d d') : d'.Begun := by
  cases hc with
  | begin hp => exact absurd hp h.phase
  | write | change | save | vain => exact ⟨h.phase, h.writer⟩
  | close | abandon => exact ⟨by simp [shut], h.writer⟩

theorem Begun.course {supported : Bool} {a b : Nat} {l : Log} (h : d.Begun)
    (hc : Course supported a d l b d') : d'.Begun := by
  refine ⟨fun hn => ?_, fun hn => h.writer (hc.writer.mp hn)⟩
  rcases hc.phase with heq | ⟨-, hopened⟩
  · exact h.phase (heq ▸ hn)
  · cases hopened.symm.trans hn

end DocSync.Document
