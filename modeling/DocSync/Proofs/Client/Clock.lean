import DocSync.Proofs.Client.Stride
import DocSync.Proofs.Document.Call

/-!
# Where the clock stops

A document waits for two times at most: until it has left its server the time to take it in, and
then for its timer. So a clock that is moved on stops at every time that some document waits for.
-/
namespace DocSync

namespace Document

/-- No timer is set before the handshake is over, and then a document is no longer being opened,
unless the handshake failed. -/
structure Calm (d : Document) : Prop where
  unopened : d.phase = .unopened → d.writer = .absent
  timer : d.handshakeOutcome? = none → d.timer = none
  undecided : d.phase = .opening → d.handshakeOutcome? ≠ some (.ok ())

/-- How many times a document waits for at most, if nobody touches it. -/
def waits (d : Document) : Nat :=
  match d.writer with
  | .settling .. => 2 + d.timer.toList.length
  | _ => d.timer.toList.length

theorem waits_of_not_settling {d : Document} (h : ∀ n due, d.writer ≠ .settling n due) :
    d.waits = d.timer.toList.length := by
  unfold waits
  split
  · rename_i n due hw
    exact absurd hw (h n due)
  · rfl

theorem length_timer_le (d : Document) : d.timer.toList.length ≤ 1 := by
  cases d.timer <;> simp

theorem Calm.waits_le {d : Document} (h : d.Calm) : d.waits ≤ 2 := by
  unfold waits
  split
  · rename_i n due hw
    have hnone : d.timer = none := h.timer (by simp [handshakeOutcome?, hw])
    simp [hnone]
  · exact Nat.le_trans d.length_timer_le (Nat.le_succ 1)

theorem Call.calm {active : Bool} {d d' : Document} (hc : Call active d d') (h : d.Calm) :
    d'.Calm := by
  cases hc with
  | begin hp =>
    have htimer : d.timer = none := h.timer (by simp [handshakeOutcome?, h.unopened hp])
    unfold beginOpen
    rw [hp]
    dsimp only
    split
    · exact ⟨by simp, fun _ => htimer, by simp [handshakeOutcome?]⟩
    · exact ⟨by simp, fun _ => htimer, by simp [handshakeOutcome?]⟩
  | close | abandon => exact ⟨by simp [shut], fun _ => rfl, by simp [shut]⟩
  | _ => exact ⟨h.unopened, h.timer, h.undecided⟩

theorem Step.calm {now : Nat} {supported : Bool} {d d' : Document} {es : List Event}
    (hs : Step now supported d es d') (h : d.Calm) : d'.Calm := by
  refine ⟨fun hp => ?_, fun hnone => ?_, fun hp hk => ?_⟩
  · have habsent := h.unopened (hs.unopened hp)
    cases hs <;> simp_all
  · cases hs with
    | fire => rfl
    | establish | join | refuse | fail | hand | finish | stop => cases hnone
    | greet fault hw => exact h.timer (by simp [handshakeOutcome?, hw])
    | settle hw => exact h.timer (by simp [handshakeOutcome?, hw])
    | _ => exact h.timer hnone
  · have hundecided := h.undecided
    have hopens (p : Phase) : (if p = .opening then .opened else p) ≠ .opening := by
      cases p <;> simp
    cases hs with
    | join | establish => exact hopens _ hp
    | _ => simp_all [handshakeOutcome?, Document.lose, Document.stop]

theorem Course.calm {supported : Bool} {a b : Nat} {d d' : Document} {l : Log}
    (hc : Course supported a d l b d') (h : d.Calm) : d'.Calm := by
  induction hc with
  | refl => exact h
  | step _ hs ih => exact hs.calm (ih h)
  | wait _ _ _ ih => exact ih h

theorem until_iff {d : Document} {later : Nat} :
    d.Until later ↔ ∀ due ∈ Client.dueTimes d, later ≤ due := by
  have hparts : d.Until later ↔ (∀ n due, d.writer = .settling n due → later ≤ due) ∧
      ∀ p, d.timer = some p → later ≤ p.due := ⟨fun h => ⟨h.1, h.2⟩, fun h => ⟨h.1, h.2⟩⟩
  rw [hparts, Client.dueTimes]
  cases d.writer <;> cases d.timer <;> simp

end Document

namespace Turn

theorem fire_doc (t : Turn) :
    t.fire.doc = if (∃ p, t.doc.timer = some p ∧ p.due ≤ t.env.now) then
      { t.doc with timer := none } else t.doc := by
  unfold fire
  cases htimer : t.doc.timer with
  | none => simp
  | some p =>
    by_cases hdue : p.due ≤ t.env.now
    · simp [hdue, pull_doc]
    · simp [hdue]

/-- A document that is due waits for fewer times after its turn. -/
theorem progress_waits {t : Turn} {before : Nat} (h : Rests { t with env.now := before }) :
    t.progress.doc.waits ≤ t.doc.waits ∧
      (¬ t.doc.Until (t.env.now + 1) → t.progress.doc.waits < t.doc.waits) := by
  by_cases hsettled : ∃ n due, t.doc.writer = .settling n due ∧ due ≤ t.env.now
  · obtain ⟨n, due, hw, hdue⟩ := hsettled
    have hok : (t.join (some n)).doc.handshakeOutcome? = some (.ok ()) := by
      simp [Document.handshakeOutcome?, join_writer]
    have harrives := t.arrives_progress.tail (.write (.establish hw hdue))
    obtain ⟨_, -, hcourse⟩ := goes_of_strides harrives.strides
    have hafter : t.progress.doc.waits ≤ 1 := by
      rw [Document.waits_of_not_settling]
      · exact Document.length_timer_le _
      · intro m later hm
        simpa [Document.handshakeOutcome?, hm] using hcourse.outcome hok
    have hbefore : 2 ≤ t.doc.waits := by simp [Document.waits, hw]
    exact ⟨by omega, fun _ => by omega⟩
  · have hsettling (n : Notification) (due : Nat) (hw : t.doc.writer = .settling n due) :
        t.env.now < due := by
      by_contra hle
      exact hsettled ⟨n, due, hw, by omega⟩
    have hrests : t.WriterRests := ⟨h.waiting, hsettling, h.idle, h.held, h.refused⟩
    rw [t.arrives_progress.unique (arrives_fire hrests h.served), fire_doc]
    split
    · rename_i hdue
      obtain ⟨p, hp, -⟩ := hdue
      have hless : ({ t.doc with timer := none } : Document).waits < t.doc.waits := by
        unfold Document.waits
        split <;> simp_all
      exact ⟨Nat.le_of_lt hless, fun _ => hless⟩
    · rename_i hdue
      refine ⟨Nat.le_refl _, fun hnot => absurd ⟨hsettling, fun p hp => ?_⟩ hnot⟩
      by_contra hle
      exact hdue ⟨p, hp, by omega⟩

end Turn

end DocSync
