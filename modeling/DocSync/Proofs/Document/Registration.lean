import DocSync.Proofs.Document.Opening

/-!
# What a document remembers of its opening

A document that was announced to the server remembers whether pulls were supported when its handshake
came out well. One that the server does not want to hear of remembers nothing, like all documents
before their handshake.
-/
namespace DocSync

namespace Document

/-- The writer greets the server exactly if the server wants to hear of it. -/
def Writer.Greets (openClose : Bool) : Writer → Prop
  | .waiting none => openClose = false
  | .waiting (some n) | .greeting n _ | .settling n _ =>
    openClose = true ∧ ∃ v, n.version? = some v
  | _ => True

theorem greets_invariant : Invariant fun d _ _ => Writer.Greets d.policy.openClose d.writer where
  new h := by
    rw [h]
    trivial
  call hc h := by
    cases hc with
    | begin hp =>
      rw [beginOpen_eq hp]
      split
      · rename_i ho
        exact ⟨ho, _, rfl⟩
      · rename_i ho
        simpa [Writer.Greets] using ho
    | _ => exact h
  step hs h := by
    cases hs with
    | greet fault hw | settle hw =>
      rw [hw] at h
      exact h
    | refuse | fail | join | establish | hand | finish | stop => trivial
    | _ => exact h
  wait _ _ h := h

/-- Nothing is remembered before the handshake came out well. -/
def Unaware (d : Document) : Prop := d.handshakeOutcome? ≠ some (.ok ()) → d.unpulled = false

/-- What becomes of the memory of a document while pulls are supported or not. -/
structure Remembers (supported : Bool) (d d' : Document) : Prop where
  policy : d'.policy = d.policy
  kept : d.handshakeOutcome? = some (.ok ()) →
    d'.handshakeOutcome? = some (.ok ()) ∧ d'.unpulled = d.unpulled
  noted : d.handshakeOutcome? ≠ some (.ok ()) → d'.handshakeOutcome? = some (.ok ()) →
    d'.unpulled = (d.policy.openClose && !supported)
  unaware : d'.Unaware

namespace Remembers

variable {supported : Bool} {d e f : Document}

theorem refl (h : d.Unaware) : Remembers supported d d :=
  ⟨rfl, fun hk => ⟨hk, rfl⟩, fun hk hk' => absurd hk' hk, h⟩

theorem trans (h : Remembers supported d e) (k : Remembers supported e f) :
    Remembers supported d f := by
  refine ⟨k.policy.trans h.policy, fun hk => ?_, fun hk hk' => ?_, k.unaware⟩
  · obtain ⟨he, hsame⟩ := h.kept hk
    obtain ⟨hf, hsame'⟩ := k.kept he
    exact ⟨hf, hsame'.trans hsame⟩
  · by_cases he : e.handshakeOutcome? = some (.ok ())
    · rw [(k.kept he).2, h.noted hk he]
    · rw [k.noted he hk', h.policy]

end Remembers

theorem Call.remembers {active : Bool} {d d' : Document} (hc : Call active d d') (h : d.Calm)
    (hu : d.Unaware) (supported : Bool) : Remembers supported d d' := by
  have hsame (ho : d'.handshakeOutcome? = d.handshakeOutcome?) (hm : d'.unpulled = d.unpulled)
      (hp : d'.policy = d.policy) : Remembers supported d d' :=
    ⟨hp, fun hk => ⟨ho.trans hk, hm⟩, fun hk hk' => absurd (ho.symm.trans hk') hk,
      fun hk => hm.trans (hu (ho ▸ hk))⟩
  cases hc with
  | begin hp =>
    have ho : d.beginOpen.handshakeOutcome? = d.handshakeOutcome? := by
      rw [beginOpen_eq hp]
      split <;> simp [handshakeOutcome?, h.unopened hp]
    refine hsame ho ?_ ?_ <;> rw [beginOpen_eq hp] <;> split <;> rfl
  | _ => exact hsame rfl rfl rfl

/-- The memory is written when the handshake comes out well, if the server was greeted. -/
theorem Step.remembers {now : Nat} {supported : Bool} {d d' : Document} {es : List Event}
    (hs : Step now supported d es d') (hg : Writer.Greets d.policy.openClose d.writer)
    (hu : d.Unaware) : Remembers supported d d' := by
  have hpolicy := hs.sameText.policy
  cases hs with
  | refuse e hw | fail hw | settle hw | greet fault hw | stop hw =>
    have hbefore : d.handshakeOutcome? ≠ some (.ok ()) := by simp [handshakeOutcome?, hw]
    exact ⟨hpolicy, fun hk => absurd hk hbefore, fun _ hk => (by cases hk), fun _ => hu hbefore⟩
  | join hw =>
    have hbefore : d.handshakeOutcome? ≠ some (.ok ()) := by simp [handshakeOutcome?, hw]
    have hnothing : d.establish.unpulled = false := hu hbefore
    rw [hw] at hg
    have hopenClose : d.policy.openClose = false := hg
    refine ⟨hpolicy, fun hk => absurd hk hbefore, fun _ _ => ?_, fun _ => hnothing⟩
    rw [hnothing, hopenClose]
    rfl
  | @establish n due hw hdue timer unpulled pulls hn hp =>
    have hbefore : d.handshakeOutcome? ≠ some (.ok ()) := by simp [handshakeOutcome?, hw]
    rw [hw] at hg
    obtain ⟨hopenClose, v, hv⟩ := hg
    refine ⟨hpolicy, fun hk => absurd hk hbefore, fun _ _ => ?_, fun hk => absurd rfl hk⟩
    rw [hn v hv, hopenClose]
    rfl
  | hand fault hw | finish timer pulls hw =>
    have hbefore : d.handshakeOutcome? = some (.ok ()) := by simp [handshakeOutcome?, hw]
    exact ⟨hpolicy, fun _ => ⟨rfl, rfl⟩, fun hk => absurd hbefore hk, fun hk => absurd rfl hk⟩
  | _ => exact ⟨hpolicy, fun hk => ⟨hk, rfl⟩, fun hk hk' => absurd hk' hk, hu⟩

theorem Course.remembers {supported : Bool} {a b : Nat} {d d' : Document} {l : Log}
    (hc : Course supported a d l b d') (hg : Writer.Greets d.policy.openClose d.writer)
    (hu : d.Unaware) : Remembers supported d d' := by
  have hboth : Writer.Greets d'.policy.openClose d'.writer ∧ Remembers supported d d' := by
    induction hc with
    | refl => exact ⟨hg, .refl hu⟩
    | step _ hs ih =>
      obtain ⟨hgreets, hremembers⟩ := ih hg hu
      exact ⟨greets_invariant.step (l := []) hs hgreets,
        hremembers.trans (hs.remembers hgreets hremembers.unaware)⟩
    | wait _ _ _ ih => exact ih hg hu
  exact hboth.2

end Document

end DocSync
