import DocSync.Proofs.Client.Spoken
import DocSync.Proofs.Document.Pace

/-!
# Versions

A version is stamped when a document opens, if that is reported, and whenever changes are queued. No
version is left out, none comes twice, and the server gets them in their order. A stamped version
that was not handed over is behind a notification or a handshake without an outcome, or was lost
with the handshake.
-/
namespace DocSync

namespace Document

def flushes (d : Document) : Bool := d.acceptsOutgoing && !d.pending.isEmpty

theorem flush_version (d : Document) :
    d.flush.1.version = if d.flushes = true then d.version.next else d.version := by
  rw [flush_fst]
  cases hp : d.pending.events <;> cases ha : d.acceptsOutgoing <;>
    simp [flushes, PendingChanges.isEmpty, hp, ha, sendChanges, push]

@[simp] theorem type_version (d : Document) (e : Edit) (new : String) :
    (d.type e new).version = d.version := by
  simp only [type, recordAfter, recordBefore]
  repeat' split
  all_goals rfl

theorem save_version (d : Document) (active : Bool) :
    (d.save active).1.version =
      if (active && d.policy.save != .disabled && d.flushes) = true then d.version.next
      else d.version := by
  have hpush (n : Notification) : (d.flush.1.push n).1.version = d.flush.1.version := rfl
  rw [save_fst]
  by_cases hs : (d.policy.save = .disabled || !active || !d.acceptsEdits) = true
  · rw [if_pos hs, if_neg]
    intro hf
    simp only [flushes, acceptsOutgoing, Bool.and_eq_true, bne_iff_ne, Bool.not_eq_true'] at hf
    obtain ⟨⟨hactive, hsave⟩, ⟨hedits, -⟩, -⟩ := hf
    simp [hactive, hsave, hedits] at hs
  · rw [if_neg hs]
    simp only [Bool.or_eq_true, decide_eq_true_eq, Bool.not_eq_true', not_or] at hs
    obtain ⟨⟨hsave, hactive⟩, -⟩ := hs
    have hcond : (active && d.policy.save != .disabled && d.flushes) = d.flushes := by
      simp [hsave, hactive]
    rw [hcond, ← flush_version]
    split
    · rfl
    · exact hpush _

theorem close_version (d : Document) (active : Bool) :
    (d.close active).1.version =
      if (active && d.policy.openClose && d.flushes) = true then d.version.next else d.version := by
  have hshut (e : Document) : e.shut.version = e.version := rfl
  have hpush (n : Notification) : (d.flush.1.push n).1.version = d.flush.1.version := rfl
  rw [close_fst]
  by_cases hc : (d.acceptsOutgoing && d.policy.openClose && active) = true
  · have hcond : (active && d.policy.openClose && d.flushes) = d.flushes := by
      simp only [Bool.and_eq_true] at hc
      simp [hc.2, hc.1.2]
    have hp : d.phase ≠ .closed := by
      intro hp
      simp [acceptsOutgoing, acceptsEdits, hp] at hc
    rw [if_neg hp, if_pos hc, hshut, hpush, flush_version, hcond]
  · have hcond : ¬ (active && d.policy.openClose && d.flushes) = true := by
      intro h
      simp only [flushes, Bool.and_eq_true] at h hc
      exact hc ⟨⟨h.2.1, h.1.2⟩, h.1.1⟩
    rw [if_neg hc, if_neg hcond]
    split
    · rfl
    · exact hshut d

end Document

/-- Whether an action stamps a version. -/
def DocumentAction.stamps (active : Bool) (d : Document) : DocumentAction → Bool
  | .beginOpen => d.phase == .unopened && d.policy.openClose
  | .edit e new =>
    match d.textAfter e new with
    | .error _ => false
    | .ok text => (d.type e text).flushes
  | .flush => d.flushes
  | .save => active && d.policy.save != .disabled && d.flushes
  | .close => active && d.policy.openClose && d.flushes
  | _ => false

/-- An action that stamps a version goes on to the next one, any other leaves the version alone. -/
theorem DocumentAction.work_version (active : Bool) (d : Document) (a : DocumentAction) :
    (a.work active d).version = if a.stamps active d = true then d.version.next else d.version := by
  cases a with
  | beginOpen =>
    cases hp : d.phase <;> cases ho : d.policy.openClose <;>
      simp [work, stamps, Document.beginOpen, hp, ho]
  | before e old =>
    simp only [work, stamps, Document.recordBefore]
    split <;> rfl
  | after new =>
    simp only [work, stamps, Document.recordAfter]
    split <;> rfl
  | type e new =>
    cases ht : d.textAfter e new <;> simp [work, stamps, ht]
  | edit e new =>
    cases ht : d.textAfter e new with
    | error fault => simp [work, stamps, ht]
    | ok text => simp only [work, stamps, ht, Document.flush_version, Document.type_version]
  | setText text => rfl
  | flush => exact d.flush_version
  | save => exact d.save_version active
  | close => exact d.close_version active
  | refresh origin => rfl

namespace Document

theorem flush_skipped {d : Document} (h : d.flush.2 = .skipped) : d.flushes = false := by
  unfold flush at h
  cases hp : d.pending.isEmpty with
  | true => simp [flushes, hp]
  | false => cases ha : d.acceptsOutgoing <;> simp [flushes, hp, ha, push] at h ⊢

theorem save_skipped {d : Document} {active : Bool} (h : (d.save active).2 = .skipped) :
    (active && d.policy.save != .disabled && d.flushes) = false := by
  by_contra hf
  simp only [flushes, Bool.not_eq_false, Bool.and_eq_true, bne_iff_ne] at hf
  obtain ⟨⟨hactive, hsave⟩, houtgoing, -⟩ := hf
  have hedits := acceptsEdits_of_acceptsOutgoing houtgoing
  simp [save, hactive, hsave, hedits, isStopped_of_acceptsOutgoing houtgoing, push] at h

theorem close_skipped {d : Document} {active : Bool} (h : (d.close active).2 = .skipped) :
    (active && d.policy.openClose && d.flushes) = false := by
  by_contra hf
  simp only [flushes, Bool.not_eq_false, Bool.and_eq_true] at hf
  obtain ⟨⟨hactive, hopen⟩, houtgoing, -⟩ := hf
  have hp : d.phase ≠ .closed := by
    intro hp
    simp [acceptsOutgoing, acceptsEdits, hp] at houtgoing
  simp [close, pushClose, hp, houtgoing, hopen, hactive, push] at h

end Document

def Client.Move.stamps (active : Bool) (d : Document) : Client.Move → Bool
  | .act (.document id a) => decide (id = d.id) && a.stamps active d
  | _ => false

theorem Client.Move.stamps_inv {active : Bool} {d : Document} {m : Client.Move}
    (h : m.stamps active d = true) :
    ∃ a, m = .act (.document d.id a) ∧ a.stamps active d = true := by
  unfold stamps at h
  split at h
  · rename_i id a
    simp only [Bool.and_eq_true, decide_eq_true_eq] at h
    exact ⟨a, by rw [h.1], h.2⟩
  · cases h

theorem Client.Move.work_version (active : Bool) (d : Document) (m : Client.Move) :
    (m.work active d).version = if m.stamps active d = true then d.version.next else d.version := by
  rcases m with - | ⟨id, a⟩ | a
  · rfl
  · by_cases hid : id = d.id
    · simp [work, stamps, hid, DocumentAction.work_version]
    · simp [work, stamps, hid]
  · rfl

namespace Document

/-- The versions of a document that has spoken so much. -/
structure VersionOrder (d : Document) (l : Log) (spoken : List Notification) : Prop where
  /-- The server gets every version once and in order. -/
  handed : versionsOf l.handed = Version.upTo (versionsOf l.handed).length
  stamped : versionsOf spoken = Version.upTo (versionsOf spoken).length
  current : d.version = ⟨(versionsOf spoken).length⟩
  /-- Nothing is lost but with the handshake, and what waits has something to wait for. -/
  accounted : (∃ e, d.handshakeOutcome? = some (.error e)) ∨
    spoken = l.handed ++ d.unsent ∧
      (d.unsent = [] ∨ d.handshakeOutcome? = none ∨ l.unresolved ≠ [])

theorem unsent_waits {d : Document} {l : Log} {now : Nat} {state : SessionState}
    {stalled late : Bool} (h : Paced d l now) (hr : d.AtRest now state stalled late)
    (hd : d.isRefused = false) :
    d.unsent = [] ∨ d.handshakeOutcome? = none ∨ l.unresolved ≠ [] := by
  have hfits := h.writer
  unfold WriterFits at hfits
  cases hw : d.writer with
  | idle =>
    left
    simp [unsent, backlog, Writer.greeting?, hw, hr.idle hw]
  | sending item fault =>
    rw [hw] at hfits
    right; right
    rw [hfits.1]
    exact List.cons_ne_nil _ _
  | refused e | stopped e => simp [isRefused, hw] at hd
  | _ => exact .inr (.inl (by simp [handshakeOutcome?, hw]))

theorem versionOrder {d : Document} {l : Log} {now : Nat} {state : SessionState}
    {stalled late : Bool} {spoken : List Notification} (hs : Speaks d l spoken) (hp : Paced d l now)
    (hr : d.AtRest now state stalled late) : d.VersionOrder l spoken := by
  refine ⟨?_, hs.versions, hs.version, ?_⟩
  · have hbegins : l.handed <+: spoken := (List.prefix_append _ _).trans hs.ledger
    have hversions : versionsOf l.handed <+: versionsOf spoken := hbegins.filterMap _
    rw [hs.versions] at hversions
    exact Version.prefix_upTo hversions
  · cases hd : d.isRefused with
    | true => exact .inl (isRefused_iff.mp hd)
    | false => exact .inr ⟨(hs.complete hd).symm, unsent_waits hp hr hd⟩

end Document

namespace Client

theorem move_version {c : Client} (hc : c.Sound) {m : Move} {d d' : Document}
    (hd : d ∈ c.documents) (hd' : d' ∈ (c.move m).documents) (hid : d'.id = d.id) :
    d'.version =
      if m.stamps c.env.session.active d = true then d.version.next else d.version := by
  rcases hc.source hd' with ⟨e, he, l, hcourse, -, heid⟩ | ⟨-, hnew, -⟩
  · obtain rfl : e = d := eq_of_id hc.distinct he hd (heid.trans hid)
    rw [hcourse.sameText.version, Move.work_version]
  · exact absurd (mem_ids hd) (hid ▸ hnew ▸ hc.freshId_notMem d'.uri)

theorem stamps_of_skipped {c : Client} (hc : c.ids.Nodup) {d : Document} (hd : d ∈ c.documents)
    {a : DocumentAction} (h : (c.performOn d a).2 = .delivery .skipped) :
    a.stamps c.env.session.active d = false := by
  have hskipped := performOn_delivery hc hd h
  cases a with
  | edit e new =>
    simp only [DocumentAction.delivery?, DocumentAction.stamps] at hskipped ⊢
    cases ht : d.textAfter e new with
    | error fault => rfl
    | ok text =>
      rw [ht] at hskipped
      exact Document.flush_skipped (Option.some.inj hskipped)
  | flush => exact Document.flush_skipped (Option.some.inj hskipped)
  | save => exact Document.save_skipped (Option.some.inj hskipped)
  | close => exact Document.close_skipped (Option.some.inj hskipped)
  | _ => cases hskipped

/-- At every moment of a run the versions of a document are in order, and from there a move changes
the version only if it stamps the next one. -/
theorem versions (env : Environment) (ms : List Move) (d : Document)
    (h : d ∈ ((start env).play ms).documents) :
    d.VersionOrder (((start env).play ms).log d.id) ((start env).spoken d.id ms) ∧
    (∀ m, ∀ d' ∈ (((start env).play ms).move m).documents, d'.id = d.id →
      d'.version = if m.stamps ((start env).play ms).env.session.active d = true then d.version.next
        else d.version) ∧
    (∀ a, ∀ d' ∈ (((start env).play ms).move (.act (.document d.id a))).documents, d'.id = d.id →
      (((start env).play ms).performOn d a).2 = .delivery .skipped → d'.version = d.version) := by
  have hsound := sound_play env ms
  have hspeaks := speaks_play env ms d h
  obtain ⟨-, hpaced⟩ := Document.paced_invariant.play env ms d h
  refine ⟨Document.versionOrder hspeaks hpaced (hsound.rests d h), ?_, ?_⟩
  · intro m d' hd' hid
    exact move_version hsound h hd' hid
  · intro a d' hd' hid hskipped
    have hstamps := stamps_of_skipped hsound.distinct h hskipped
    simpa [Move.stamps, hstamps] using move_version hsound h hd' hid

/-- A document whose first changes are held up while the server has its time. -/
def patient : List Move :=
  let id : DocumentId := ⟨⟨"file:///a"⟩, 0⟩
  [.create id.uri "text" ⟨.full, true, .disabled⟩ {} "a" none, .act (.document id .beginOpen),
    .act (.document id (.edit (.insertion 1 "b") none)),
    .act (.document id (.edit (.insertion 2 "c") none)), .act (.document id .flush)]

theorem versions_patient : ∃ d ∈ ((start plain).play patient).documents,
    (d.version = ⟨3⟩ ∧ versionsOf (((start plain).play patient).log d.id).handed = [⟨1⟩]) ∧
      d.VersionOrder (((start plain).play patient).log d.id)
        ((start plain).spoken d.id patient) := by
  obtain ⟨d, hd, hversions⟩ : ∃ d ∈ ((start plain).play patient).documents,
      d.version = ⟨3⟩ ∧ versionsOf (((start plain).play patient).log d.id).handed = [⟨1⟩] := by
    decide
  exact ⟨d, hd, hversions, (versions plain patient d hd).1⟩

end Client

end DocSync
