import DocSync.Proofs.Client.Reception

/-!
# The text that a pull is about

A pull for one version that follows a text is about the text that the server has: it came through,
and none that was stamped later was handed over. A pull for the current version that a new
capability asks for does not wait for the text; its text may still be in the queue or on the way, or
be lost.
-/
namespace DocSync

/-- The server has the text of a version, and was handed no later one. -/
structure Log.Describes (l : Log) (v : Version) : Prop where
  delivered : l.Delivered v
  newest : ∀ w ∈ versionsOf l.handed, w.value ≤ v.value

namespace Document

/-- As long as a document awaits a version that was delivered, the server has its text. -/
theorem Pulls.describes {d : Document} {l : Log} {v : Version} (h : Pulls d l)
    (hawaits : d.awaits (.exact v) = true) (hdelivered : l.Delivered v) : l.Describes v := by
  refine ⟨hdelivered, fun w hw => ?_⟩
  rw [awaits_exact hawaits]
  refine h.stamped w ?_
  rw [Document.ledger, versionsOf_append]
  exact List.mem_append_left _ hw

end Document

namespace Client

/-- The server has the text that a pull for one version is about, unless a refresh asked for the
pull and the text is not handed over, without an outcome, or lost. As long as the answer still
counts this remains so, and the version is the last one that was stamped. -/
theorem pulled_text (env : Environment) (ms : List Move) (d : Document)
    (h : d ∈ ((start env).play ms).documents) (before : Log) (t : Nat) (cause : PullCause)
    (v : Version) (request : DiagnosticRequest) (after : Log)
    (hl : ((start env).play ms).log d.id =
      before ++ (t, .pulled cause (.exact v) request) :: after) :
    (∀ w ∈ versionsOf before.handed, w.value ≤ v.value) ∧
    (before.Describes v ∨ cause = .refreshed ∧
      (v ∉ versionsOf before.handed ∨ v ∈ versionsOf before.unresolved ∨ before.Lost v)) ∧
    (d.awaits (.exact v) = true → v = d.version ∧
      (before.Describes v → (((start env).play ms).log d.id).Describes v)) := by
  obtain ⟨-, hpulls⟩ := Document.pulls_invariant.play env ms d h
  obtain ⟨-, hnewest, hdelivered⟩ := hpulls.pulled before t cause v request after hl
  refine ⟨hnewest, ?_, fun hawaits => ⟨Document.awaits_exact hawaits, fun hdescribes => ?_⟩⟩
  · cases cause with
    | sent => exact .inl ⟨hdelivered rfl, hnewest⟩
    | refreshed =>
      by_cases hhanded : v ∈ versionsOf before.handed
      · rcases Log.outcome_of_handed hhanded with hdelivered | hlost | hopen
        · exact .inl ⟨hdelivered, hnewest⟩
        · exact .inr ⟨rfl, .inr (.inr hlost)⟩
        · exact .inr ⟨rfl, .inr (.inl hopen)⟩
      · exact .inr ⟨rfl, .inl hhanded⟩
  · refine hpulls.describes hawaits ?_
    rw [hl]
    exact hdescribes.delivered.append _

/-- A document that pulls as soon as its change was sent. -/
def prompt : List Move :=
  let id : DocumentId := ⟨⟨"file:///a"⟩, 0⟩
  [.create id.uri "text" ⟨.full, true, .disabled⟩ .forHeadless "a" none,
    .act (.document id .beginOpen), .act (.document id (.edit (.insertion 1 "b") none))]

theorem pulled_text_prompt : ∃ d ∈ ((start offering).play prompt).documents,
    ∃ (before : Log) (request : DiagnosticRequest) (after : Log),
      ((start offering).play prompt).log d.id =
          before ++ (0, .pulled .sent (.exact ⟨2⟩) request) :: after ∧
        before.Describes ⟨2⟩ := by
  obtain ⟨d, hd, hl⟩ : ∃ d ∈ ((start offering).play prompt).documents,
      ((start offering).play prompt).log d.id = (((start offering).play prompt).log d.id).take 6 ++
        (0, .pulled .sent (.exact ⟨2⟩) ⟨⟨"file:///a"⟩, none⟩) ::
          (((start offering).play prompt).log d.id).drop 7 := by decide
  refine ⟨d, hd, _, _, _, hl, ?_⟩
  rcases (pulled_text offering prompt d hd _ _ _ _ _ _ hl).2.1 with hdescribes | ⟨hcause, -⟩
  · exact hdescribes
  · cases hcause

/-- Pulls are offered to a document that is open, and whose last change is held up. -/
def heldUp : List Move :=
  let id : DocumentId := ⟨⟨"file:///a"⟩, 0⟩
  [.create id.uri "text" ⟨.full, true, .disabled⟩ { settleMillis := 0 } "a" none,
    .act (.document id .beginOpen), .act (.shared (.happen (.setSupported true))),
    .act (.shared (.happen (.stall true))),
    .act (.document id (.edit (.insertion 1 "b") none)),
    .act (.document id (.refresh .capability))]

/-- The server is asked about a text that it does not have, and its answer is taken in. -/
theorem pulled_text_heldUp : ∃ d ∈ ((start plain).play heldUp).documents,
    ∃ (before : Log) (request : DiagnosticRequest),
      ((start plain).play heldUp).log d.id =
          before ++ [(0, .pulled .refreshed (.exact ⟨2⟩) request)] ∧
        ¬ before.Delivered ⟨2⟩ ∧
        (((start plain).play heldUp).move (.answer "file:///a" 0 finding)).env.registry ≠
          ((start plain).play heldUp).env.registry := by
  obtain ⟨d, hd, hl, hnot⟩ : ∃ d ∈ ((start plain).play heldUp).documents,
      ((start plain).play heldUp).log d.id = (((start plain).play heldUp).log d.id).dropLast ++
          [(0, .pulled .refreshed (.exact ⟨2⟩) ⟨⟨"file:///a"⟩, none⟩)] ∧
        ¬ Log.Delivered (((start plain).play heldUp).log d.id).dropLast ⟨2⟩ := by decide
  exact ⟨d, hd, _, _, hl, hnot, by decide⟩

end Client

end DocSync
