import DocSync.Proofs.Text.Agreement
import Mathlib.Data.List.Induction

/-!
# What a flush takes

Between two flushes the halves of edits are recorded one after the other. A flush takes what the
kind asks for: nothing, the last whole text, or one change for each edit. Which change that is
depends on the edit alone: the whole new text if the edit cannot be measured in the text before it,
and its span otherwise. Flushes cut the changes of a run up between them and keep none back.
-/
namespace DocSync

/-- The first half of an edit: against the text before it, or without any. -/
inductive FirstHalf
  | seen (old : String) (e : Edit)
  | unseen
deriving DecidableEq, Repr

/-- What is recorded of an edit at a time. -/
inductive EditHalf
  | first (half : FirstHalf)
  | second (new : String)
deriving DecidableEq, Repr

/-- An edit of which both halves are recorded. -/
structure RecordedEdit where
  first : FirstHalf
  new : String
deriving DecidableEq, Repr

namespace PendingChanges

def fresh (kind : SyncKind) : PendingChanges := { kind }

def record (p : PendingChanges) : EditHalf → PendingChanges
  | .first (.seen old e) => p.recordBefore old e
  | .first .unseen => p.recordUnseenBefore
  | .second new => p.recordAfter new

/-- What is taken by flushes, each of them after some halves. -/
def flushes (p : PendingChanges) : List (List EditHalf) → List (List Change)
  | [] => []
  | halves :: rest =>
    let (events, left) := (halves.foldl record p).drain
    events :: left.flushes rest

end PendingChanges

/-- The change that the first half gives. -/
def FirstHalf.change? : FirstHalf → Option Change
  | .seen old e => (e.toChange old).toOption
  | .unseen => none

namespace RecordedEdit

def halves (r : RecordedEdit) : List EditHalf := [.first r.first, .second r.new]

/-- The change that stands for an edit. -/
def change (r : RecordedEdit) : Change := r.first.change?.getD (.full r.new)

/-- Whether the text before an edit was not seen, or the edit cannot be applied to it. -/
def Unmeasured (r : RecordedEdit) : Prop :=
  match r.first with
  | .seen old e => ∃ fault, e.apply old = .error fault
  | .unseen => True

/-- What the change of an edit is. -/
structure Shaped (r : RecordedEdit) : Prop where
  isFull : r.change.isFull = true ↔ r.Unmeasured
  whole : r.Unmeasured → r.change = .full r.new
  measured : ¬ r.Unmeasured → ∃ old e, r.first = .seen old e ∧ e.toChange old = .ok r.change

end RecordedEdit

/-- The text of the last second half. -/
def lastText? (halves : List EditHalf) : Option String :=
  (halves.filterMap fun
    | .first _ => none
    | .second new => some new).getLast?

namespace PendingChanges

/-! ## No changes, or one whole text -/

theorem record_none (events : List Change) (half : EditHalf) :
    record ⟨.none, events, false⟩ half = ⟨.none, events, false⟩ := by
  cases half with
  | first half => cases half <;> rfl
  | second new => rfl

theorem foldl_record_none (events : List Change) (halves : List EditHalf) :
    halves.foldl record ⟨.none, events, false⟩ = ⟨.none, events, false⟩ := by
  induction halves with
  | nil => rfl
  | cons half halves ih => rw [List.foldl_cons, record_none, ih]

theorem flushes_none (run : List (List EditHalf)) :
    flushes ⟨.none, [], false⟩ run = run.map fun _ => [] := by
  induction run with
  | nil => rfl
  | cons halves run ih =>
    rw [flushes, foldl_record_none, List.map_cons, ← ih]
    rfl

/-- The last second half replaces all that waits. -/
theorem foldl_record_full (events : List Change) (halves : List EditHalf) :
    halves.foldl record ⟨.full, events, false⟩ =
      ⟨.full, ((lastText? halves).map fun new => [.full new]).getD events, false⟩ := by
  induction halves using List.reverseRecOn with
  | nil => rfl
  | append_singleton halves half ih =>
    rw [List.foldl_append, ih]
    cases half with
    | first half =>
      have hlast : lastText? (halves ++ [.first half]) = lastText? halves := by simp [lastText?]
      rw [hlast]
      cases half <;> rfl
    | second new =>
      have hlast : lastText? (halves ++ [.second new]) = some new := by simp [lastText?]
      rw [hlast]
      rfl

theorem flushes_full (run : List (List EditHalf)) :
    flushes ⟨.full, [], false⟩ run = run.map fun halves => (lastText? halves).toList.map .full := by
  induction run with
  | nil => rfl
  | cons halves run ih =>
    rw [flushes, foldl_record_full, List.map_cons, ← ih]
    cases lastText? halves <;> rfl

/-! ## A change for each edit -/

theorem record_first (events : List Change) (half : FirstHalf) :
    record ⟨.incremental, events, false⟩ (.first half) =
      ⟨.incremental, events ++ half.change?.toList, half.change?.isNone⟩ := by
  cases half with
  | unseen => simp [record, recordUnseenBefore, FirstHalf.change?]
  | seen old e =>
    simp only [record, recordBefore, FirstHalf.change?]
    cases e.toChange old <;> simp [Except.toOption]

/-- Both halves of an edit add its change, and leave nothing to be made up for. -/
theorem record_halves (events : List Change) (r : RecordedEdit) :
    r.halves.foldl record ⟨.incremental, events, false⟩ =
      ⟨.incremental, events ++ [r.change], false⟩ := by
  rw [RecordedEdit.halves, List.foldl_cons, List.foldl_cons, List.foldl_nil, record_first,
    RecordedEdit.change]
  cases r.first.change? <;> simp [record, recordAfter]

theorem foldl_record_halves (events : List Change) (edits : List RecordedEdit) :
    (edits.flatMap RecordedEdit.halves).foldl record ⟨.incremental, events, false⟩ =
      ⟨.incremental, events ++ edits.map RecordedEdit.change, false⟩ := by
  induction edits generalizing events with
  | nil => simp
  | cons r edits ih => simp [List.foldl_append, record_halves, ih]

/-- Between two edits a flush takes one change for each edit since the last one. -/
theorem flushes_between (run : List (List RecordedEdit)) :
    flushes ⟨.incremental, [], false⟩ (run.map (·.flatMap RecordedEdit.halves)) =
      run.map (·.map RecordedEdit.change) := by
  induction run with
  | nil => rfl
  | cons edits run ih =>
    rw [List.map_cons, flushes, foldl_record_halves, List.nil_append, List.map_cons, ← ih]
    rfl

/-- What a half adds does not depend on what waits. -/
theorem record_adds (due : Bool) (half : EditHalf) : ∃ added left, ∀ events,
    record ⟨.incremental, events, due⟩ half = ⟨.incremental, events ++ added, left⟩ := by
  cases half with
  | first half =>
    cases half with
    | unseen => exact ⟨[], true, fun events => by simp [record, recordUnseenBefore]⟩
    | seen old e =>
      cases hchange : e.toChange old with
      | ok c => exact ⟨[c], due, fun events => by simp [record, recordBefore, hchange]⟩
      | error fault => exact ⟨[], true, fun events => by simp [record, recordBefore, hchange]⟩
  | second new =>
    cases due with
    | true => exact ⟨[.full new], false, fun events => by simp [record, recordAfter]⟩
    | false => exact ⟨[], false, fun events => by simp [record, recordAfter]⟩

theorem foldl_record_adds (due : Bool) (halves : List EditHalf) : ∃ added left, ∀ events,
    halves.foldl record ⟨.incremental, events, due⟩ = ⟨.incremental, events ++ added, left⟩ := by
  induction halves generalizing due with
  | nil => exact ⟨[], due, fun events => by rw [List.append_nil, List.foldl_nil]⟩
  | cons half halves ih =>
    obtain ⟨first, next, hfirst⟩ := record_adds due half
    obtain ⟨others, left, hothers⟩ := ih next
    refine ⟨first ++ others, left, fun events => ?_⟩
    rw [List.foldl_cons, hfirst, hothers, List.append_assoc]

/-- Flushes take, one after the other, what a single one at the end would have taken. -/
theorem flatten_flushes (due : Bool) (run : List (List EditHalf)) :
    (flushes ⟨.incremental, [], due⟩ run).flatten =
      (run.flatten.foldl record ⟨.incremental, [], due⟩).events := by
  induction run generalizing due with
  | nil => rfl
  | cons halves run ih =>
    obtain ⟨added, left, hadded⟩ := foldl_record_adds due halves
    obtain ⟨others, last, hothers⟩ := foldl_record_adds left run.flatten
    have hrest : (flushes ⟨.incremental, [], left⟩ run).flatten = others := by
      rw [ih, hothers, List.nil_append]
    rw [flushes, hadded, List.flatten_cons, List.flatten_cons, List.foldl_append, hadded, hothers,
      ← hrest]
    rfl

end PendingChanges

/-! ## The change of an edit -/

theorem change_of_unmeasured {r : RecordedEdit} (h : r.Unmeasured) : r.change = .full r.new := by
  obtain ⟨half, new⟩ := r
  cases half with
  | unseen => rfl
  | seen old e =>
    obtain ⟨fault, hfault⟩ := h
    have hchange : e.toChange old = .error fault := Edit.toChange_fails_iff.mpr hfault
    simp [RecordedEdit.change, FirstHalf.change?, hchange, Except.toOption]

theorem change_of_measured {r : RecordedEdit} (h : ¬ r.Unmeasured) :
    ∃ old e, r.first = .seen old e ∧ e.toChange old = .ok r.change := by
  obtain ⟨half, new⟩ := r
  cases half with
  | unseen => exact absurd trivial h
  | seen old e =>
    refine ⟨old, e, rfl, ?_⟩
    cases hchange : e.toChange old with
    | error fault => exact absurd ⟨fault, Edit.toChange_fails_iff.mp hchange⟩ h
    | ok c => simp [RecordedEdit.change, FirstHalf.change?, hchange, Except.toOption]

theorem isFull_toChange {e : Edit} {old : String} {c : Change} (h : e.toChange old = .ok c) :
    c.isFull = false := by
  rw [Edit.toChange] at h
  cases hcut : e.cut old.toList with
  | error fault =>
    rw [hcut] at h
    cases h
  | ok parts =>
    rw [hcut] at h
    cases h
    rfl

theorem RecordedEdit.shaped (r : RecordedEdit) : r.Shaped where
  isFull := by
    constructor
    · intro hfull
      by_contra hmeasured
      obtain ⟨old, e, -, hchange⟩ := change_of_measured hmeasured
      rw [isFull_toChange hchange] at hfull
      cases hfull
    · intro h
      rw [change_of_unmeasured h]
      rfl
  whole := change_of_unmeasured
  measured := change_of_measured

/-! ## Whole runs -/

/-- What the flushes of a run take, each of them after the halves in front of it. -/
structure Flushed (run : List (List EditHalf)) : Prop where
  none : (PendingChanges.fresh .none).flushes run = run.map fun _ => []
  full : (PendingChanges.fresh .full).flushes run =
    run.map fun halves => (lastText? halves).toList.map .full
  /-- No flush comes between the halves of an edit. -/
  incremental : ∀ edits : List (List RecordedEdit),
    run = edits.map (·.flatMap RecordedEdit.halves) →
    (PendingChanges.fresh .incremental).flushes run = edits.map (·.map RecordedEdit.change)
  /-- Flushes come anywhere, and the last edit may lack its second half: every change is taken, and
  none twice. -/
  once : ∀ (edits : List RecordedEdit) (half : Option FirstHalf),
    run.flatten = edits.flatMap RecordedEdit.halves ++ half.toList.map .first →
    ((PendingChanges.fresh .incremental).flushes run).flatten =
      edits.map RecordedEdit.change ++ (half.bind FirstHalf.change?).toList
  /-- An edit that cannot be measured makes no other one send a whole text. -/
  shapes : ∀ r : RecordedEdit, r.Shaped

theorem flushed (run : List (List EditHalf)) : Flushed run where
  none := PendingChanges.flushes_none run
  full := PendingChanges.flushes_full run
  incremental edits hrun := by
    rw [hrun]
    exact PendingChanges.flushes_between edits
  once edits half hrun := by
    have hflatten := PendingChanges.flatten_flushes false run
    rw [hrun, List.foldl_append, PendingChanges.foldl_record_halves, List.nil_append] at hflatten
    rw [PendingChanges.fresh, hflatten]
    cases half with
    | none => exact (List.append_nil _).symm
    | some half =>
      simp only [Option.toList_some, List.map_cons, List.map_nil, List.foldl_cons, List.foldl_nil,
        PendingChanges.record_first, Option.bind_some]
  shapes := RecordedEdit.shaped

/-- A flush between the halves of an edit leaves the whole text that is due to the next one. -/
example : (PendingChanges.fresh .incremental).flushes
    [[.first (.seen "é" (.insertion 1 "!"))],
      [.second "é!", .first (.seen "é!" (.insertion 3 "?")), .second "é!?"]] =
    [[], [.full "é!", .incremental (.empty ⟨0, 2⟩) 0 "?"]] := by decide

end DocSync
