import DocSync.Proofs.Text.Place
import DocSync.Text.PendingChanges

/-!
# Changes follow edits

The change that an edit is reported as does to a text what the edit does, and fails on the same
texts. Changes that are replayed one after the other may be replayed in parts.
-/
namespace DocSync

/-- A change replaces the part of a text that its span leads to. -/
theorem Change.apply_between {old : String} {before replaced after : List Char}
    (h : old.toList = before ++ (replaced ++ after)) (units : Nat) (new : String) :
    Change.apply old (.incremental
        ⟨.between before (replaced ++ after), .between (before ++ replaced) after⟩ units new) =
      .ok (String.ofList (before ++ new.toList ++ after)) := by
  have hstart : splitPosition old.toList (.between before (replaced ++ after)) =
      .ok (before, replaced ++ after) := by
    rw [h, splitPosition_between]
  have hstop : splitPosition old.toList (.between (before ++ replaced) after) =
      .ok (before ++ replaced, after) := by
    rw [h, ← List.append_assoc, splitPosition_between]
  have hlength : ¬ byteLength (replaced ++ after) < byteLength after := by
    rw [byteLength_append]
    omega
  simp [Change.apply, hstart, hstop, hlength, bind, Except.bind]

namespace Edit

theorem cut_append {e : Edit} {text before replaced after : List Char}
    (h : e.cut text = .ok (before, replaced, after)) : text = before ++ (replaced ++ after) := by
  unfold cut at h
  split at h
  · cases h
  · split at h
    · cases h
    · rename_i start rest hstart
      split at h
      · cases h
      · rename_i gone left hgone
        simp only [Except.ok.injEq, Prod.mk.injEq] at h
        obtain ⟨rfl, rfl, rfl⟩ := h
        rw [splitBytes_append hstart, splitBytes_append hgone]

/-- The change that an edit is reported as does what the edit does. -/
theorem apply_toChange {e : Edit} {old : String} {c : Change} (h : e.toChange old = .ok c) :
    c.apply old = e.apply old := by
  unfold toChange at h
  unfold apply
  cases hcut : e.cut old.toList with
  | error fault =>
    rw [hcut] at h
    cases h
  | ok parts =>
    obtain ⟨before, replaced, after⟩ := parts
    rw [hcut] at h
    simp only [Except.map, Except.ok.injEq] at h
    subst h
    exact Change.apply_between (cut_append hcut) _ e.newText

theorem apply_ok {e : Edit} {old : String} {c : Change} (h : e.toChange old = .ok c) :
    ∃ new, e.apply old = .ok new := by
  unfold toChange at h
  unfold apply
  cases hcut : e.cut old.toList with
  | error fault =>
    rw [hcut] at h
    cases h
  | ok parts => exact ⟨_, rfl⟩

end Edit

namespace Change

theorem replay_append (old : String) (cs ds : List Change) :
    replay old (cs ++ ds) = (replay old cs).bind fun text => replay text ds := by
  induction cs generalizing old with
  | nil => rfl
  | cons c cs ih =>
    simp only [List.cons_append, replay, bind]
    cases c.apply old with
    | error e => rfl
    | ok text => exact ih text

theorem replay_concat {old text new : String} {cs : List Change} {c : Change}
    (h : replay old cs = .ok text) (hc : c.apply text = .ok new) :
    replay old (cs ++ [c]) = .ok new := by
  rw [replay_append, h]
  simp [Except.bind, replay, hc, bind]

/-- What can be replayed can be replayed up to any point. -/
theorem replay_prefix {old text : String} {cs ds : List Change}
    (h : replay old (cs ++ ds) = .ok text) : ∃ middle, replay old cs = .ok middle := by
  rw [replay_append] at h
  cases hcs : replay old cs with
  | error e =>
    rw [hcs] at h
    cases h
  | ok middle => exact ⟨middle, rfl⟩

end Change

/-- Whether a text is what an edit may leave behind: what the edit makes of the old text, or any
text if the edit fails on it. -/
def Edit.Leaves (e : Edit) (old new : String) : Prop := ∀ text, e.apply old = .ok text → new = text

namespace PendingChanges

variable {p : PendingChanges} {opening old text : String} {cs : List Change}

/-- After the first half of an edit the changes lead to where the edit leads, or a whole text is
due, or will replace them. -/
theorem replay_recordBefore (h : Change.replay opening (cs ++ p.events) = .ok old) (e : Edit) :
    ∃ text, Change.replay opening (cs ++ (p.recordBefore old e).events) = .ok text ∧
      (p.kind = .incremental → (p.recordBefore old e).resync = true ∨ e.apply old = .ok text) := by
  unfold recordBefore
  cases hk : p.kind with
  | none => exact ⟨old, h, by simp⟩
  | full => exact ⟨old, h, by simp⟩
  | incremental =>
    cases hc : e.toChange old with
    | error fault => exact ⟨old, h, fun _ => .inl rfl⟩
    | ok c =>
      obtain ⟨new, hnew⟩ := Edit.apply_ok hc
      have hchange : c.apply old = .ok new := (Edit.apply_toChange hc).trans hnew
      refine ⟨new, ?_, fun _ => .inr hnew⟩
      dsimp only
      rw [← List.append_assoc]
      exact Change.replay_concat h hchange

/-- After the second half of an edit the changes lead to the new text. -/
theorem replay_recordAfter (h : Change.replay opening (cs ++ p.events) = .ok text)
    (hk : p.kind ≠ .none) {e : Edit}
    (ht : p.kind = .incremental → p.resync = true ∨ e.apply old = .ok text) {new : String}
    (hnew : e.Leaves old new) :
    Change.replay opening (cs ++ (p.recordAfter new).events) = .ok new := by
  unfold recordAfter
  cases hkind : p.kind with
  | none => exact absurd hkind hk
  | full =>
    obtain ⟨middle, hmiddle⟩ := Change.replay_prefix h
    exact Change.replay_concat hmiddle rfl
  | incremental =>
    dsimp only
    split
    · dsimp only
      rw [← List.append_assoc]
      exact Change.replay_concat h rfl
    · rename_i hresync
      rcases ht hkind with hr | happly
      · exact absurd hr hresync
      · rw [hnew text happly]
        exact h

end PendingChanges

end DocSync
