import DocSync.Proofs.Document.Farewell

/-!
# Nothing stays open unknown

A document that is closed while it waits for its opening says goodbye as long as the session is
active. If the session is not active then, for example because it has not started yet, the opening
is handed over later all the same, and the server never hears of the closing.
-/
namespace DocSync

namespace Client

/-- A run that never closes a document which is opening while the session is inactive. -/
def Considerate (env : Environment) (id : DocumentId) (ms : List Move) : Prop :=
  ∀ before, before ++ [.act (.document id .close)] <+: ms →
    ∀ d ∈ ((start env).play before).documents, d.id = id → d.phase = .opening →
      ((start env).play before).env.session.active = true

theorem Considerate.left {env : Environment} {id : DocumentId} {ms ns : List Move}
    (h : Considerate env id (ms ++ ns)) : Considerate env id ms :=
  fun before hbefore => h before (hbefore.trans (List.prefix_append _ _))

theorem Considerate.last {env : Environment} {ms : List Move} {m : Move} {d : Document}
    (h : Considerate env d.id (ms ++ [m])) (hd : d ∈ ((start env).play ms).documents)
    (hm : m = .act (.document d.id .close)) (hp : d.phase = .opening) :
    ((start env).play ms).env.session.active = true := by
  subst hm
  exact h ms List.prefix_rfl d hd rfl hp

theorem parts_play {env : Environment} {ms : List Move} {d : Document}
    (h : Considerate env d.id ms) (hd : d ∈ ((start env).play ms).documents)
    (ho : d.policy.openClose = true) : d.Parts (((start env).play ms).log d.id) := by
  induction ms using List.reverseRecOn generalizing d with
  | nil => simp [start] at hd
  | append_singleton ms m ih =>
    have hsound := sound_play env ms
    rw [play_concat] at hd ⊢
    rcases hsound.source hd with ⟨e, he, l, hcourse, hlog, hid⟩ | ⟨hnew, -, -, -⟩
    · have hpolicy : e.policy = d.policy := by
        rw [hcourse.sameText.policy, Document.work_policy]
      rw [← hid] at h
      rw [← hpolicy] at ho
      obtain ⟨⟨⟨hkeeps, -⟩, -⟩, hheard⟩ := Document.heard_invariant.play env ms e he
      rw [hlog, ← hid]
      exact ((ih h.left he ho).work hkeeps hheard ho (h.last he)).course hcourse
    · intro hp
      rw [hnew] at hp
      cases hp

/-- Whenever an opening is handed over, its document is not closed, or the closing is queued behind
it; and there it stays until it is handed over, unless the opening fails. -/
theorem farewell {env : Environment} {ms : List Move} {m : Move} {d : Document}
    (h : Considerate env d.id (ms ++ [m])) (hd : d ∈ ((start env).play ms).documents)
    (ho : d.policy.openClose = true) (hbefore : ¬ (((start env).play ms).log d.id).Opened)
    (hafter : (((start env).play (ms ++ [m])).log d.id).Opened) :
    ((m.work ((start env).play ms).env.session.active d).phase ≠ .closed ∨
      ∃ uri, Notification.didClose uri ∈
        (m.work ((start env).play ms).env.session.active d).queue.map Outgoing.notification) ∧
    ∀ d' ∈ ((start env).play (ms ++ [m])).documents, d'.id = d.id → d'.phase = .closed →
      d'.isRefused = true ∨ ∃ uri, Notification.didClose uri ∈
        d'.ledger (((start env).play (ms ++ [m])).log d.id) := by
  have hsound := sound_play env ms
  rw [play_concat] at hafter ⊢
  obtain ⟨d', hd', hid⟩ : ∃ d' ∈ (((start env).play ms).move m).documents, d'.id = d.id :=
    (hsound.move m).speaker fun hnil => by simp [hnil, Log.Opened] at hafter
  rcases hsound.source hd' with ⟨e, he, l, hcourse, hlog, heid⟩ | ⟨-, hfresh, -⟩
  · obtain rfl := eq_of_id hsound.distinct he hd (heid.trans hid)
    rw [hid] at hlog
    rw [hlog] at hafter ⊢
    obtain ⟨⟨hall, -⟩, hheard⟩ := Document.heard_invariant.play env ms e he
    have hpaced : (m.work ((start env).play ms).env.session.active e).Paced
        (((start env).play ms).log e.id) ((start env).play ms).env.now :=
      (Document.paced_invariant.work hall m).2
    obtain ⟨n, hwaiting, -⟩ := Document.waiting_of_opened hpaced hcourse hbefore hafter
    have hparts : (m.work ((start env).play ms).env.session.active e).Parts
        (((start env).play ms).log e.id) :=
      (parts_play h.left hd ho).work hall.1 hheard ho (h.last he)
    have hqueued := hparts.queued hpaced hwaiting
    refine ⟨?_, fun d'' hd'' hid'' hclosed => ?_⟩
    · by_cases hclosed : (m.work ((start env).play ms).env.session.active e).phase = .closed
      · exact .inr (hqueued hclosed)
      · exact .inl hclosed
    · obtain rfl := eq_of_id (hsound.move m).distinct hd'' hd' (hid''.trans hid.symm)
      rcases hcourse.ledger (((start env).play ms).log e.id) with heq | hr
      · obtain ⟨uri, hmem⟩ := hqueued (hcourse.closed.mp hclosed)
        rw [heq, Document.ledger,
          Document.unsent_eq_backlog (by simp [Document.isRefused, hwaiting])]
        exact .inr ⟨uri, List.mem_append_right _ (List.mem_append_right _ hmem)⟩
      · exact .inl hr
  · rw [hid] at hfresh
    exact absurd (hfresh ▸ mem_ids hd) (hsound.freshId_notMem d'.uri)

/-- A document that is closed before the session is ready. -/
def overdue (active : Bool) : List Move :=
  let id : DocumentId := ⟨⟨"file:///a"⟩, 0⟩
  [.create id.uri "text" ⟨.full, true, .disabled⟩ {} "a" none,
    .act (.shared (.happen (.setSession .held))), .act (.document id .beginOpen),
    .act (.shared (.happen (.setActive active))), .act (.document id .close),
    .act (.shared (.happen (.setActive true)))]

def readied : Move := .act (.shared (.happen (.setSession .ready)))

theorem considerate_overdue : Considerate plain ⟨⟨"file:///a"⟩, 0⟩ (overdue true ++ [readied]) := by
  intro before hbefore d hd hid hopening
  have hactive : ∀ k ≤ 7, ((start plain).play
      ((overdue true ++ [readied]).take k)).env.session.active = true := by decide
  have hprefix : before <+: overdue true ++ [readied] := (List.prefix_append _ _).trans hbefore
  rw [List.prefix_iff_eq_take.mp hprefix]
  exact hactive _ hprefix.length_le

theorem farewell_overdue : ∃ d ∈ ((start plain).play (overdue true)).documents,
    (readied.work true d).phase = .closed ∧ ∃ uri, Notification.didClose uri ∈
      (readied.work true d).queue.map Outgoing.notification := by
  obtain ⟨d, hd, hid, ho, hbefore, hafter, hactive, hclosed⟩ :
      ∃ d ∈ ((start plain).play (overdue true)).documents, d.id = ⟨⟨"file:///a"⟩, 0⟩ ∧
        d.policy.openClose = true ∧ ¬ (((start plain).play (overdue true)).log d.id).Opened ∧
        (((start plain).play (overdue true ++ [readied])).log d.id).Opened ∧
        ((start plain).play (overdue true)).env.session.active = true ∧
        (readied.work true d).phase = .closed := by decide
  refine ⟨d, hd, hclosed, ?_⟩
  have hqueued := (farewell (hid ▸ considerate_overdue) hd ho hbefore hafter).1
  rw [hactive] at hqueued
  exact hqueued.resolve_left fun hopen => hopen hclosed

/-- Closed while the session is inactive, a document is opened on the server, and then nothing is
ever said of it. -/
theorem farewell_inactive : ∃ d ∈ ((start plain).play (overdue false)).documents,
    d.policy.openClose = true ∧ d.phase = .closed ∧ d.queue = [] ∧
      ¬ (((start plain).play (overdue false)).log d.id).Opened ∧
      ∃ d' ∈ ((start plain).play (overdue false ++ [readied])).documents, d'.id = d.id ∧
        (((start plain).play (overdue false ++ [readied])).log d'.id).Opened ∧
        d'.ledger (((start plain).play (overdue false ++ [readied])).log d'.id) =
          [.didOpen ⟨"file:///a"⟩ "text" ⟨1⟩ "a"] := by
  decide

end Client

end DocSync
