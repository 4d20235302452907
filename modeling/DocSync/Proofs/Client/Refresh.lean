import DocSync.Proofs.Client.View

/-!
# What a refresh does

A refresh of an open document pulls at once. For a document that is being opened it leaves the pull
for after the handshake. Nothing else comes of a refresh: no document changes otherwise, and refreshes
of other documents pull the same as before.
-/
namespace DocSync

namespace Client

/-- A refresh leaves nothing for the document to go on with. -/
theorem Sound.refresh_put {c : Client} (h : c.Sound) {d : Document} (hd : d ∈ c.documents)
    (origin : RefreshOrigin) :
    c.move (.act (.document d.id (.refresh origin))) = c.put (Turn.refresh ⟨d, c.env⟩ origin) := by
  have hstep : c.move (.act (.document d.id (.refresh origin))) =
      (c.performOn d (.refresh origin)).1 := by
    simp [Client.move, step, perform, find?_of_mem h.distinct hd]
  rw [hstep, performOn_eq h.distinct h.rests hd]
  obtain ⟨hdoc, he⟩ := Turn.refresh_spec ⟨d, c.env⟩ origin
  have hrest := h.rests d hd
  -- What is left for after the handshake is left while its outcome is still to come.
  have hserved (hk : d.handshakeOutcome? = some (.ok ())) :
      d.waiting ++ (d.leavesFor c.env.feature.supported origin).toList = [] := by
    have hopening : d.phase ≠ .opening := fun hp => (h.calm d hd).undecided hp hk
    have hwaiting : d.waiting = [] := hrest.served hk
    simp [hwaiting, Document.leavesFor, hopening]
  have hleft : Turn.Rests ⟨(Turn.refresh ⟨d, c.env⟩ origin).doc, c.env⟩ := by
    rw [hdoc]
    exact ⟨⟨hrest.waiting, hrest.settling, hrest.idle, hrest.held, hrest.refused⟩, hserved,
      hrest.timer⟩
  exact congrArg c.put (Turn.progress_of_rests (hleft.world he.world))

theorem Sound.refresh_idle {c : Client} (h : c.Sound) {d : Document} (hd : d ∈ c.documents)
    {origin : RefreshOrigin} (hpulls : d.pullsFor c.env.feature.supported origin = none)
    (hleaves : d.leavesFor c.env.feature.supported origin = none) :
    c.move (.act (.document d.id (.refresh origin))) = c := by
  rw [h.refresh_put hd, Turn.refresh_idle hpulls hleaves, put_self h.distinct hd]

/-- A refresh changes no document, but for the pull that it leaves for after the handshake. -/
theorem Sound.find?_refresh {c : Client} (h : c.Sound) (id other : DocumentId)
    (origin : RefreshOrigin) :
    (c.move (.act (.document id (.refresh origin)))).find? other =
      if other = id then
        (c.find? id).map fun d => { d with
          waiting := d.waiting ++ (d.leavesFor c.env.feature.supported origin).toList }
      else c.find? other := by
  cases hf : c.find? id with
  | none =>
    rw [move_of_unknown hf]
    split
    · rename_i hid
      rw [hid, hf]
      rfl
    · rfl
  | some d =>
    obtain ⟨hd, rfl⟩ := find?_eq_some hf
    obtain ⟨hdoc, -⟩ := Turn.refresh_spec ⟨d, c.env⟩ origin
    rw [h.refresh_put hd, find?_put, hdoc]
    by_cases hid : other = d.id
    · subst hid
      rw [if_pos rfl, if_pos rfl, hf]
      rfl
    · rw [if_neg hid, if_neg hid]

/-- The pull that a refresh makes at once, as it joins the history. -/
def refreshPull? (c : Client) (origin : RefreshOrigin) (id : DocumentId) : Option Entry :=
  ((c.find? id).bind fun d => d.pullsFor c.env.feature.supported origin).map fun v =>
    ⟨c.env.now, id, .pulled .refreshed v ⟨id.uri, c.env.feature.identifier⟩⟩

/-- What a refresh adds to the history. -/
theorem Sound.history_refresh {c : Client} (h : c.Sound) (origin : RefreshOrigin) (id : DocumentId) :
    (c.move (.act (.document id (.refresh origin)))).env.history =
      c.env.history ++ (c.refreshPull? origin id).toList := by
  unfold refreshPull?
  cases hf : c.find? id with
  | none => simp [move_of_unknown hf]
  | some d =>
    obtain ⟨hd, rfl⟩ := find?_eq_some hf
    obtain ⟨-, he⟩ := Turn.refresh_spec ⟨d, c.env⟩ origin
    rw [h.refresh_put hd]
    refine he.history.trans (congrArg (c.env.history ++ ·) ?_)
    rw [Option.bind_some]
    cases d.pullsFor c.env.feature.supported origin <;> rfl

/-- A refresh has no effect on what other refreshes pull. -/
theorem Sound.refreshPull?_refresh {c : Client} (h : c.Sound) (origin : RefreshOrigin)
    (id : DocumentId) :
    (c.move (.act (.document id (.refresh origin)))).refreshPull? origin = c.refreshPull? origin := by
  have hworld := h.world (.act (.document id (.refresh origin)))
  have hnow : (c.move (.act (.document id (.refresh origin)))).env.now = c.env.now := hworld.now
  have hfeature : (c.move (.act (.document id (.refresh origin)))).env.feature = c.env.feature :=
    hworld.feature
  funext other
  unfold refreshPull?
  rw [h.find?_refresh, hnow, hfeature]
  by_cases hid : other = id
  · rw [if_pos hid, hid]
    cases c.find? id <;> rfl
  · rw [if_neg hid]

theorem Sound.history_refreshes {c : Client} (h : c.Sound) (origin : RefreshOrigin)
    (ids : List DocumentId) :
    (c.play (ids.map fun id => .act (.document id (.refresh origin)))).env.history =
      c.env.history ++ ids.filterMap (c.refreshPull? origin) := by
  induction ids generalizing c with
  | nil => exact (List.append_nil _).symm
  | cons id ids ih =>
    rw [List.map_cons, play_cons, ih (h.move _), h.history_refresh, h.refreshPull?_refresh,
      List.append_assoc, List.filterMap_cons]
    cases c.refreshPull? origin id <;> rfl

end Client

end DocSync
