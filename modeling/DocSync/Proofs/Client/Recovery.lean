import DocSync.Proofs.Client.Lockstep
import DocSync.Proofs.Client.Versions
import DocSync.Proofs.Document.Recovery

/-!
# Recovery from lost changes

A server that misses a change is in step again with the next whole text. So a run by the rules of
editing keeps a server in step that is sent whole texts only, whatever is lost; and a server that is
sent spans as long as it can follow. Nothing sees to that, though: what is sent after a loss is the
next span, for a text that the server does not have.
-/
namespace DocSync

namespace Client

open Document (Keeps Mirrors)

theorem tracks_emptied {d : Document} {ns : List Notification} {s : Typing} (h : d.Tracks ns s)
    (he : d.pending.events = []) :
    ∃ text, Reproduces ns [] text ∧ (s = .whole → text = d.buffer) := by
  cases s with
  | whole => exact ⟨d.buffer, he ▸ h, fun _ => rfl⟩
  | half e old =>
    obtain ⟨text, htext, -⟩ := h
    exact ⟨text, he ▸ htext, by simp⟩

theorem tracks_flushed {d : Document} {l : Log} {s : Typing} (h : d.Tracks (d.ledger l) s)
    (ha : d.acceptsOutgoing = true) :
    d.flush.1.isRefused = false ∧
      ∃ text, Reproduces (d.flush.1.ledger l) [] text ∧ (s = .whole → text = d.flush.1.buffer) := by
  have hflushed : d.flush.1.acceptsOutgoing = true := by rwa [Document.flush_acceptsOutgoing]
  exact ⟨(Document.acceptsOutgoing_phase hflushed).2, tracks_emptied (h.flush ha) d.flush_events⟩

theorem Obeys.eq_of_apart {c : Client} {id : DocumentId} {s s' : Typing} {a : DocumentAction}
    (hm : Obeys c id s (.act (.document id a)) s') (ha : a.editsText = false) : s' = s := by
  cases hm with
  | other s hne a => rfl
  | apart s h => rfl
  | _ => cases ha

/-- When a version is stamped, what was queued alone leads to the text of that version. -/
theorem Obeys.stamped {c : Client} {d : Document} {l : Log} {s s' : Typing} {a : DocumentAction}
    (hm : Obeys c d.id s (.act (.document d.id a)) s') (hf : c.find? d.id = some d)
    (h : Mirrors d (d.ledger l) s) (hk : Keeps d (d.ledger l)) (ho : d.policy.openClose = true)
    (hkind : d.policy.kind ≠ .none) {active : Bool} (hstamps : a.stamps active d = true) :
    (a.work active d).isRefused = false ∧
      ∃ text, Reproduces ((a.work active d).ledger l) [] text ∧
        (s' = .whole → text = (a.work active d).buffer) := by
  cases a with
  | beginOpen =>
    obtain rfl := hm.eq_of_apart rfl
    simp only [DocumentAction.stamps, Bool.and_eq_true, beq_iff_eq] at hstamps
    obtain ⟨hp, -⟩ := hstamps
    have ha : d.beginOpen.acceptsOutgoing = true := by
      simp [Document.beginOpen_eq hp, ho, Document.acceptsOutgoing, Document.acceptsEdits,
        Document.isRefused]
    have hevents : d.beginOpen.pending.events = [] := by
      simp [Document.beginOpen_eq hp, ho, (h.unopened hp).1]
    exact ⟨(Document.acceptsOutgoing_phase ha).2,
      tracks_emptied ((h.beginOpen hk ho).alive ha) hevents⟩
  | edit e new =>
    cases hm with
    | other s hne => exact absurd rfl hne
    | apart s ha => cases ha
    | @edit d' hf' _ _ hnew =>
      obtain rfl := Option.some.inj (hf.symm.trans hf')
      cases ht : d.textAfter e new with
      | error fault => simp [DocumentAction.stamps, ht] at hstamps
      | ok text =>
        simp only [DocumentAction.stamps, ht, Document.flushes, Bool.and_eq_true] at hstamps
        obtain ⟨ha, -⟩ := hstamps
        have htyped : Mirrors (d.type e text) ((d.type e text).ledger l) .whole := by
          rw [ledger_type]
          exact h.type (hk.kind ▸ hkind) (textAfter_leaves hnew ht)
        have hwork : (DocumentAction.edit e new).work active d = (d.type e text).flush.1 := by
          simp only [DocumentAction.work, ht]
        rw [hwork]
        exact tracks_flushed (htyped.alive ha) ha
  | flush =>
    obtain rfl := hm.eq_of_apart rfl
    simp only [DocumentAction.stamps, Document.flushes, Bool.and_eq_true] at hstamps
    obtain ⟨ha, -⟩ := hstamps
    exact tracks_flushed (h.alive ha) ha
  | save =>
    obtain rfl := hm.eq_of_apart rfl
    simp only [DocumentAction.stamps, Document.flushes, Bool.and_eq_true, bne_iff_ne] at hstamps
    obtain ⟨⟨hactive, hsave⟩, ha, -⟩ := hstamps
    obtain ⟨hrefused, text, htext, hsame⟩ := tracks_flushed (h.alive ha) ha
    rw [DocumentAction.work, Document.save_fst_of_acceptsOutgoing ha hsave hactive,
      Document.ledger_push (by simpa using ha)]
    exact ⟨hrefused, text, htext.concat rfl, hsame⟩
  | close =>
    obtain rfl := hm.eq_of_apart rfl
    simp only [DocumentAction.stamps, Document.flushes, Bool.and_eq_true] at hstamps
    obtain ⟨⟨hactive, -⟩, ha, -⟩ := hstamps
    obtain ⟨hrefused, text, htext, hsame⟩ := tracks_flushed (h.alive ha) ha
    rw [DocumentAction.work, Document.close_fst, if_neg (Document.acceptsOutgoing_open ha),
      if_pos (by simp [ha, ho, hactive]), Document.ledger_shut,
      Document.ledger_push (by simpa using ha)]
    exact ⟨hrefused, text, htext.concat rfl, hsame⟩
  | _ => cases hstamps

/-- A move that has a document stamp a version, after the run before it. -/
structure Stamping (env : Environment) (ms : List Move) (m : Move) (e : Document) (v : Version) :
    Prop where
  mem : e ∈ ((start env).play ms).documents
  stamps : m.stamps ((start env).play ms).env.session.active e = true
  version : e.version.next = v

/-- Whatever version was spoken, a move stamped it. -/
theorem stamped_by {env : Environment} {id : DocumentId} {ms : List Move} {v : Version}
    (hv : v ∈ versionsOf ((start env).spoken id ms)) :
    ∃ ms₁ m ms₂ e, ms = ms₁ ++ m :: ms₂ ∧ Stamping env ms₁ m e v ∧ e.id = id := by
  induction ms using List.reverseRecOn with
  | nil => cases hv
  | append_singleton ms m ih =>
    rw [spoken_concat, versionsOf_append, List.mem_append] at hv
    rcases hv with hv | hv
    · obtain ⟨ms₁, m', ms₂, e, rfl, he⟩ := ih hv
      exact ⟨ms₁, m', ms₂ ++ [m], e, by simp, he⟩
    · have hf : ∃ e, ((start env).play ms).find? id = some e := by
        cases hf : ((start env).play ms).find? id with
        | none => simp [queues, hf, versionsOf] at hv
        | some e => exact ⟨e, rfl⟩
      obtain ⟨e, hf⟩ := hf
      obtain ⟨he, rfl⟩ := find?_eq_some hf
      have hbefore := speaks_play env ms e he
      have hafter := Speaks.queues (sound_play env ms).distinct he hbefore
        (Document.keeps_invariant.play env ms e he) m
      have hadded := hbefore.versionsOf_added hafter
        (m.work_version ((start env).play ms).env.session.active e)
      rw [hadded] at hv
      split at hv
      · rename_i hstamps
        exact ⟨ms, m, [], e, rfl, ⟨he, hstamps, (List.mem_singleton.mp hv).symm⟩, rfl⟩
      · cases hv

section Stamping

variable {env : Environment} {ms : List Move} {m : Move} {e : Document} {v : Version}
  (hs : Stamping env ms m e v)
include hs

theorem Stamping.counted :
    ∃ k : Nat, v = ⟨k⟩ ∧ versionsOf ((start env).spoken e.id (ms ++ [m])) = Version.upTo k := by
  have hafter := Speaks.queues (sound_play env ms).distinct hs.mem (speaks_play env ms e hs.mem)
    (Document.keeps_invariant.play env ms e hs.mem) m
  rw [← spoken_concat] at hafter
  refine ⟨_, ?_, hafter.versions⟩
  rw [← hafter.version, Move.work_version, if_pos hs.stamps, hs.version]

/-- What was queued up to the stamping leads to the text that was stamped. -/
theorem Stamping.reproduces {s : Typing} (h : Follows env e.id (ms ++ [m]) s)
    (ho : e.policy.openClose = true) (hk : e.policy.kind ≠ .none) :
    ∃ text, Reproduces ((start env).spoken e.id (ms ++ [m])) [] text ∧
      (s = .whole → text = (m.work ((start env).play ms).env.session.active e).buffer) := by
  obtain ⟨a, rfl, ha⟩ := m.stamps_inv hs.stamps
  obtain ⟨before, hbefore, hm⟩ := h.concat_inv
  have hkeeps := Document.keeps_invariant.play env ms e hs.mem
  obtain ⟨hrefused, text, htext, hsame⟩ := hm.stamped
    (find?_of_mem (sound_play env ms).distinct hs.mem) (hbefore.mirrors hs.mem rfl ho hk) hkeeps
    ho hk ha
  refine ⟨text, ?_, ?_⟩
  · rwa [← ledger_work hs.mem a hrefused]
  · rwa [Move.work, if_pos rfl]

/-- A version that came through was the last of what was queued up to its stamping. -/
theorem Stamping.changes {ns ms' : List Move} {sent : List Notification} {n : Notification}
    (hns : ns = (ms ++ [m]) ++ ms') (hsent : sent ++ [n] <+: (start env).spoken e.id ns)
    (hn : n.version? = some v)
    (hspoken : versionsOf ((start env).spoken e.id ns) =
      Version.upTo (versionsOf ((start env).spoken e.id ns)).length) :
    (start env).spoken e.id (ms ++ [m]) <+: (start env).spoken e.id ns ∧
      changesOf (sent ++ [n]) = changesOf ((start env).spoken e.id (ms ++ [m])) := by
  obtain ⟨k, rfl, hversions⟩ := hs.counted
  have hqueued : (start env).spoken e.id (ms ++ [m]) <+: (start env).spoken e.id ns := by
    rw [hns, spoken_append _ _ (ms ++ [m])]
    exact List.prefix_append _ _
  refine ⟨hqueued, changesOf_eq hsent hqueued ?_⟩
  rw [hversions, Document.versionsOf_concat hsent hspoken hn]

end Stamping

theorem policy_play (env : Environment) {ms ns : List Move} {d e : Document}
    (he : e ∈ ((start env).play ms).documents) (hd : d ∈ ((start env).play (ms ++ ns)).documents)
    (hid : e.id = d.id) : d.policy = e.policy := by
  rw [play_append] at hd
  refine (sound_play env ms).lasting (P := fun f => f.policy = e.policy) ?_ ?_ he rfl ns d hd
    hid.symm
  · exact fun hcall hf => hcall.setup.1.trans hf
  · exact fun hcourse hf => hcourse.sameText.policy.trans hf

/-- What came through leads, with every change that came through, to the text that was stamped with
it, if the server is sent whole texts, or if it can follow. Spans have lines and characters without a
bound here, and are those of a message as long as every text has less than `2 ^ 32` bytes. -/
theorem recovery {env : Environment} {ms : List Move} {d : Document} {s : Typing}
    (h : Follows env d.id ms s) (hd : d ∈ ((start env).play ms).documents)
    (ho : d.policy.openClose = true) (hk : d.policy.kind ≠ .none)
    {before after : List Outcome} {uri : Uri} {v : Version} {changes : List Change}
    (hl : (((start env).play ms).log d.id).outcomes =
      before ++ (.didChange uri v changes, none) :: after)
    (hm : d.policy.kind = .full ∨ Mended (before ++ [(.didChange uri v changes, none)]) false) :
    ∃ ms₁ m ms₂ e, ms = ms₁ ++ m :: ms₂ ∧ Stamping env ms₁ m e v ∧ e.id = d.id ∧
      ∃ text, Reproduces (received before ++ [.didChange uri v changes]) [] text ∧
        (Follows env d.id (ms₁ ++ [m]) .whole →
          text = (m.work ((start env).play ms₁).env.session.active e).buffer) := by
  obtain ⟨⟨hkeeps, -⟩, hsettles, hshaped⟩ := Document.settles_invariant.play env ms d hd
  have hspeaks := speaks_play env ms d hd
  have hsent : (before ++ [(Notification.didChange uri v changes, none)]).map Prod.fst <+:
      d.ledger (((start env).play ms).log d.id) := by
    rw [Document.ledger, hsettles.order, hl]
    simp
  have hmended : Mended (before ++ [(.didChange uri v changes, none)]) false := by
    rcases hm with hfull | hmended
    · have hmem : .didChange uri v changes ∈ d.ledger (((start env).play ms).log d.id) :=
        hsent.subset (by simp)
      exact hshaped.mended hsettles hfull hl (hkeeps.suits _ hmem).2.1
    · exact hmended
  have hbegins := hsent.trans hspeaks.ledger
  obtain ⟨ms₁, m, ms₂, e, hms, hs, hid⟩ : ∃ ms₁ m ms₂ e, ms = ms₁ ++ m :: ms₂ ∧
      Stamping env ms₁ m e v ∧ e.id = d.id :=
    stamped_by ((hbegins.filterMap _).subset (by simp [Notification.version?]))
  refine ⟨ms₁, m, ms₂, e, hms, hs, hid, ?_⟩
  have hcut : ms = (ms₁ ++ [m]) ++ ms₂ := by simp [hms]
  have hpolicy : d.policy = e.policy := policy_play env hs.mem (hms ▸ hd) hid
  rw [hpolicy] at ho hk
  rw [← hid] at h hbegins hspeaks ⊢
  rw [List.map_append] at hbegins
  -- What was handed over up to this version and what was queued until it was stamped end with the
  -- same version, so that they differ in nothing that has changes.
  obtain ⟨hqueued, hsame⟩ := hs.changes hcut hbegins rfl hspeaks.versions
  obtain ⟨_, hbefore⟩ := (hcut ▸ h).left
  obtain ⟨text, htext, -⟩ := hs.reproduces hbefore ho hk
  have hfirst : (received (before ++ [(.didChange uri v changes, none)])).head? =
      ((start env).spoken e.id (ms₁ ++ [m])).head? := by
    obtain ⟨uri', languageId, version, opening, rest, hopening, -⟩ := htext
    rw [hopening] at hqueued ⊢
    exact hsettles.first hl rfl hqueued (by rwa [List.map_append])
  have hreceived := hmended.reproduces htext (by rwa [List.map_append]) hfirst
  rw [received_append] at hreceived
  refine ⟨text, hreceived, fun hwhole => ?_⟩
  obtain ⟨other, hother, hbuffer⟩ := hs.reproduces hwhole ho hk
  rw [htext.unique hother, hbuffer rfl]

/-- Two edits, of which the first one does not get through. -/
def losing (kind : SyncKind) : List Move :=
  let id : DocumentId := ⟨⟨"file:///a"⟩, 0⟩
  [.create id.uri "text" ⟨kind, true, .disabled⟩ { settleMillis := 0 } "a" none,
    .act (.document id .beginOpen),
    .act (.shared (.happen (.failNext "textDocument/didChange" (.transport "broken")))),
    .act (.document id (.edit (.insertion 1 "b") none)),
    .act (.document id (.edit (.insertion 2 "c") none))]

theorem follows_losing (kind : SyncKind) :
    Follows plain ⟨⟨"file:///a"⟩, 0⟩ (losing kind) .whole := by
  have hcreate : Obeys ((start plain).play []) ⟨⟨"file:///a"⟩, 0⟩ .whole
      (.create ⟨"file:///a"⟩ "text" ⟨kind, true, .disabled⟩ { settleMillis := 0 } "a" none)
      .whole := .create .whole fun _ => .inl rfl
  have hbegin : DocumentAction.editsText .beginOpen = false := rfl
  have hopened := ((Follows.nil.concat hcreate).concat (.apart _ hbegin)).concat
    (.shared _ (.happen (.failNext "textDocument/didChange" (.transport "broken"))))
  cases kind <;> exact (hopened.concat (.edit rfl (by simp))).concat (.edit rfl (by simp))

theorem recovery_losing : ∃ d ∈ ((start plain).play (losing .full)).documents,
    ∃ text, Reproduces (received (((start plain).play (losing .full)).log d.id).outcomes) [] text ∧
      ∃ o ∈ (((start plain).play (losing .full)).log d.id).outcomes, o.2.isSome = true := by
  obtain ⟨d, hd, hid, ho, hk, hl, hlost⟩ : ∃ d ∈ ((start plain).play (losing .full)).documents,
      d.id = ⟨⟨"file:///a"⟩, 0⟩ ∧ d.policy.openClose = true ∧ d.policy.kind = .full ∧
        (((start plain).play (losing .full)).log d.id).outcomes =
          (((start plain).play (losing .full)).log d.id).outcomes.take 2 ++
            [(.didChange ⟨"file:///a"⟩ ⟨3⟩ [.full "abc"], none)] ∧
        ∃ o ∈ (((start plain).play (losing .full)).log d.id).outcomes, o.2.isSome = true := by
    decide
  obtain ⟨_, _, _, _, -, -, -, text, htext, -⟩ := recovery (hid ▸ follows_losing .full) hd ho
    (by simp [hk]) hl (.inl hk)
  refine ⟨d, hd, text, ?_, hlost⟩
  rw [hl, received_append]
  exact htext

/-- A span that was measured in a text that was lost. -/
theorem recovery_broken : Follows plain ⟨⟨"file:///a"⟩, 0⟩ (losing .incremental) .whole ∧
    ∃ d ∈ ((start plain).play (losing .incremental)).documents, d.id = ⟨⟨"file:///a"⟩, 0⟩ ∧
      d.policy.openClose = true ∧ d.policy.kind = .incremental ∧
      ¬ ∃ text, Reproduces
        (received (((start plain).play (losing .incremental)).log d.id).outcomes) [] text := by
  refine ⟨follows_losing .incremental, ?_⟩
  obtain ⟨d, hd, hid, ho, hk, hl⟩ : ∃ d ∈ ((start plain).play (losing .incremental)).documents,
      d.id = ⟨⟨"file:///a"⟩, 0⟩ ∧ d.policy.openClose = true ∧ d.policy.kind = .incremental ∧
        received (((start plain).play (losing .incremental)).log d.id).outcomes =
          [.didOpen ⟨"file:///a"⟩ "text" ⟨1⟩ "a",
            .didChange ⟨"file:///a"⟩ ⟨3⟩ [.incremental ⟨⟨0, 2⟩, ⟨0, 2⟩⟩ 0 "c"]] := by
    decide
  refine ⟨d, hd, hid, ho, hk, ?_⟩
  rw [hl]
  rintro ⟨text, uri, languageId, version, opening, rest, hns, hreplay⟩
  simp only [List.cons.injEq, Notification.didOpen.injEq] at hns
  obtain ⟨⟨-, -, -, rfl⟩, rfl⟩ := hns
  have hfails : Change.replay "a" [.incremental ⟨⟨0, 2⟩, ⟨0, 2⟩⟩ 0 "c"] =
      .error (.characterOutOfRange ⟨0, 2⟩) := by rfl
  cases hfails.symm.trans hreplay

end Client

end DocSync
