import DocSync.Client.Action
import DocSync.Proofs.Document.Step

/-!
# Calls of the editor

What an action does to its document before the document goes on by itself. Every action is made of a
few calls, and a notification only joins the ledger by one of them: the greeting when the document
is opened, and a queued notification as long as the document takes any.
-/
namespace DocSync

/-- The document right after an action, before it goes on by itself. -/
def DocumentAction.work (active : Bool) (d : Document) : DocumentAction → Document
  | .beginOpen => d.beginOpen
  | .before e old => d.recordBefore (old.getD d.buffer) e
  | .after new => { d with buffer := new }.recordAfter new
  | .type e new =>
    match d.textAfter e new with
    | .error _ => d
    | .ok text => d.type e text
  | .edit e new =>
    match d.textAfter e new with
    | .error _ => d
    | .ok text => (d.type e text).flush.1
  | .setText text => { d with buffer := text }
  | .flush => d.flush.1
  | .save => (d.save active).1
  | .close => (d.close active).1
  | .refresh _ => d

/-- What changes look like that a server of a sync kind is sent. -/
def SyncKind.Shapes : SyncKind → List Change → Prop
  | .none, changes => changes = []
  | .full, changes => ∀ c ∈ changes, c.isFull = true
  | .incremental, _ => True

theorem SyncKind.shapes_nil (kind : SyncKind) : kind.Shapes [] := by
  cases kind <;> simp [Shapes]

namespace Document

def sendChanges (d : Document) : Document :=
  ({ d with pending := d.pending.drain.2, version := d.version.next }.push
    (.didChange d.uri d.version.next d.pending.events)).1

def shut (d : Document) : Document :=
  { d with phase := .closed, pending := d.pending.clear, timer := none, waiting := [] }

theorem beginOpen_of_ne {d : Document} (h : d.phase ≠ .unopened) : d.beginOpen = d := by
  unfold beginOpen
  split
  · contradiction
  · rfl

/-- What the start of the handshake does not affect, it leaves alone. -/
theorem beginOpen_same {α : Type} (f : Document → α) (d : Document)
    (h : ∀ phase version initialText writer,
      f { d with phase, version, initialText, writer } = f d) : f d.beginOpen = f d := by
  unfold beginOpen
  split
  · split
    · exact h _ _ _ _
    · exact h _ _ _ _
  · rfl

/-- One thing that an action does to its document. -/
inductive Call (active : Bool) : Document → Document → Prop
  | begin {d : Document} (h : d.phase = .unopened) : Call active d d.beginOpen
  /-- What concerns the text alone. Only a document that is open keeps changes. -/
  | write {d : Document} (buffer : String) (initialText : Option String)
      (pending : PendingChanges) (hk : pending.kind = d.pending.kind)
      (hs : d.pending.kind.Shapes d.pending.events → d.pending.kind.Shapes pending.events)
      (hu : d.acceptsEdits = false → d.pending.events = [] → pending.events = [])
      (hc : d.phase = .closed → d.pending.events = [] → pending = d.pending) :
      Call active d { d with buffer, initialText, pending }
  | change {d : Document} (ha : d.acceptsOutgoing = true) (hp : d.pending.events ≠ []) :
      Call active d d.sendChanges
  | save {d : Document} (ha : d.acceptsOutgoing = true) (hs : d.policy.save ≠ .disabled)
      (text : Option String) : Call active d (d.push (.didSave d.uri text)).1
  /-- After the handshake failed a save is queued in vain, until the writer learns of that. -/
  | vain {d : Document} (ha : d.acceptsEdits = true) (hr : d.isRefused = true)
      (hl : d.isStopped = false) (hs : d.policy.save ≠ .disabled) (text : Option String) :
      Call active d (d.push (.didSave d.uri text)).1
  | close {d : Document} (ha : d.acceptsOutgoing = true) (ho : d.policy.openClose = true)
      (hs : active = true) : Call active d (d.push (.didClose d.uri)).1.shut
  | abandon {d : Document} (h : (d.acceptsOutgoing && d.policy.openClose && active) = false) :
      Call active d d.shut

theorem flush_fst (d : Document) :
    d.flush.1 =
      if d.pending.events = [] then d
      else if d.acceptsOutgoing = true then d.sendChanges
      else { d with pending := d.pending.drain.2 } := by
  simp only [flush, PendingChanges.isEmpty, List.isEmpty_iff]
  split
  · rfl
  · split <;> rfl

/-- What neither sending nor dropping the pending changes affects, a flush leaves alone. -/
theorem flush_same {α : Type} (f : Document → α) (d : Document) (hsend : f d.sendChanges = f d)
    (hdrop : f { d with pending := d.pending.drain.2 } = f d) : f d.flush.1 = f d := by
  rw [flush_fst]
  split
  · rfl
  · split
    · exact hsend
    · exact hdrop

@[simp] theorem flush_acceptsOutgoing (d : Document) :
    d.flush.1.acceptsOutgoing = d.acceptsOutgoing :=
  flush_same acceptsOutgoing d rfl rfl

@[simp] theorem flush_acceptsEdits (d : Document) : d.flush.1.acceptsEdits = d.acceptsEdits :=
  flush_same acceptsEdits d rfl rfl

@[simp] theorem flush_isStopped (d : Document) : d.flush.1.isStopped = d.isStopped :=
  flush_same isStopped d rfl rfl

@[simp] theorem flush_policy (d : Document) : d.flush.1.policy = d.policy :=
  flush_same policy d rfl rfl

@[simp] theorem flush_phase (d : Document) : d.flush.1.phase = d.phase := flush_same phase d rfl rfl

@[simp] theorem flush_buffer (d : Document) : d.flush.1.buffer = d.buffer :=
  flush_same buffer d rfl rfl

@[simp] theorem flush_uri (d : Document) : d.flush.1.uri = d.uri := flush_same uri d rfl rfl

@[simp] theorem recordBefore_phase (d : Document) (old : String) (e : Edit) :
    (d.recordBefore old e).phase = d.phase := by
  unfold recordBefore
  split <;> rfl

@[simp] theorem recordAfter_phase (d : Document) (new : String) :
    (d.recordAfter new).phase = d.phase := by
  unfold recordAfter
  split <;> rfl

@[simp] theorem type_phase (d : Document) (e : Edit) (new : String) :
    (d.type e new).phase = d.phase := by
  simp [type]

theorem save_fst (d : Document) (active : Bool) :
    (d.save active).1 =
      if (d.policy.save = .disabled || !active || !d.acceptsEdits) = true then d
      else if d.isStopped = true then d.flush.1
      else (d.flush.1.push
        (.didSave d.uri (if d.policy.save.includesText then some d.buffer else none))).1 := by
  unfold save
  split
  · rfl
  · dsimp only
    simp only [flush_isStopped, flush_uri, flush_policy, flush_buffer]
    split <;> rfl

theorem acceptsEdits_of_acceptsOutgoing {d : Document} (h : d.acceptsOutgoing = true) :
    d.acceptsEdits = true := by
  simp only [acceptsOutgoing, Bool.and_eq_true] at h
  exact h.1

theorem isRefused_iff {d : Document} :
    d.isRefused = true ↔ ∃ e, d.handshakeOutcome? = some (.error e) := by
  cases hw : d.writer <;> simp [handshakeOutcome?, isRefused, hw]

/-- A writer that takes nothing more knows that the handshake failed. -/
theorem isRefused_of_isStopped {d : Document} (h : d.isStopped = true) : d.isRefused = true := by
  cases hw : d.writer <;> simp_all [isStopped, isRefused]

theorem isStopped_of_acceptsOutgoing {d : Document} (ha : d.acceptsOutgoing = true) :
    d.isStopped = false := by
  by_contra hl
  simp [acceptsOutgoing, isRefused_of_isStopped (by simpa using hl)] at ha

theorem save_fst_of_acceptsOutgoing {d : Document} {active : Bool} (ha : d.acceptsOutgoing = true)
    (hs : d.policy.save ≠ .disabled) (hactive : active = true) :
    (d.save active).1 = (d.flush.1.push
      (.didSave d.uri (if d.policy.save.includesText then some d.buffer else none))).1 := by
  rw [save_fst, if_neg (by simp [hs, hactive, acceptsEdits_of_acceptsOutgoing ha]),
    if_neg (by simp [isStopped_of_acceptsOutgoing ha])]

@[simp] theorem save_phase (d : Document) (active : Bool) :
    (d.save active).1.phase = d.phase := by
  rw [save_fst]
  split
  · rfl
  · split
    · exact d.flush_phase
    · exact d.flush_phase

theorem close_fst (d : Document) (active : Bool) :
    (d.close active).1 =
      if d.phase = .closed then d
      else if (d.acceptsOutgoing && d.policy.openClose && active) = true then
        (d.flush.1.push (.didClose d.uri)).1.shut
      else d.shut := by
  unfold close pushClose
  split
  · rfl
  · by_cases hc : (d.acceptsOutgoing && d.policy.openClose && active) = true
    · rw [if_pos hc, if_pos hc]
      rfl
    · rw [if_neg hc, if_neg hc]
      rfl

theorem close_phase (d : Document) (active : Bool) : (d.close active).1.phase = .closed := by
  rw [close_fst]
  split
  · assumption
  · split <;> rfl

@[simp] theorem flush_events (d : Document) : d.flush.1.pending.events = [] := by
  rw [flush_fst]
  split
  · assumption
  · split <;> rfl

end Document

theorem PendingChanges.recordBefore_kind (p : PendingChanges) (old : String) (e : Edit) :
    (p.recordBefore old e).kind = p.kind := by
  unfold recordBefore
  split
  · split <;> rfl
  · rfl

theorem PendingChanges.recordAfter_kind (p : PendingChanges) (new : String) :
    (p.recordAfter new).kind = p.kind := by
  unfold recordAfter
  split
  · rfl
  · rfl
  · split <;> rfl

theorem PendingChanges.recordBefore_shapes {p : PendingChanges} (h : p.kind.Shapes p.events)
    (old : String) (e : Edit) : p.kind.Shapes (p.recordBefore old e).events := by
  cases hk : p.kind with
  | incremental => trivial
  | none => simpa [recordBefore, hk] using h
  | full => simpa [recordBefore, hk] using h

theorem PendingChanges.recordAfter_shapes {p : PendingChanges} (h : p.kind.Shapes p.events)
    (new : String) : p.kind.Shapes (p.recordAfter new).events := by
  cases hk : p.kind with
  | incremental => trivial
  | none => simpa [recordAfter, hk] using h
  | full => simp [recordAfter, hk, SyncKind.Shapes, Change.isFull]

namespace Document

section Induction

variable {active : Bool} {P : Document → Prop} (hcall : ∀ d d', Call active d d' → P d → P d')
include hcall

private theorem record_induct {d : Document} (h : P d) (hp : d.acceptsEdits = true)
    (pending : PendingChanges) (hk : pending.kind = d.pending.kind)
    (hs : d.pending.kind.Shapes d.pending.events → d.pending.kind.Shapes pending.events) :
    P { d with pending } := by
  refine hcall _ _ (.write d.buffer d.initialText pending hk hs (fun hn => ?_) fun hc => ?_) h
  · simp [hp] at hn
  · simp [acceptsEdits, hc] at hp

private theorem recordBefore_induct {d : Document} (h : P d) (old : String) (e : Edit) :
    P (d.recordBefore old e) := by
  have hrecord (hp : d.acceptsEdits = true) :
      P { d with pending := d.pending.recordBefore old e } :=
    record_induct hcall h hp _ (d.pending.recordBefore_kind old e)
      fun hs => PendingChanges.recordBefore_shapes hs old e
  unfold recordBefore
  split
  · rename_i hp
    exact hcall _ _ (.write d.buffer d.initialText _ rfl (fun hs => hs) (fun _ hn => hn)
      fun hc => by simp [hp] at hc) h
  · rename_i hp
    exact hrecord (by simp [acceptsEdits, hp])
  · rename_i hp
    exact hrecord (by simp [acceptsEdits, hp])
  · exact h

private theorem recordAfter_induct {d : Document} (h : P d) (new : String) :
    P (d.recordAfter new) := by
  have hrecord (hp : d.acceptsEdits = true) : P { d with pending := d.pending.recordAfter new } :=
    record_induct hcall h hp _ (d.pending.recordAfter_kind new)
      fun hs => PendingChanges.recordAfter_shapes hs new
  unfold recordAfter
  split
  · rename_i hp
    exact hcall _ _ (.write d.buffer none _ rfl (fun _ => SyncKind.shapes_nil _) (fun _ _ => rfl)
      fun hc => by simp [hp] at hc) h
  · rename_i hp
    exact hrecord (by simp [acceptsEdits, hp])
  · rename_i hp
    exact hrecord (by simp [acceptsEdits, hp])
  · exact h

private theorem setBuffer_induct {d : Document} (h : P d) (text : String) :
    P { d with buffer := text } :=
  hcall _ _ (.write text d.initialText d.pending rfl (fun hs => hs) (fun _ hn => hn)
    fun _ _ => rfl) h

private theorem type_induct {d : Document} (h : P d) (e : Edit) (new : String) :
    P (d.type e new) :=
  recordAfter_induct hcall (recordBefore_induct hcall (setBuffer_induct hcall h new) _ e) new

private theorem flush_induct {d : Document} (h : P d) : P d.flush.1 := by
  rw [flush_fst]
  split
  · exact h
  · rename_i hp
    split
    · rename_i ha
      exact hcall _ _ (.change ha hp) h
    · exact hcall _ _ (.write d.buffer d.initialText d.pending.drain.2 rfl
        (fun _ => SyncKind.shapes_nil _) (fun _ _ => rfl) fun _ hn => absurd hn hp) h

private theorem save_induct {d : Document} (h : P d) : P (d.save active).1 := by
  rw [save_fst]
  split
  · exact h
  · rename_i hs
    simp only [Bool.or_eq_true, decide_eq_true_eq, Bool.not_eq_true', not_or,
      Bool.not_eq_false] at hs
    have hf := flush_induct hcall h
    split
    · exact hf
    · rename_i hl
      rw [← flush_uri]
      have hl' : d.flush.1.isStopped = false := by simpa using hl
      have hs' : d.flush.1.policy.save ≠ .disabled := by
        rw [flush_policy]
        exact hs.1.1
      have he : d.flush.1.acceptsEdits = true := d.flush_acceptsEdits.trans hs.2
      cases hr : d.flush.1.isRefused with
      | false => exact hcall _ _ (.save (by simp [acceptsOutgoing, he, hr]) hs' _) hf
      | true => exact hcall _ _ (.vain he hr hl' hs' _) hf

private theorem close_induct {d : Document} (h : P d) : P (d.close active).1 := by
  rw [close_fst]
  split
  · exact h
  · split
    · rename_i hc
      simp only [Bool.and_eq_true] at hc
      rw [← flush_uri]
      exact hcall _ _ (.close (by simpa using hc.1.1) (by simpa using hc.1.2) hc.2)
        (flush_induct hcall h)
    · rename_i hc
      exact hcall _ _ (.abandon (by simpa using hc)) h

theorem work_induct {d : Document} (h : P d) (a : DocumentAction) : P (a.work active d) := by
  cases a with
  | beginOpen =>
    unfold DocumentAction.work
    by_cases hp : d.phase = .unopened
    · exact hcall _ _ (.begin hp) h
    · rwa [beginOpen_of_ne hp]
  | before e old => exact recordBefore_induct hcall h _ e
  | after new => exact recordAfter_induct hcall (setBuffer_induct hcall h new) new
  | type e new =>
    unfold DocumentAction.work
    dsimp only
    split
    · exact h
    · exact type_induct hcall h e _
  | edit e new =>
    unfold DocumentAction.work
    dsimp only
    split
    · exact h
    · exact flush_induct hcall (type_induct hcall h e _)
  | setText text => exact setBuffer_induct hcall h text
  | flush => exact flush_induct hcall h
  | save => exact save_induct hcall h
  | close => exact close_induct hcall h
  | refresh origin => exact h

end Induction

end Document

end DocSync
