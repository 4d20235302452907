import DocSync.Text.Edit

/-!
# Changes waiting to be sent

Between two flushes the edits of a document are kept as changes, in the shape that its sync kind
asks for. An edit is reported in two halves: against the old text before it happens, and with the
new text afterwards. Where the first half gives no span, or was never seen, the second half
records the whole new text instead, so that the list always leads to the buffer.
-/
namespace DocSync

structure PendingChanges where
  kind : SyncKind
  events : List Change := []
  /-- The next second half records the whole text. -/
  resync : Bool := false
deriving DecidableEq, Repr

namespace PendingChanges

/-- The first half of an edit. -/
def recordBefore (p : PendingChanges) (old : String) (e : Edit) : PendingChanges :=
  match p.kind with
  | .incremental =>
    match e.toChange old with
    | .ok change => { p with events := p.events ++ [change] }
    | .error _ => { p with resync := true }
  | _ => p

/-- The second half of an edit. -/
def recordAfter (p : PendingChanges) (new : String) : PendingChanges :=
  match p.kind with
  | .none => p
  | .full => { p with events := [.full new] }
  | .incremental =>
    if p.resync then { p with events := p.events ++ [.full new], resync := false } else p

/-- The first half of an edit whose old text nobody will send. -/
def recordUnseenBefore (p : PendingChanges) : PendingChanges :=
  { p with resync := p.kind == .incremental }

/-- Forgets the changes, and that a whole text is due. -/
def clear (p : PendingChanges) : PendingChanges := { p with events := [], resync := false }

/-- The changes in order, and what is left: no change, but still whether a whole text is due. -/
def drain (p : PendingChanges) : List Change × PendingChanges := (p.events, { p with events := [] })

def isEmpty (p : PendingChanges) : Bool := p.events.isEmpty

end PendingChanges

end DocSync
