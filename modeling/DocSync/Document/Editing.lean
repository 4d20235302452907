import DocSync.Document.Basic

/-!
# What an editor does with a document

Opening, editing, saving and closing change the document at once and queue what the server has to
hear about it. Nothing here waits for the server, and what is queued is only handed over when the
writer comes to it.
-/
namespace DocSync.Document

/-- Starts the handshake. The text that the server gets is fixed here. -/
def beginOpen (d : Document) : Document :=
  match d.phase with
  | .unopened =>
    if d.policy.openClose then
      let version := d.version.next
      let text := d.initialText.getD d.buffer
      { d with
        phase := .opening, version, initialText := none
        writer := .waiting (some (.didOpen d.uri d.languageId version text)) }
    else { d with phase := .opening, writer := .waiting none }
  | _ => d

def handshake (d : Document) : Handshake :=
  if d.phase = .closed then .closed d.uri else .shared d.id

/-- The first half of an edit, before the buffer changes. The text of an unopened document is not
with the server yet. -/
def recordBefore (d : Document) (old : String) (e : Edit) : Document :=
  match d.phase with
  | .unopened => { d with pending := d.pending.recordUnseenBefore }
  | .opening | .opened => { d with pending := d.pending.recordBefore old e }
  | .closed => d

/-- The second half of an edit, with the new text. An unopened document will open with it. -/
def recordAfter (d : Document) (new : String) : Document :=
  match d.phase with
  | .unopened => { d with initialText := none, pending := d.pending.clear }
  | .opening | .opened => { d with pending := d.pending.recordAfter new }
  | .closed => d

/-- Queues a notification. -/
def push (d : Document) (n : Notification) : Document × Delivery :=
  ({ d with queue := d.queue ++ [⟨d.tickets, n⟩], tickets := d.tickets + 1 },
    .ticket d.id d.tickets)

/-- Queues all pending changes under the next version. If they can no longer be handed over they are
given up. -/
def flush (d : Document) : Document × Delivery :=
  if d.pending.isEmpty then (d, .skipped)
  else
    let (changes, pending) := d.pending.drain
    if d.acceptsOutgoing then
      let version := d.version.next
      { d with pending, version }.push (.didChange d.uri version changes)
    else ({ d with pending }, .skipped)

/-- Queues a save, after all pending changes, if the server wants to hear of it. Unlike changes a
save is queued as long as the writer takes anything, also if the handshake failed. -/
def save (d : Document) (active : Bool) : Document × Delivery :=
  if d.policy.save = .disabled || !active || !d.acceptsEdits then (d, .skipped)
  else
    let d := d.flush.1
    if d.isStopped then (d, .skipped)
    else d.push (.didSave d.uri (if d.policy.save.includesText then some d.buffer else none))

/-- Queues all pending changes and the closing notification, if the server is to hear of it. -/
def pushClose (d : Document) (active : Bool) : Document × Delivery :=
  if d.acceptsOutgoing && d.policy.openClose && active then d.flush.1.push (.didClose d.uri)
  else (d, .skipped)

/-- Closes the document. What was queued before is still handed over. -/
def close (d : Document) (active : Bool) : Document × Delivery :=
  if d.phase = .closed then (d, .skipped)
  else
    let (d, delivery) := d.pushClose active
    let pending := d.pending.clear
    ({ d with phase := .closed, pending, timer := none, waiting := [] }, delivery)

/-- The text after an edit: a given one, or what the edit makes of the buffer. -/
def textAfter (d : Document) (e : Edit) : Option String → Except PositionError String
  | some text => .ok text
  | none => e.apply d.buffer

/-- Both halves of an edit, and the change of the buffer. -/
def type (d : Document) (e : Edit) (new : String) : Document :=
  ({ d with buffer := new }.recordBefore d.buffer e).recordAfter new

end DocSync.Document
