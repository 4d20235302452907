import DocSync.Config.Settings
import DocSync.Server.Link
import DocSync.Server.Policy
import DocSync.Text.PendingChanges

/-!
# Documents

One editor buffer that is kept in step with a server. A document goes forward through its phases
and never back; whoever wants it open again starts a new one. What it has to tell the server goes
through one writer, which hands notifications over one at a time, in order, and none before the
handshake that opens the document.
-/
namespace DocSync

inductive Phase
  | unopened
  | opening
  | opened
  | closed
deriving DecidableEq, Repr

def Phase.label : Phase → String
  | .unopened => "unopened"
  | .opening => "opening"
  | .opened => "opened"
  | .closed => "closed"

/-- A notification in the queue; the ticket is its number among those of the document. -/
structure Outgoing where
  ticket : Nat
  notification : Notification
deriving DecidableEq, Repr

/-- What the writer of a document is at. A fault that comes with a notification is the one that
the notification will turn out to meet. -/
inductive Writer
  | absent
  /-- For the session; the greeting is the notification that opens the document. -/
  | waiting (greeting : Option Notification)
  | greeting (n : Notification) (fault : Option SessionError)
  /-- The server has time until `due` to take the document in. -/
  | settling (n : Notification) (due : Nat)
  | idle
  | sending (item : Outgoing) (fault : Option SessionError)
  /-- The handshake failed. What is queued is still taken, until the writer learns of it. -/
  | refused (e : SessionError)
  /-- The writer has learned of it, and takes nothing more. -/
  | stopped (e : SessionError)
deriving DecidableEq, Repr

/-- A pull that is due when no change comes in between. -/
structure PullTimer where
  due : Nat
  version : Version
deriving DecidableEq, Repr

structure Document where
  id : DocumentId
  languageId : String
  policy : SyncPolicy
  settings : Settings
  /-- The text in the editor. -/
  buffer : String
  /-- The text to open with, if it is not the one in the editor by then. -/
  initialText : Option String := none
  phase : Phase := .unopened
  pending : PendingChanges := ⟨policy.kind, [], false⟩
  /-- The last version that a notification was stamped with. -/
  version : Version := .initial
  writer : Writer := .absent
  queue : List Outgoing := []
  tickets : Nat := 0
  timer : Option PullTimer := none
  /-- Nothing was pulled when the document opened, because pulls were not supported. -/
  unpulled : Bool := false
  /-- Pulls that wait for the handshake. -/
  waiting : List PullVersion := []
deriving DecidableEq, Repr

/-- What comes of an attempt to tell the server something: nothing was queued, or the notification
with a ticket was. -/
inductive Delivery
  | skipped
  | ticket (document : DocumentId) (number : Nat)
deriving DecidableEq, Repr

/-- What comes of an attempt to open a document: all attempts share the handshake of the document,
unless it was closed before. -/
inductive Handshake
  | shared (document : DocumentId)
  | closed (uri : Uri)
deriving DecidableEq, Repr

namespace Document

def uri (d : Document) : Uri := d.id.uri

/-- Whether edits of the buffer concern the server. -/
def acceptsEdits (d : Document) : Bool := d.phase == .opening || d.phase == .opened

/-- How the handshake came out, once it has. -/
def handshakeOutcome? (d : Document) : Option (Except SessionError Unit) :=
  match d.writer with
  | .absent | .waiting _ | .greeting .. | .settling .. => none
  | .idle | .sending .. => some (.ok ())
  | .refused e | .stopped e => some (.error e)

/-- Whether the handshake failed. The writer may not know of it yet. -/
def isRefused (d : Document) : Bool :=
  match d.writer with
  | .refused _ | .stopped _ => true
  | _ => false

/-- Whether the writer takes nothing more. -/
def isStopped (d : Document) : Bool :=
  match d.writer with
  | .stopped _ => true
  | _ => false

/-- Whether what is queued now may still be handed over. -/
def acceptsOutgoing (d : Document) : Bool := d.acceptsEdits && !d.isRefused

/-- Whether an answer to a pull, or the pull itself, is still of use. -/
def awaits (d : Document) (v : PullVersion) : Bool := d.phase != .closed && v.accepts d.version

/-- Whether the notification with a ticket is still to be handed over or to come through. -/
def owes (d : Document) (ticket : Nat) : Bool :=
  d.queue.any (fun item => item.ticket == ticket) ||
    match d.writer with
    | .sending item _ => item.ticket == ticket
    | _ => false

end Document

end DocSync
