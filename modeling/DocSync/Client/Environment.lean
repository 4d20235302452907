import DocSync.Document.Editing
import DocSync.Server.Feature

/-!
# What documents share

The clock, the session, the link to the server and the registry, and the history of all that
happened on the link. A document acts on these in turns; in its turn it changes nothing of any
other document.
-/
namespace DocSync

/-- Why diagnostics are pulled: a text was sent, or somebody asked for a refresh. -/
inductive PullCause
  | sent
  | refreshed
deriving DecidableEq, Repr

inductive Event
  /-- A notification was handed over. -/
  | handed (n : Notification)
  /-- A notification came through, or met a fault. -/
  | finished (n : Notification) (fault : Option SessionError)
  | handshake (fault : Option SessionError)
  /-- The sender of a queued notification learned whether it came through. -/
  | acknowledged (ticket : Nat) (sent : Bool)
  | pulled (cause : PullCause) (version : PullVersion) (request : DiagnosticRequest)
deriving DecidableEq, Repr

/-- An event of a document, and when it happened. -/
structure Entry where
  time : Nat
  document : DocumentId
  event : Event
deriving DecidableEq, Repr

structure Environment where
  /-- Milliseconds since the start. -/
  now : Nat := 0
  session : Session
  feature : DiagnosticFeature
  link : Link := {}
  resolver : Resolver
  registry : Registry
  /-- Documents whose writer is slow to learn that the handshake failed. -/
  late : DocumentId → Bool := fun _ => false
  /-- Everything so far, the oldest first. -/
  history : List Entry := []

/-- A document at work. -/
structure Turn where
  doc : Document
  env : Environment

namespace Turn

/-- Adds an event to the history. -/
def note (t : Turn) (event : Event) : Turn :=
  { t with env.history := t.env.history ++ [⟨t.env.now, t.doc.id, event⟩] }

end Turn

end DocSync
