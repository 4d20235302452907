import DocSync.Wire.Notification

/-!
# The session with a server, and the link to it

How the other side will behave, and what it still owes: the session may not be ready yet or fail,
notifications may be held up for a while, some of them will fail, and requests for diagnostics are
answered from a script or stay open until an answer comes.
-/
namespace DocSync

/-! ## The session

A session starts out held, until the server is initialized, and then is ready or has failed. Apart
from that it is active or not: an inactive session is shutting down.
-/

/-- What may go wrong between client and server. -/
inductive SessionError
  | notRunning
  | transport (message : String)
  | request (method : String) (code : Int) (message : String)
deriving DecidableEq, Repr

def SessionError.message : SessionError → String
  | .notRunning => "language server is not running"
  | .transport message => s!"transport failure: {message}"
  | .request method code message => s!"request '{method}' failed ({code}): {message}"

/-- Why a document is not open. -/
inductive OpenError
  | session (e : SessionError)
  | closed (uri : Uri)
deriving DecidableEq, Repr

def OpenError.message : OpenError → String
  | .session e => e.message
  | .closed uri => s!"document {uri.text} is closed"

inductive SessionState
  | held
  | ready
  | failed (e : SessionError)
deriving DecidableEq, Repr

structure Session where
  state : SessionState := .ready
  active : Bool := true
deriving DecidableEq, Repr

/-! ## The link -/

/-- Counts the documents that were created for one URI, one after the other. -/
structure DocumentId where
  uri : Uri
  generation : Nat
deriving DecidableEq, Repr

abbrev Answer := Except SessionError Json

/-- A request without an answer so far, and what it was made for. -/
structure OpenRequest where
  document : DocumentId
  version : PullVersion
deriving DecidableEq, Repr

structure Link where
  stalled : Bool := false
  /-- Failures to come, each for the next notification of a method. -/
  failures : List (String × SessionError) := []
  /-- Answers to come, each for the next request about a URI. -/
  answers : List (String × Answer) := []
  /-- Open requests, the oldest first. -/
  requests : List OpenRequest := []

namespace Link

/-- The failure that the next notification of a method meets, and what is left. -/
def takeFailure (l : Link) (method : String) : Option SessionError × Link :=
  (l.failures.lookup method, { l with failures := l.failures.eraseP fun f => f.1 == method })

/-- The scripted answer to a request about a URI, and what is left. -/
def takeAnswer (l : Link) (uri : String) : Option Answer × Link :=
  (l.answers.lookup uri, { l with answers := l.answers.eraseP fun a => a.1 == uri })

def await (l : Link) (r : OpenRequest) : Link := { l with requests := l.requests ++ [r] }

/-- The open request about a URI that `nth` older ones about it precede, and all others. -/
def takeRequest (uri : String) : Nat → List OpenRequest → Option (OpenRequest × List OpenRequest)
  | _, [] => none
  | nth, r :: rest =>
    if r.document.uri.text = uri then
      match nth with
      | 0 => some (r, rest)
      | nth + 1 => (takeRequest uri nth rest).map fun (found, rest) => (found, r :: rest)
    else (takeRequest uri nth rest).map fun (found, rest) => (found, r :: rest)

end Link

end DocSync
