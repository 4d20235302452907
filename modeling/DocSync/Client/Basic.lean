import DocSync.Client.Writing

/-!
# The client of one server

All documents that were ever created for a server, and what they share. Each operation on a document
is followed by all the work that it makes possible at once; time only passes when the clock is moved
on, and timers then go off in their order.
-/
namespace DocSync

structure Client where
  env : Environment
  /-- In the order of their creation. -/
  documents : List Document := []

namespace Client

def find? (c : Client) (id : DocumentId) : Option Document :=
  c.documents.find? fun d => d.id == id

/-- The client after the turn of one document. -/
def put (c : Client) (t : Turn) : Client :=
  { env := t.env, documents := c.documents.map fun d => if d.id = t.doc.id then t.doc else d }

/-- Gives a document its turn, and lets it go on as far as it can. -/
def turn (c : Client) (id : DocumentId) (work : Turn → Turn) : Client :=
  match c.find? id with
  | none => c
  | some d => c.put (work ⟨d, c.env⟩).progress

/-- The identity of the next document of a URI. -/
def freshId (c : Client) (uri : Uri) : DocumentId :=
  ⟨uri, c.documents.countP fun d => d.uri == uri⟩

/-- Creates a document that is not open yet. -/
def create (c : Client) (uri : Uri) (languageId : String) (policy : SyncPolicy)
    (settings : Settings) (buffer : String) (initialText : Option String) : Client :=
  let d : Document := { id := c.freshId uri, languageId, policy, settings, buffer, initialText }
  { c with documents := c.documents ++ [d] }

/-! ## Operations on a document -/

/-- An operation that only changes the document. -/
def edit (c : Client) (id : DocumentId) (work : Document → Document) : Client :=
  c.turn id fun t => { t with doc := work t.doc }

/-- An operation that may queue something. -/
def deliver (c : Client) (id : DocumentId) (work : Document → Document × Delivery) :
    Client × Delivery :=
  match c.find? id with
  | none => (c, .skipped)
  | some d => (c.edit id fun d => (work d).1, (work d).2)

/-- Starts to open a document, or joins in if that was done before. -/
def beginOpen (c : Client) (id : DocumentId) : Client × Handshake :=
  match c.find? id with
  | none => (c, .closed id.uri)
  | some d => (c.edit id Document.beginOpen, d.handshake)

def flush (c : Client) (id : DocumentId) : Client × Delivery := c.deliver id Document.flush

def save (c : Client) (id : DocumentId) : Client × Delivery :=
  c.deliver id fun d => d.save c.env.session.active

/-- Drops the stored diagnostics of a document that is still to be closed. -/
def clearBeforeClose (c : Client) (id : DocumentId) : Client :=
  match c.find? id with
  | none => c
  | some d =>
    if d.phase = .closed then c else { c with env.registry := c.env.registry.clear d.uri }

def close (c : Client) (id : DocumentId) : Client × Delivery :=
  (c.clearBeforeClose id).deliver id fun d => d.close c.env.session.active

def refresh (c : Client) (id : DocumentId) (origin : RefreshOrigin) : Client :=
  c.turn id fun t => t.refresh origin

/-- How an attempt to open a document came out, once that is known. -/
def handshakeOutcome? (c : Client) : Handshake → Option (Except OpenError Unit)
  | .closed uri => some (.error (.closed uri))
  | .shared id =>
    (c.find? id).bind fun d => d.handshakeOutcome?.map fun r => r.mapError .session

/-- Whether a delivery is still to be made. -/
def isPending (c : Client) : Delivery → Bool
  | .skipped => false
  | .ticket id number => (c.find? id).any fun d => d.owes number

/-! ## Time and the other side -/

/-- Lets one document after the other go on as far as it can. -/
def progressAll : List Document → Environment → List Document × Environment
  | [], env => ([], env)
  | d :: rest, env =>
    let t := Turn.progress ⟨d, env⟩
    let (rest, env) := progressAll rest t.env
    (t.doc :: rest, env)

def progress (c : Client) : Client :=
  let (documents, env) := progressAll c.documents c.env
  { env, documents }

/-- The times that a document waits for. -/
def dueTimes (d : Document) : List Nat :=
  let settled := match d.writer with
    | .settling _ due => [due]
    | _ => []
  settled ++ (d.timer.map PullTimer.due).toList

/-- The first time up to a limit that some document waits for. -/
def nextDue? (c : Client) (limit : Nat) : Option Nat :=
  ((c.documents.flatMap dueTimes).filter (· ≤ limit)).min?

def setClock (c : Client) (now : Nat) : Client := { c with env.now := now }

/-- Moves the clock on to a time, by way of the times that documents wait for. -/
def runUntil (fuel target : Nat) (c : Client) : Client :=
  match fuel, c.nextDue? target with
  | fuel + 1, some due => runUntil fuel target (c.setClock due).progress
  | _, _ => (c.setClock target).progress

/-- Moves the clock on. A document waits twice at most: to settle, and then to pull. -/
def advance (c : Client) (millis : Nat) : Client :=
  c.runUntil (2 * c.documents.length) (c.env.now + millis)

/-- What happens on the other side, to the session, or to the writer of a document. -/
inductive Incident
  | setActive (value : Bool)
  | setSupported (value : Bool)
  | setSession (state : SessionState)
  | stall (value : Bool)
  | failNext (method : String) (e : SessionError)
  | script (uri : String) (answer : Answer)
  /-- Whether the writer of a document is slow to learn that the handshake failed. -/
  | delay (id : DocumentId) (value : Bool)

def happen (c : Client) : Incident → Client
  | .setActive value => { c with env.session.active := value }
  | .setSupported value => { c with env.feature.supported := value }
  | .setSession state => { c with env.session.state := state }.progress
  | .stall value => { c with env.link.stalled := value }.progress
  | .failNext method e => { c with env.link.failures := c.env.link.failures ++ [(method, e)] }
  | .script uri answer => { c with env.link.answers := c.env.link.answers ++ [(uri, answer)] }
  | .delay id value =>
    { c with env.late := fun other => if other = id then value else c.env.late other }.progress

/-- Answers an open request about a URI, and tells whether there was one. -/
def respond (c : Client) (uri : String) (nth : Nat) (answer : Answer) : Client × Bool :=
  match Link.takeRequest uri nth c.env.link.requests with
  | none => (c, false)
  | some (r, rest) =>
    ({ c with env.link.requests := rest }.turn r.document fun t => t.accept r.version answer, true)

end Client

end DocSync
