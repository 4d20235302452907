import DocSync.Client.Basic

/-!
# Runs of a client

Everything that can be done with a client, as actions with replies, and runs as lists of actions.
-/
namespace DocSync

/-- What an editor does with one document. A text that is left out is the one in the buffer, or
what the edit makes of it. -/
inductive DocumentAction
  | beginOpen
  | before (e : Edit) (old : Option String)
  | after (new : String)
  | type (e : Edit) (new : Option String)
  | edit (e : Edit) (new : Option String)
  | setText (text : String)
  | flush
  | save
  | close
  | refresh (origin : RefreshOrigin)

/-- What concerns no document in particular. -/
inductive SharedAction
  | happen (i : Client.Incident)
  | advance (millis : Nat)
  | respond (uri : String) (nth : Nat) (answer : Answer)
  | update (uri : Uri) (identifier : String) (items : List Diagnostic)
  | markDisplayed (uri : Uri)
  | clear (uri : Uri)
  | poll (budget : Nat)

inductive Reply
  | done
  | flag (value : Bool)
  | delivery (d : Delivery)
  | handshake (h : Handshake)
  | invalid (e : PositionError)
  | stamp (s : Stamp)
  | events (es : List DiagnosticsEvent)

inductive Action
  | document (id : DocumentId) (a : DocumentAction)
  | shared (a : SharedAction)

namespace Client

def delivered (r : Client × Delivery) : Client × Reply := (r.1, .delivery r.2)

/-- An action on a document of the client. -/
def performOn (c : Client) (d : Document) : DocumentAction → Client × Reply
  | .beginOpen =>
    let (c, handshake) := c.beginOpen d.id
    (c, .handshake handshake)
  | .before e old => (c.edit d.id fun d => d.recordBefore (old.getD d.buffer) e, .done)
  | .after new => (c.edit d.id fun d => { d with buffer := new }.recordAfter new, .done)
  | .type e new =>
    match d.textAfter e new with
    | .error fault => (c, .invalid fault)
    | .ok text => (c.edit d.id fun d => d.type e text, .done)
  | .edit e new =>
    match d.textAfter e new with
    | .error fault => (c, .invalid fault)
    | .ok text => delivered (c.deliver d.id fun d => (d.type e text).flush)
  | .setText text => (c.edit d.id fun d => { d with buffer := text }, .done)
  | .flush => delivered (c.flush d.id)
  | .save => delivered (c.save d.id)
  | .close => delivered (c.close d.id)
  | .refresh origin => (c.refresh d.id origin, .done)

def setRegistry (c : Client) (r : Registry) : Client := { c with env.registry := r }

def performShared (c : Client) : SharedAction → Client × Reply
  | .happen i => (c.happen i, .done)
  | .advance millis => (c.advance millis, .done)
  | .respond uri nth answer =>
    let (c, found) := c.respond uri nth answer
    (c, .flag found)
  | .update uri identifier items =>
    let (r, changed) := c.env.registry.update uri identifier items
    (c.setRegistry r, .flag changed)
  | .markDisplayed uri =>
    let (r, stamp) := c.env.registry.markDisplayed uri
    (c.setRegistry r, .stamp stamp)
  | .clear uri => (c.setRegistry (c.env.registry.clear uri), .done)
  | .poll budget =>
    let (events, r) := c.env.registry.poll budget
    (c.setRegistry r, .events events)

/-- Performs an action. There is no reply to one on an unknown document. -/
def perform (c : Client) : Action → Option (Client × Reply)
  | .document id a => (c.find? id).map fun d => c.performOn d a
  | .shared a => some (c.performShared a)

/-- The client after an action; one on an unknown document does nothing. -/
def step (c : Client) (a : Action) : Client := ((c.perform a).map Prod.fst).getD c

def run (c : Client) (actions : List Action) : Client := actions.foldl step c

end Client

end DocSync
