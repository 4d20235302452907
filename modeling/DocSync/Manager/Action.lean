import DocSync.Client.Action
import DocSync.Manager.Basic

/-!
# Runs of a manager

Everything that can be done with a manager, as actions with replies, and runs as lists of actions.
-/
namespace DocSync

inductive ManagerAction
  | openDocument (uri : Uri) (text : String) (languageId : Option String)
  | close (uri : Uri)
  /-- An action on an open document. -/
  | document (uri : Uri) (a : DocumentAction)
  | refresh (origin : RefreshOrigin)
  | publish (params : Json)
  | shutdown
  | shared (a : SharedAction)

namespace Manager

/-- Performs an action. There is no reply to one on a document that is not open. -/
def perform (m : Manager) : ManagerAction → Option (Manager × Reply)
  | .openDocument uri text languageId =>
    let (m, handshake) := m.openDocument uri text languageId
    some (m, .handshake handshake)
  | .close uri =>
    let (m, delivery) := m.close uri
    some (m, .delivery delivery)
  | .document uri a =>
    (m.document? uri).map fun d =>
      let (client, reply) := m.client.performOn d a
      ({ m with client }, reply)
  | .refresh origin => some (m.refresh origin, .done)
  | .publish params => some (m.publish params, .done)
  | .shutdown =>
    let (m, complete) := m.shutdown
    some (m, .flag complete)
  | .shared a =>
    let (client, reply) := m.client.performShared a
    some ({ m with client }, reply)

/-- The manager after an action; one on a document that is not open does nothing. -/
def step (m : Manager) (a : ManagerAction) : Manager := ((m.perform a).map Prod.fst).getD m

def run (m : Manager) (actions : List ManagerAction) : Manager := actions.foldl step m

end Manager

end DocSync
