import DocSync.Diagnostics.Registry

/-!
# Runs of a registry

Everything that can be done with a registry, as actions, and runs as lists of actions. The log of a
run tells what was done and what came back.
-/
namespace DocSync

inductive RegistryAction
  | update (uri : Uri) (identifier : String) (items : List Diagnostic)
  | markDisplayed (uri : Uri)
  | clear (uri : Uri)
  | poll (budget : Nat)
deriving DecidableEq, Repr

/-- An action and what came back. -/
inductive RegistryEntry
  | updated (uri : Uri) (identifier : String) (items : List Diagnostic) (changed : Bool)
  | displayed (uri : Uri) (stamp : Stamp)
  | cleared (uri : Uri)
  | polled (budget : Nat) (events : List DiagnosticsEvent)
deriving DecidableEq, Repr

namespace Registry

/-- A registry that knows nothing yet. -/
def fresh (capacity : Nat) : Registry := { capacity }

def perform (r : Registry) : RegistryAction → Registry × RegistryEntry
  | .update uri identifier items =>
    let (r, changed) := r.update uri identifier items
    (r, .updated uri identifier items changed)
  | .markDisplayed uri =>
    let (r, stamp) := r.markDisplayed uri
    (r, .displayed uri stamp)
  | .clear uri => (r.clear uri, .cleared uri)
  | .poll budget =>
    let (events, r) := r.poll budget
    (r, .polled budget events)

def step (r : Registry) (a : RegistryAction) : Registry := (r.perform a).1

def run (r : Registry) (actions : List RegistryAction) : Registry := actions.foldl step r

/-- What is done in a run, and what comes back. -/
def log (r : Registry) : List RegistryAction → List RegistryEntry
  | [] => []
  | a :: as => (r.perform a).2 :: (r.step a).log as

end Registry

end DocSync
