import DocSync.Data.List
import DocSync.Diagnostics.Diagnostic
import DocSync.Uri.Basic

/-!
# The diagnostics of all files

The registry keeps the last report on each file under the identifier of its source, open or not. Its
clock ticks with every write and every display, so that a reader who remembers when a file was last
shown can tell whether it has to be shown again. Changes are announced in a queue of limited length;
an announcement that finds the queue full is lost.
-/
namespace DocSync

/-- A time on the registry's clock. -/
structure Stamp where
  tick : Nat
deriving DecidableEq, Repr

/-- What is kept about one file. -/
structure FileRecord where
  /-- Diagnostics by identifier, sorted by identifier; none of the lists is empty. -/
  slots : List (String × List Diagnostic) := []
  updatedAt : Option Stamp := none
  displayedAt : Option Stamp := none
deriving DecidableEq, Repr

namespace FileRecord

/-- The diagnostics under an identifier. -/
def slot (f : FileRecord) (identifier : String) : List Diagnostic :=
  (f.slots.lookup identifier).getD []

/-- The record with other diagnostics under an identifier. -/
def setSlot (f : FileRecord) (identifier : String) (items : List Diagnostic) : FileRecord :=
  { f with
    slots :=
      if items.isEmpty then Sorted.erase identifier f.slots
      else Sorted.insert identifier items f.slots }

def diagnostics (f : FileRecord) : List Diagnostic := f.slots.flatMap Prod.snd

def hasErrors (f : FileRecord) : Bool := f.diagnostics.any Diagnostic.isError

def isEmpty (f : FileRecord) : Bool := f.slots.isEmpty

/-- Whether a file that was last seen at `seen` has to be shown again. -/
def mustRefresh (f : FileRecord) (seen : Option Stamp) : Bool :=
  match f.displayedAt with
  | none => true
  | some displayed =>
    seen != some displayed ||
      match f.updatedAt with
      | none => false
      | some updated => displayed.tick < updated.tick

end FileRecord

/-- What the host is told. -/
inductive DiagnosticsEvent
  /-- The diagnostics of a file changed; `lastDisplayed` is when it was last shown. -/
  | changed (uri : Uri) (lastDisplayed : Option Stamp)
  | cleared (uri : Uri)
deriving DecidableEq, Repr

structure Registry where
  capacity : Nat
  files : List (Uri × FileRecord) := []
  ticks : Nat := 0
  events : List DiagnosticsEvent := []
deriving DecidableEq, Repr

namespace Registry

/-- The record of a file; a file that nothing is known about has the empty one. -/
def file (r : Registry) (uri : Uri) : FileRecord := (r.files.lookup uri).getD {}

/-- The registry without a file. -/
def forget (r : Registry) (uri : Uri) : Registry :=
  { r with files := r.files.filter fun (u, _) => u != uri }

/-- The registry with another record for a file. -/
def setFile (r : Registry) (uri : Uri) (f : FileRecord) : Registry :=
  { r with files := (r.forget uri).files ++ [(uri, f)] }

/-- Announces an event if there is room for it. -/
def emit (r : Registry) (e : DiagnosticsEvent) : Registry :=
  if r.events.length < r.capacity then { r with events := r.events ++ [e] } else r

/-- The next time on the clock. -/
def now (r : Registry) : Stamp := ⟨r.ticks + 1⟩

def tick (r : Registry) : Registry := { r with ticks := r.ticks + 1 }

/-- Replaces what is stored under an identifier, and tells whether that made a difference. -/
def update (r : Registry) (uri : Uri) (identifier : String) (items : List Diagnostic) :
    Registry × Bool :=
  let f := r.file uri
  if f.slot identifier = items then (r.tick, false)
  else
    let f := { f.setSlot identifier items with updatedAt := some r.now }
    ((r.tick.setFile uri f).emit (.changed uri f.displayedAt), true)

/-- Notes that a file is being shown, and when. -/
def markDisplayed (r : Registry) (uri : Uri) : Registry × Stamp :=
  (r.tick.setFile uri { r.file uri with displayedAt := some r.now }, r.now)

def mustRefresh (r : Registry) (uri : Uri) (seen : Option Stamp) : Bool :=
  (r.file uri).mustRefresh seen

/-- Drops all that is stored about a file. -/
def clear (r : Registry) (uri : Uri) : Registry :=
  if (r.file uri).isEmpty then r.forget uri else (r.forget uri).emit (.cleared uri)

/-- The diagnostics of a file, in the order of their identifiers. -/
def diagnostics (r : Registry) (uri : Uri) : List Diagnostic := (r.file uri).diagnostics

def hasErrors (r : Registry) (uri : Uri) : Bool := (r.file uri).hasErrors

/-- The errors of the given files; files without any are left out. -/
def errorsForFiles (r : Registry) (uris : List Uri) : List (Uri × List Diagnostic) :=
  (uris.map fun uri => (uri, (r.diagnostics uri).filter Diagnostic.isError)).filter
    fun (_, errors) => !errors.isEmpty

/-- The oldest events, up to a number of them, and the registry without them. -/
def poll (r : Registry) (budget : Nat) : List DiagnosticsEvent × Registry :=
  (r.events.take budget, { r with events := r.events.drop budget })

end Registry

end DocSync
