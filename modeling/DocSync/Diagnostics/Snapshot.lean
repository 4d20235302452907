import DocSync.Diagnostics.Registry

/-!
# Snapshots

All stored diagnostics at one moment, for display: files with errors come first, and files of
either group ascend by URI. The counts are those of the listed files.
-/
namespace DocSync

structure Snapshot where
  files : List (Uri × List Diagnostic)
deriving DecidableEq, Repr

namespace Snapshot

/-- Whether a file stands before another one, or is the same. -/
def inOrder (a b : Uri × List Diagnostic) : Bool :=
  match a.2.any Diagnostic.isError, b.2.any Diagnostic.isError with
  | true, false => true
  | false, true => false
  | _, _ => a.1.text ≤ b.1.text

def ofRegistry (r : Registry) : Snapshot :=
  let stored := r.files.filter fun (_, f) => !f.isEmpty
  ⟨(stored.map fun (uri, f) => (uri, f.diagnostics)).mergeSort inOrder⟩

def isEmpty (s : Snapshot) : Bool := s.files.isEmpty

/-- The diagnostics of all files, one file after the other. -/
def items (s : Snapshot) : List Diagnostic := s.files.flatMap Prod.snd

/-- How many diagnostics are of a severity. -/
def count (s : Snapshot) (severity : Severity) : Nat :=
  s.items.countP fun d => d.severity == severity

def total (s : Snapshot) : Nat := s.items.length

/-- A short text with the numbers of errors and warnings, or none if there is nothing to tell. -/
def status (s : Snapshot) : String :=
  if s.isEmpty then "" else s!"E:{s.count .error} W:{s.count .warning}"

end Snapshot

end DocSync
