import DocSync.Text.Position

/-!
# Diagnostics

One finding of a server about a span of a file, as the client keeps and shows it.
-/
namespace DocSync

inductive Severity
  | error
  | warning
  | information
  | hint
deriving DecidableEq, Repr

namespace Severity

/-- The severity of a number of the protocol, if the protocol has one for it. -/
def ofNumber? : Nat → Option Severity
  | 1 => some .error
  | 2 => some .warning
  | 3 => some .information
  | 4 => some .hint
  | _ => none

def number : Severity → Nat
  | .error => 1
  | .warning => 2
  | .information => 3
  | .hint => 4

def isError (s : Severity) : Bool := s == .error

end Severity

structure Diagnostic where
  span : Span
  severity : Severity
  message : String
  source : String
  code : Option String
deriving DecidableEq, Repr

def Diagnostic.isError (d : Diagnostic) : Bool := d.severity.isError

end DocSync
