import DocSync.Text.Geometry

/-!
# Content changes

A change says how one text becomes the next, in the terms a server understands: either the whole
new text, or a span of the old one and what stands in its place. The first change of a list is
measured against the text it is applied to, each later one against the result of the one before.
-/
namespace DocSync

/-! ## Granularity -/

/-- What a server wants to hear about an edit: nothing, the whole text, or the replaced span. -/
inductive SyncKind
  | none
  | full
  | incremental
deriving DecidableEq, Repr

namespace SyncKind

/-- The kind of a number of the protocol, if the protocol has one for it. -/
def ofNumber? : Nat → Option SyncKind
  | 0 => some .none
  | 1 => some .full
  | 2 => some .incremental
  | _ => Option.none

def label : SyncKind → String
  | .none => "none"
  | .full => "full"
  | .incremental => "incremental"

end SyncKind

/-! ## Changes -/

inductive Change
  /-- Replaces the whole text. -/
  | full (text : String)
  /-- Replaces a span; `rangeLength` is the span's length in UTF-16 units, for information only. -/
  | incremental (span : Span) (rangeLength : Nat) (text : String)
deriving DecidableEq, Repr

namespace Change

def isFull : Change → Bool
  | .full _ => true
  | .incremental .. => false

/-- The text that a change brings in. -/
def text : Change → String
  | .full text => text
  | .incremental _ _ text => text

/-- The text after a change. Both ends of a span have to be places of the old text, in order. -/
def apply (old : String) : Change → Except PositionError String
  | .full text => .ok text
  | .incremental span _ text => do
    let (before, rest) ← splitPosition old.toList span.start
    let (_, after) ← splitPosition old.toList span.stop
    if byteLength rest < byteLength after then .error (.characterOutOfRange span.stop)
    else .ok (String.ofList (before ++ text.toList ++ after))

/-- The texts after each change; the first failure ends the list. -/
def replaySteps (old : String) : List Change → List (Except PositionError String)
  | [] => []
  | c :: cs =>
    match c.apply old with
    | .error e => [.error e]
    | .ok new => .ok new :: replaySteps new cs

/-- The text after all changes, in order. -/
def replay (old : String) : List Change → Except PositionError String
  | [] => .ok old
  | c :: cs => do replay (← c.apply old) cs

end Change

end DocSync
