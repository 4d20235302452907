/-!
# Positions in a text

A position names a place by line and by UTF-16 code units from the start of that line, the unit
in which editors and language servers count. A span is a half-open interval of positions.
-/
namespace DocSync

/-- A zero-based line, and the UTF-16 code units between its start and the place. Neither has a bound
here; both fit in 32 bits for a text of less than `2 ^ 32` bytes, as they have to in a message. -/
structure Position where
  line : Nat
  character : Nat
deriving DecidableEq, Repr

/-- Positions are ordered by line, then by character. -/
def Position.before (p q : Position) : Bool :=
  p.line < q.line || (p.line == q.line && p.character < q.character)

/-- The places from `start` up to, and not including, `stop`. -/
structure Span where
  start : Position
  stop : Position
deriving DecidableEq, Repr

namespace Span

/-- The span without extent at a place. -/
def empty (p : Position) : Span := ⟨p, p⟩

def isEmpty (s : Span) : Bool := s.start == s.stop

end Span

/-- Why an offset or a position names no place of a text. -/
inductive PositionError
  | offsetOutOfBounds (offset length : Nat)
  | notCharBoundary (offset : Nat)
  | lineOutOfRange (line : Nat)
  | characterOutOfRange (p : Position)
  | splitsSurrogatePair (p : Position)
deriving DecidableEq, Repr

/-- The sentence shown for an error. -/
def PositionError.message : PositionError → String
  | .offsetOutOfBounds offset length =>
    s!"offset {offset} is past the end of the text ({length} bytes)"
  | .notCharBoundary offset => s!"offset {offset} is not on a UTF-8 character boundary"
  | .lineOutOfRange line => s!"line {line} does not exist"
  | .characterOutOfRange ⟨line, character⟩ =>
    s!"character {character} is past the end of line {line}"
  | .splitsSurrogatePair ⟨line, character⟩ =>
    s!"character {character} on line {line} splits a surrogate pair"

end DocSync
