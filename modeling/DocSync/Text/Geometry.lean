import DocSync.Text.Position

/-!
# Byte offsets and positions

A text is a list of characters. It is measured in three ways: in bytes of its UTF-8 form, which
is what an offset counts, in lines, and in UTF-16 code units within a line. A line ends with a line
feed, with a carriage return, or with the two in that order, which count as one.

`positionAt` and `offsetAt` convert between the two ways of naming a place. Both refuse what names
no place: nothing is clamped or rounded.
-/
namespace DocSync

/-- UTF-16 code units of one character. -/
def charUnits (c : Char) : Nat := if c.toNat < 0x10000 then 1 else 2

/-- UTF-16 code units of a text. -/
def unitLength : List Char → Nat
  | [] => 0
  | c :: cs => charUnits c + unitLength cs

/-- Bytes of a text in UTF-8. -/
def byteLength : List Char → Nat
  | [] => 0
  | c :: cs => c.utf8Size + byteLength cs

/-- Whether `c` is the last character of a line when `next` follows it. -/
def endsLine (c : Char) (next : Option Char) : Bool :=
  c == '\n' || (c == '\r' && next != some '\n')

/-- The text before and after a byte offset, if the offset falls between two characters. -/
def splitBytes : List Char → Nat → Option (List Char × List Char)
  | cs, 0 => some ([], cs)
  | [], _ + 1 => none
  | c :: cs, n + 1 =>
    if c.utf8Size ≤ n + 1 then (splitBytes cs (n + 1 - c.utf8Size)).map fun (a, b) => (c :: a, b)
    else none

/-- How many lines end in a text that `next` follows, and what stands after the last of them. -/
def lineTally (next : Option Char) : List Char → Nat × List Char
  | [] => (0, [])
  | c :: cs =>
    let (lines, rest) := lineTally next cs
    if endsLine c (cs.head?.or next) then (lines + 1, rest)
    else if lines = 0 then (0, c :: rest)
    else (lines, rest)

/-- The position between two parts of a text. -/
def Position.between (before after : List Char) : Position :=
  let (lines, rest) := lineTally after.head? before
  ⟨lines, unitLength rest⟩

/-- The position of a byte offset. -/
def positionAt (text : List Char) (offset : Nat) : Except PositionError Position :=
  if byteLength text < offset then .error (.offsetOutOfBounds offset (byteLength text))
  else match splitBytes text offset with
    | none => .error (.notCharBoundary offset)
    | some (before, after) => .ok (.between before after)

/-- The text before and from the start of the line of the given number. -/
def splitLine : Nat → List Char → Option (List Char × List Char)
  | 0, cs => some ([], cs)
  | _ + 1, [] => none
  | n + 1, c :: cs =>
    (splitLine (if endsLine c cs.head? then n else n + 1) cs).map fun (a, b) => (c :: a, b)

/-- Why a line has no place at some distance from its start. -/
inductive ColumnFault
  | pastEnd
  | insidePair
deriving DecidableEq, Repr

/-- A text cut the given number of UTF-16 units after its start, within its first line. -/
def splitColumn : Nat → List Char → Except ColumnFault (List Char × List Char)
  | 0, cs => .ok ([], cs)
  | _ + 1, [] => .error .pastEnd
  | n + 1, c :: cs =>
    if endsLine c cs.head? then .error .pastEnd
    else if n + 1 < charUnits c then .error .insidePair
    else (splitColumn (n + 1 - charUnits c) cs).map fun (a, b) => (c :: a, b)

/-- The text before and after a position. -/
def splitPosition (text : List Char) (p : Position) :
    Except PositionError (List Char × List Char) :=
  match splitLine p.line text with
  | none => .error (.lineOutOfRange p.line)
  | some (above, rest) =>
    match splitColumn p.character rest with
    | .error .pastEnd => .error (.characterOutOfRange p)
    | .error .insidePair => .error (.splitsSurrogatePair p)
    | .ok (before, after) => .ok (above ++ before, after)

/-- The byte offset of a position. -/
def offsetAt (text : List Char) (p : Position) : Except PositionError Nat :=
  (splitPosition text p).map fun (before, _) => byteLength before

end DocSync
