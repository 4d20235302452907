/-!
# Quoted texts

Texts between quotation marks, with escapes, or between apostrophes, without. Both have a form of
three marks that runs over several lines. Control characters other than a tab do not occur in them.
-/
namespace DocSync.Toml

def isBlank (c : Char) : Bool := c == ' ' || c == '\t'

/-- Whether a character may stand in a comment or a text as it is. -/
def isPlain (c : Char) : Bool := c == '\t' || (0x20 ≤ c.toNat && c.toNat != 0x7F)

/-- The text after a line break that it starts with. -/
def lineBreak? : List Char → Option (List Char)
  | '\n' :: rest => some rest
  | '\r' :: '\n' :: rest => some rest
  | _ => none

namespace Quoted

def hexValue? (c : Char) : Option Nat :=
  if '0' ≤ c ∧ c ≤ '9' then some (c.toNat - '0'.toNat)
  else if 'a' ≤ c ∧ c ≤ 'f' then some (c.toNat - 'a'.toNat + 10)
  else if 'A' ≤ c ∧ c ≤ 'F' then some (c.toNat - 'A'.toNat + 10)
  else none

/-- The character whose number is written with so many hexadecimal digits. -/
def codePoint? (width : Nat) (cs : List Char) : Option (Char × List Char) := do
  let digits ← (cs.take width).mapM hexValue?
  let n := digits.foldl (fun n d => n * 16 + d) 0
  if digits.length ≠ width ∨ ¬ n.isValidChar then none else some (Char.ofNat n, cs.drop width)

/-- The character of an escape, from what follows the backslash. -/
def escape? : List Char → Option (Char × List Char)
  | 'b' :: rest => some ('\x08', rest)
  | 't' :: rest => some ('\t', rest)
  | 'n' :: rest => some ('\n', rest)
  | 'f' :: rest => some ('\x0c', rest)
  | 'r' :: rest => some ('\r', rest)
  | 'e' :: rest => some ('\x1b', rest)
  | '"' :: rest => some ('"', rest)
  | '\\' :: rest => some ('\\', rest)
  | 'x' :: rest => codePoint? 2 rest
  | 'u' :: rest => codePoint? 4 rest
  | 'U' :: rest => codePoint? 8 rest
  | _ => none

/-- A text of one line after its opening mark; `done` holds its characters in reverse. -/
def line (mark : Char) (fuel : Nat) (done : List Char) (cs : List Char) :
    Option (String × List Char) :=
  match fuel, cs with
  | 0, _ => none
  | _, [] => none
  | fuel + 1, c :: rest =>
    if c = mark then some (String.ofList done.reverse, rest)
    else if c = '\\' ∧ mark = '"' then
      match escape? rest with
      | some (c, rest) => line mark fuel (c :: done) rest
      | none => none
    else if isPlain c then line mark fuel (c :: done) rest
    else none

/-- What follows blanks and line breaks. -/
def skipLines (fuel : Nat) (cs : List Char) : List Char :=
  match fuel with
  | 0 => cs
  | fuel + 1 =>
    let cs := cs.dropWhile isBlank
    match lineBreak? cs with
    | some rest => skipLines fuel rest
    | none => cs

/-- A text of several lines after its opening marks. Up to two marks may stand before the closing
three, and a backslash at the end of a line takes the break and the blanks after it away. -/
def lines (mark : Char) (fuel : Nat) (done : List Char) (cs : List Char) :
    Option (String × List Char) :=
  match fuel, cs with
  | 0, _ => none
  | _, [] => none
  | fuel + 1, c :: rest =>
    if c = mark then
      let run := ((c :: rest).takeWhile (· == mark)).length
      if run < 3 then lines mark fuel (c :: done) rest
      else
        let extra := min (run - 3) 2
        let text := String.ofList (List.replicate extra mark ++ done).reverse
        some (text, (c :: rest).drop (3 + extra))
    else if c = '\\' ∧ mark = '"' then
      match lineBreak? (rest.dropWhile isBlank) with
      | some after => lines mark fuel done (skipLines (after.length + 1) after)
      | none =>
        match escape? rest with
        | some (c, rest) => lines mark fuel (c :: done) rest
        | none => none
    else
      match lineBreak? (c :: rest) with
      | some after =>
        lines mark fuel (if c = '\r' then '\n' :: '\r' :: done else '\n' :: done) after
      | none => if isPlain c then lines mark fuel (c :: done) rest else none

/-- A text from its first mark on. -/
def value? : List Char → Option (String × List Char)
  | a :: b :: c :: rest =>
    if a = b ∧ b = c then
      let body := (lineBreak? rest).getD rest
      lines a (body.length + 1) [] body
    else line a (rest.length + 3) [] (b :: c :: rest)
  | a :: rest => line a (rest.length + 1) [] rest
  | [] => none

end Quoted

end DocSync.Toml
