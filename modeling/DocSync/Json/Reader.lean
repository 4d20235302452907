import DocSync.Json.Basic

/-!
# The text of a data document

A reader for JSON in UTF-8. It takes exactly the grammar of the format, without comments, trailing
commas or unpaired surrogates, and refuses documents nested more than 127 levels deep and numbers
too large for a binary64 fraction. A field that is written twice has the value written last.
-/
namespace DocSync.Json

def isSpace (c : Char) : Bool := c == ' ' || c == '\n' || c == '\t' || c == '\r'

def skipSpace (cs : List Char) : List Char := cs.dropWhile isSpace

def digitValue (c : Char) : Nat := c.toNat - '0'.toNat

def hexValue? (c : Char) : Option Nat :=
  if '0' ≤ c ∧ c ≤ '9' then some (c.toNat - '0'.toNat)
  else if 'a' ≤ c ∧ c ≤ 'f' then some (c.toNat - 'a'.toNat + 10)
  else if 'A' ≤ c ∧ c ≤ 'F' then some (c.toNat - 'A'.toNat + 10)
  else none

/-- The number written with four hexadecimal digits. -/
def hex4? : List Char → Option (Nat × List Char)
  | a :: b :: c :: d :: rest => do
    let a ← hexValue? a
    let b ← hexValue? b
    let c ← hexValue? c
    let d ← hexValue? d
    some (((a * 16 + b) * 16 + c) * 16 + d, rest)
  | _ => none

/-- The character of a `\u` escape, whose first four digits come next. Characters beyond the basic
plane are written as a pair of surrogates. -/
def unicodeEscape? (cs : List Char) : Option (Char × List Char) := do
  let (unit, rest) ← hex4? cs
  if 0xD800 ≤ unit ∧ unit < 0xDC00 then
    match rest with
    | '\\' :: 'u' :: more =>
      let (low, rest) ← hex4? more
      if 0xDC00 ≤ low ∧ low < 0xE000 then
        some (Char.ofNat (0x10000 + (unit - 0xD800) * 0x400 + (low - 0xDC00)), rest)
      else none
    | _ => none
  else if 0xDC00 ≤ unit ∧ unit < 0xE000 then none
  else some (Char.ofNat unit, rest)

/-- The characters of a string after its opening quote, in reverse, and the rest. -/
def stringBody (fuel : Nat) (done : List Char) (cs : List Char) :
    Option (List Char × List Char) :=
  match fuel, cs with
  | 0, _ => none
  | _, [] => none
  | _ + 1, '"' :: rest => some (done, rest)
  | fuel + 1, '\\' :: c :: rest =>
    match c with
    | '"' => stringBody fuel ('"' :: done) rest
    | '\\' => stringBody fuel ('\\' :: done) rest
    | '/' => stringBody fuel ('/' :: done) rest
    | 'b' => stringBody fuel ('\x08' :: done) rest
    | 'f' => stringBody fuel ('\x0c' :: done) rest
    | 'n' => stringBody fuel ('\n' :: done) rest
    | 'r' => stringBody fuel ('\r' :: done) rest
    | 't' => stringBody fuel ('\t' :: done) rest
    | 'u' =>
      match unicodeEscape? rest with
      | some (c, rest) => stringBody fuel (c :: done) rest
      | none => none
    | _ => none
  | fuel + 1, c :: rest =>
    if c == '\\' || c.toNat < 0x20 then none else stringBody fuel (c :: done) rest

def string (cs : List Char) : Option (String × List Char) :=
  (stringBody (cs.length + 1) [] cs).map fun (done, rest) => (String.ofList done.reverse, rest)

/-- Digits folded into a 64-bit word as long as they fit, and how many were left over. -/
def foldDigits (digits : List Char) (start : Nat) : Nat × Nat :=
  digits.foldl
    (fun (n, dropped) c =>
      if dropped = 0 ∧ n * 10 + digitValue c < Nat.pow 2 64 then (n * 10 + digitValue c, 0)
      else (n, dropped + 1))
    (start, 0)

def tenTo (k : Nat) : Float := Float.ofScientific 1 false k

/-- The fraction `significand * 10 ^ exponent`, by one multiplication or division with a power of
ten, after dividing by the largest such power as often as the exponent asks for. -/
def scale : Nat → Float → Int → Option Float
  | 0, f, _ => some f
  | fuel + 1, f, exponent =>
    if exponent.natAbs ≤ 308 then
      if 0 ≤ exponent then
        let f := f * tenTo exponent.natAbs
        if f.isInf then none else some f
      else some (f / tenTo exponent.natAbs)
    else if f == 0.0 then some f
    else if 0 ≤ exponent then none
    else scale fuel (f / tenTo 308) (exponent + 308)

def fraction? (negative : Bool) (significand : Nat) (exponent : Int) : Option Number :=
  (scale 4 significand.toUInt64.toFloat exponent).map fun f =>
    .float (if negative then -f else f).toBits

/-- The parts of a written number. -/
structure Literal where
  negative : Bool
  whole : List Char
  decimals : Option (List Char)
  exponent : Option (Bool × List Char)

/-- The value of a number. Digits that a 64-bit word has no room for count only by their place. -/
def Literal.value? (l : Literal) : Option Number :=
  let (n, extra) := foldDigits l.whole 0
  let fits := extra = 0 ∧ ¬ (l.negative ∧ (n = 0 ∨ Nat.pow 2 63 < n))
  if l.decimals.isNone ∧ l.exponent.isNone ∧ fits then
    some (.int (if l.negative then -(n : Int) else n))
  else
    let decimals := l.decimals.getD []
    let (n, extra, kept) :=
      if extra = 0 then
        let (n, skipped) := foldDigits decimals n
        (n, 0, decimals.length - skipped)
      else (n, extra, 0)
    let shift : Int := (extra : Int) - (kept : Int)
    match l.exponent with
    | none => fraction? l.negative n shift
    | some (below, digits) =>
      let e := digits.foldl (fun e c => e * 10 + digitValue c) 0
      if e < Nat.pow 2 31 then fraction? l.negative n (if below then shift - e else shift + e)
      else if n ≠ 0 ∧ ¬ below then none
      else fraction? l.negative 0 0

/-- At least one digit. -/
def digits? (cs : List Char) : Option (List Char × List Char) :=
  let digits := cs.takeWhile Char.isDigit
  if digits.isEmpty then none else some (digits, cs.dropWhile Char.isDigit)

/-- The parts of the number at the start of a text. -/
def literal? (cs : List Char) : Option (Literal × List Char) := do
  let (negative, cs) := match cs with
    | '-' :: rest => (true, rest)
    | _ => (false, cs)
  let (whole, cs) ← match cs with
    | '0' :: rest => some (['0'], rest)
    | _ => digits? cs
  let (decimals, cs) ← match cs with
    | '.' :: rest => (digits? rest).map fun (ds, rest) => (some ds, rest)
    | _ => some (none, cs)
  let (exponent, cs) ← match cs with
    | 'e' :: rest | 'E' :: rest =>
      let (below, rest) := match rest with
        | '-' :: more => (true, more)
        | '+' :: more => (false, more)
        | _ => (false, rest)
      (digits? rest).map fun (ds, rest) => (some (below, ds), rest)
    | _ => some (none, cs)
  some (⟨negative, whole, decimals, exponent⟩, cs)

def number? (cs : List Char) : Option (Json × List Char) := do
  let (literal, rest) ← literal? cs
  let n ← literal.value?
  some (.num n, rest)

/-- The text after a word that it starts with. -/
def dropWord? : List Char → List Char → Option (List Char)
  | [], cs => some cs
  | w :: ws, c :: cs => if w = c then dropWord? ws cs else none
  | _ :: _, [] => none

mutual

/-- One value, after white space. `depth` is how many levels of nesting are left. -/
def value (fuel depth : Nat) (cs : List Char) : Option (Json × List Char) :=
  match fuel with
  | 0 => none
  | fuel + 1 =>
    match skipSpace cs with
    | '\x7b' :: rest =>
      match depth with
      | 0 => none
      | depth + 1 =>
        match skipSpace rest with
        | '\x7d' :: rest => some (.obj [], rest)
        | rest => (members fuel depth [] rest).map fun (fields, rest) => (.obj fields, rest)
    | '[' :: rest =>
      match depth with
      | 0 => none
      | depth + 1 =>
        match skipSpace rest with
        | ']' :: rest => some (.arr [], rest)
        | rest => (elements fuel depth [] rest).map fun (items, rest) => (.arr items, rest)
    | '"' :: rest => (string rest).map fun (s, rest) => (.str s, rest)
    | 't' :: rest => (dropWord? "rue".toList rest).map fun rest => (.bool true, rest)
    | 'f' :: rest => (dropWord? "alse".toList rest).map fun rest => (.bool false, rest)
    | 'n' :: rest => (dropWord? "ull".toList rest).map fun rest => (.null, rest)
    | rest => number? rest

/-- The elements of an array up to its closing bracket; `done` holds those before, in reverse. -/
def elements (fuel depth : Nat) (done : List Json) (cs : List Char) :
    Option (List Json × List Char) :=
  match fuel with
  | 0 => none
  | fuel + 1 =>
    match value fuel depth cs with
    | none => none
    | some (item, rest) =>
      match skipSpace rest with
      | ',' :: rest => elements fuel depth (item :: done) rest
      | ']' :: rest => some ((item :: done).reverse, rest)
      | _ => none

/-- The fields of an object up to its closing brace. -/
def members (fuel depth : Nat) (done : List (String × Json)) (cs : List Char) :
    Option (List (String × Json) × List Char) :=
  match fuel with
  | 0 => none
  | fuel + 1 =>
    match skipSpace cs with
    | '"' :: rest =>
      match string rest with
      | none => none
      | some (name, rest) =>
        match skipSpace rest with
        | ':' :: rest =>
          match value fuel depth rest with
          | none => none
          | some (item, rest) =>
            match skipSpace rest with
            | ',' :: rest => members fuel depth (setField done name item) rest
            | '\x7d' :: rest => some (setField done name item, rest)
            | _ => none
        | _ => none
    | _ => none

end

/-- The value that a whole text stands for. Each level of the grammar takes a character, so twice
the length of the text bounds the steps. -/
def ofText? (text : String) : Option Json :=
  let cs := text.toList
  match value (2 * cs.length + 2) 127 cs with
  | some (j, rest) => if (skipSpace rest).isEmpty then some j else none
  | none => none

end DocSync.Json
