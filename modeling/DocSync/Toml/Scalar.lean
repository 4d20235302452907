import DocSync.Toml.Basic

/-!
# Scalars

The values that are written without quotes and brackets: booleans, integers in four bases,
fractions and date-times. Digits may be grouped by single underscores between them, and a decimal
number has no superfluous zero in front.
-/
namespace DocSync.Toml.Scalar

def digitValue? (base : Nat) (c : Char) : Option Nat :=
  let v :=
    if '0' ≤ c ∧ c ≤ '9' then c.toNat - '0'.toNat
    else if 'a' ≤ c ∧ c ≤ 'f' then c.toNat - 'a'.toNat + 10
    else if 'A' ≤ c ∧ c ≤ 'F' then c.toNat - 'A'.toNat + 10
    else base
  if v < base then some v else none

/-- The digits of a token that holds nothing but digits and underscores between them. -/
def grouped? (base : Nat) : List Char → Option (List Nat)
  | [] => none
  | [c] => (digitValue? base c).map ([·])
  | c :: '_' :: rest => do
    let d ← digitValue? base c
    some (d :: (← grouped? base rest))
  | c :: rest => do
    let d ← digitValue? base c
    some (d :: (← grouped? base rest))

def value (base : Nat) (digits : List Nat) : Nat := digits.foldl (fun n d => n * base + d) 0

def sign (cs : List Char) : Bool × List Char :=
  match cs with
  | '-' :: rest => (true, rest)
  | '+' :: rest => (false, rest)
  | _ => (false, cs)

/-- The digits of a whole number in decimal. -/
def whole? (cs : List Char) : Option (List Nat) := do
  let digits ← grouped? 10 cs
  if digits.head? = some 0 ∧ cs.length ≠ 1 then none else some digits

def integer? (cs : List Char) : Option Int :=
  match cs with
  | '0' :: 'x' :: rest => (grouped? 16 rest).map fun ds => (value 16 ds : Int)
  | '0' :: 'o' :: rest => (grouped? 8 rest).map fun ds => (value 8 ds : Int)
  | '0' :: 'b' :: rest => (grouped? 2 rest).map fun ds => (value 2 ds : Int)
  | _ =>
    let (negative, rest) := sign cs
    (whole? rest).map fun ds => if negative then -(value 10 ds : Int) else value 10 ds

/-- The fraction `digits * 10 ^ exponent`, if it is not too large for a binary64 number. -/
def float? (digits : List Nat) (exponent : Int) : Option Float :=
  let n := value 10 digits
  let top := exponent + ((toString n).length : Int)
  if n = 0 ∨ top < -400 then some 0.0
  else if 400 < top then none
  else
    let f := Float.ofScientific n (exponent < 0) exponent.natAbs
    if f.isInf then none else some f

/-- The fractional digits after a point, if there is one. -/
def decimals? (cs : List Char) : Option (Option (List Nat) × List Char) :=
  match cs with
  | '.' :: rest =>
    let digits := rest.takeWhile fun c => c != 'e' && c != 'E'
    (grouped? 10 digits).map fun ds => (some ds, rest.drop digits.length)
  | _ => some (none, cs)

/-- The decimal exponent at the end of a token. -/
def exponent? (cs : List Char) : Option (Option Int) :=
  match cs with
  | [] => some none
  | c :: rest =>
    if c = 'e' ∨ c = 'E' then
      let (negative, digits) := sign rest
      (grouped? 10 digits).map fun ds =>
        some (if negative then -(value 10 ds : Int) else value 10 ds)
    else none

def fraction? (cs : List Char) : Option Float := do
  let (negative, rest) := sign cs
  let signed (f : Float) : Float := if negative then -f else f
  if rest = ['i', 'n', 'f'] then some (signed (1.0 / 0.0))
  else if rest = ['n', 'a', 'n'] then some (signed (0.0 / 0.0))
  else
    let head := rest.takeWhile fun c => c != '.' && c != 'e' && c != 'E'
    let front ← whole? head
    let (decimals, rest) ← decimals? (rest.drop head.length)
    let exponent ← exponent? rest
    if decimals.isNone ∧ exponent.isNone then none
    else
      let decimals := decimals.getD []
      let f ← float? (front ++ decimals) (exponent.getD 0 - decimals.length)
      some (signed f)

/-- Integers that a reader takes at all. -/
def readable (n : Int) : Bool := -(Nat.pow 2 127 : Int) ≤ n && n < (Nat.pow 2 128 : Int)

/-- The value of a token. -/
def ofToken? (cs : List Char) : Option Toml :=
  if cs = "true".toList then some (.boolean true)
  else if cs = "false".toList then some (.boolean false)
  else match integer? cs with
    | some n => if readable n then some (.integer n) else none
    | none =>
      match fraction? cs with
      | some f => some (.float f.toBits)
      | none => (DateTime.ofToken? cs).map .dateTime

end DocSync.Toml.Scalar
