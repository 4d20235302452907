import DocSync.Decimal.Shortest

/-!
# Numbers of a data document

A number without fraction and exponent that fits a signed or an unsigned machine word is an integer;
every other number is a binary64 fraction, kept by its bits. The two stay apart: `1.0` is no
integer.
-/
namespace DocSync

inductive Number
  | int (n : Int)
  | float (bits : UInt64)
deriving DecidableEq, Repr

namespace Number

/-- How fractions are laid out: decimal exponents for which the digits are written out around a
point, and the sign that a positive exponent carries otherwise. -/
structure Layout where
  positionalFrom : Int
  positionalBelow : Int
  exponentSign : String

/-- Digits are written out from `1e-5` up to, and not including, `1e16`. -/
def layout : Layout := ⟨-5, 16, "+"⟩

def zeros (n : Nat) : String := String.ofList (List.replicate n '0')

/-- The digits of a decimal whose leading digit stands at `10 ^ lead`, around a point. -/
def positional (digits : List Char) (lead : Int) : String :=
  if lead < 0 then "0." ++ zeros ((-lead).toNat - 1) ++ String.ofList digits
  else
    let whole := lead.toNat + 1
    if digits.length ≤ whole then String.ofList digits ++ zeros (whole - digits.length) ++ ".0"
    else String.ofList (digits.take whole) ++ "." ++ String.ofList (digits.drop whole)

/-- The digits of a decimal with an exponent. -/
def scientific (digits : List Char) (lead : Int) : String :=
  let sign := if lead < 0 then "-" else layout.exponentSign
  let fraction := digits.drop 1
  let point := if fraction.isEmpty then "" else "."
  String.ofList (digits.take 1) ++ point ++ String.ofList fraction ++ "e" ++ sign
    ++ toString lead.natAbs

/-- The text of the number with the given bits; the magnitude is written with the fewest digits
that read back. -/
def floatText (bits : UInt64) : String :=
  let sign := if bits >>> 63 = 1 then "-" else ""
  let x := Decimal.Binary.ofBits bits
  if x.mantissa = 0 then sign ++ "0.0"
  else
    let d := x.shortest
    let digits := (toString d.digits).toList
    let lead := d.exponent + (digits.length : Int) - 1
    let body :=
      if layout.positionalFrom ≤ lead ∧ lead < layout.positionalBelow then positional digits lead
      else scientific digits lead
    sign ++ body

def text : Number → String
  | .int n => toString n
  | .float bits => floatText bits

end Number

end DocSync
