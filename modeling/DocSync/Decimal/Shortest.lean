/-!
# Shortest decimals of binary fractions

A finite binary64 number is written with the fewest decimal digits that still read back as the same
number, and of those with the digits nearest to it. A decimal reads back if it lies among the reals
that round to the number. On each grid of decimals the nearest candidates are the two neighbours of
the number itself, so it is enough to look at those, from the coarsest grid to the finest.
-/
namespace DocSync.Decimal

/-- The number `mantissa * 2 ^ exponent`. Just above a power of two the gap below is narrower. -/
structure Binary where
  mantissa : Nat
  exponent : Int
  narrowBelow : Bool

/-- The magnitude of a finite number, from its bits. -/
def Binary.ofBits (bits : UInt64) : Binary :=
  let biased := ((bits >>> 52) &&& 0x7FF).toNat
  let fraction := (bits &&& 0xFFFFFFFFFFFFF).toNat
  if biased = 0 then ⟨fraction, -1074, false⟩
  else ⟨Nat.pow 2 52 + fraction, (biased : Int) - 1075, fraction == 0 && 1 < biased⟩

/-- The number `digits * 10 ^ exponent`. -/
structure Scaled where
  digits : Nat
  exponent : Int
deriving DecidableEq, Repr

/-- The exact order of `a * 10 ^ i` and `b * 2 ^ j`. -/
def compareScaled (a : Nat) (i : Int) (b : Nat) (j : Int) : Ordering :=
  compare (a * Nat.pow 10 i.toNat * Nat.pow 2 (-j).toNat)
    (b * Nat.pow 2 j.toNat * Nat.pow 10 (-i).toNat)

/-- Whether a decimal lies among the reals that round to the number. The ends of that interval
belong to it when the mantissa is even. -/
def Binary.readsBack (x : Binary) (d : Scaled) : Bool :=
  let low := if x.narrowBelow then 4 * x.mantissa - 1 else 4 * x.mantissa - 2
  let high := 4 * x.mantissa + 2
  let closed := x.mantissa % 2 == 0
  let toLow := compareScaled d.digits d.exponent low (x.exponent - 2)
  let toHigh := compareScaled d.digits d.exponent high (x.exponent - 2)
  (toLow == .gt || (closed && toLow == .eq)) && (toHigh == .lt || (closed && toHigh == .eq))

/-- The number as a fraction of two naturals. -/
def Binary.fraction (x : Binary) : Nat × Nat :=
  (x.mantissa * Nat.pow 2 x.exponent.toNat, Nat.pow 2 (-x.exponent).toNat)

/-- The neighbour below on the grid of multiples of `10 ^ k`, and whether the number is nearer to
the neighbour above it or, when exactly between the two, the one below is odd. -/
def Binary.onGrid (x : Binary) (k : Int) : Nat × Bool :=
  let (num, den) := x.fraction
  let num := num * Nat.pow 10 (-k).toNat
  let den := den * Nat.pow 10 k.toNat
  let floor := num / den
  let twice := 2 * (num % den)
  (floor, den < twice || (twice == den && floor % 2 == 1))

/-- The nearest decimal of the grid that reads back. -/
def Binary.onGrid? (x : Binary) (k : Int) : Option Scaled :=
  let (floor, up) := x.onGrid k
  let below : Scaled := ⟨floor, k⟩
  let above : Scaled := ⟨floor + 1, k⟩
  match x.readsBack below, x.readsBack above with
  | true, true => some (if up then above else below)
  | true, false => some below
  | false, true => some above
  | false, false => none

/-- The exponent of the leading decimal digit, found by lowering a bound that is too high. -/
def Binary.leading (x : Binary) : Nat → Int → Int
  | 0, k => k
  | fuel + 1, k =>
    if (x.onGrid k).1 = 0 then x.leading fuel (k - 1) else k

/-- Tries grids with one more digit each. -/
def Binary.search (x : Binary) : Nat → Int → Scaled
  | 0, k => ⟨(x.onGrid k).1, k⟩
  | fuel + 1, k =>
    match x.onGrid? k with
    | some d => d
    | none => x.search fuel (k - 1)

/-- Drops trailing zeros of the digits. -/
def Scaled.trim : Nat → Scaled → Scaled
  | 0, d => d
  | fuel + 1, d =>
    if d.digits ≠ 0 ∧ d.digits % 10 = 0 then Scaled.trim fuel ⟨d.digits / 10, d.exponent + 1⟩ else d

/-- The shortest decimal of a positive number. A double has at most 309 digits before the point and
its first one at most 324 places after it; 17 digits always suffice. -/
def Binary.shortest (x : Binary) : Scaled :=
  (x.search 20 (x.leading 640 309 + 1)).trim 20

end DocSync.Decimal
