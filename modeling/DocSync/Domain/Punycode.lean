import DocSync.Data.List

/-!
# Labels in ASCII

A label is written as its ASCII characters, a hyphen, and then the others in the order of their
code points. Each of those is given by a number: how many places there were for it and for smaller
code points since the one before. Numbers have digits of varying weight, the lowest first, and the
last digit of a number is known by being below a threshold.
-/
namespace DocSync.Punycode

def isBasic (c : Char) : Bool := c.toNat < 0x80

/-- Letters come first, then figures. -/
def digit (n : Nat) : Char :=
  if n < 26 then Char.ofNat ('a'.toNat + n) else Char.ofNat ('0'.toNat + (n - 26))

def digitValue? (c : Char) : Option Nat :=
  if 'a' ≤ c ∧ c ≤ 'z' then some (c.toNat - 'a'.toNat)
  else if '0' ≤ c ∧ c ≤ '9' then some (c.toNat - '0'.toNat + 26)
  else none

/-- What a digit has to reach for another one to follow. It grows with the position, by 36 at each
digit, and falls with the bias. -/
def threshold (bias position : Nat) : Nat :=
  if position ≤ bias then 1 else if bias + 26 ≤ position then 26 else position - bias

theorem threshold_pos (bias position : Nat) : 0 < threshold bias position := by
  unfold threshold
  split
  · omega
  · split <;> omega

/-- The bias after a number, `count` characters being written by then. -/
def adapt (number count : Nat) (first : Bool) : Nat :=
  let scaled := if first then number / 700 else number / 2
  reduce (scaled + scaled / count) 0
where
  reduce (n bias : Nat) : Nat :=
    if 455 < n then reduce (n / 35) (bias + 36) else bias + 36 * n / (n + 38)
  termination_by n
  decreasing_by exact Nat.div_lt_self (by omega) (by omega)

/-! ## Writing -/

def numberDigits (bias position number : Nat) : List Char :=
  let t := threshold bias position
  if number < t then [digit number]
  else digit (t + (number - t) % (36 - t)) ::
    numberDigits bias (position + 36) ((number - t) / (36 - t))
termination_by number
decreasing_by
  have pos := threshold_pos bias position
  exact Nat.lt_of_le_of_lt (Nat.div_le_self _ _) (by omega)

structure Writing where
  number : Nat
  bias : Nat
  /-- How many characters are written, with the basic ones. -/
  count : Nat
  text : List Char

/-- Passes by one character of the label, which is written if it is the code point in turn. -/
def Writing.pass (basics point : Nat) (w : Writing) (c : Char) : Writing :=
  if c.toNat < point then { w with number := w.number + 1 }
  else if c.toNat = point then
    { number := 0
      bias := adapt w.number (w.count + 1) (w.count == basics)
      count := w.count + 1
      text := w.text ++ numberDigits w.bias 36 w.number }
  else w

/-- Writes the code points that are left, the first of which comes after `next - 1`. -/
def Writing.points (label : List Char) (basics next : Nat) (w : Writing) : List Nat → List Char
  | [] => w.text
  | point :: rest =>
    let w := { w with number := w.number + (point - next) * (w.count + 1) }
    let w := label.foldl (Writing.pass basics point) w
    Writing.points label basics (point + 1) { w with number := w.number + 1 } rest

def encode (label : List Char) : List Char :=
  let basics := label.filter isBasic
  let others := ((label.filter fun c => !isBasic c).map Char.toNat).mergeSort.eraseDups
  basics ++ (if basics.isEmpty then [] else ['-']) ++
    Writing.points label basics.length 0x80 ⟨0, 72, basics.length, []⟩ others

/-! ## Reading -/

structure Reading where
  /-- The label so far. -/
  label : List Char
  point : Nat := 0x80
  bias : Nat := 72
  /-- The place after the last character that was put in. -/
  start : Nat := 0
  /-- The number that is being read, counted from that place on. -/
  number : Nat := 0
  weight : Nat := 1
  position : Nat := 36

/-- The reading after a number: its character is put in its place. -/
def Reading.put? (r : Reading) (number : Nat) : Option Reading :=
  let count := r.label.length + 1
  let point := r.point + (r.start + number) / count
  let place := (r.start + number) % count
  if point.isValidChar then
    some {
      label := r.label.insertIdx place (Char.ofNat point)
      point
      bias := adapt number count (r.start == 0)
      start := place + 1 }
  else none

def Reading.next? (r : Reading) (c : Char) : Option Reading := do
  let d ← digitValue? c
  let t := threshold r.bias r.position
  let number := r.number + d * r.weight
  if d < t then r.put? number
  else some { r with number, weight := r.weight * (36 - t), position := r.position + 36 }

/-- The label that a text stands for. Its last number has to be complete. -/
def decode? (text : List Char) : Option (List Char) := do
  let (basics, digits) := match Split.cutLast '-' text with
    | some (c :: basics, digits) => (c :: basics, digits)
    | _ => ([], text)
  if !basics.all isBasic then none
  let r ← digits.foldlM Reading.next? { label := basics }
  if r.position = 36 then some r.label else none

end DocSync.Punycode
