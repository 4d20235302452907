import DocSync.Data.List

/-!
# Tables of code points

Properties of characters are written down as texts, with blanks between the entries and code points
in hexadecimal digits. There are three forms: a set lists ranges, a class table says from which code
point on a value holds, and a code map says what code points are replaced with.
-/
namespace DocSync.Unicode

/-- The entries of a text, without the blanks around them. -/
def entries (text : String) : List (List Char) :=
  (Split.parts (fun c => c == ' ' || c == '\n') text.toList).filter fun entry => !entry.isEmpty

def code? (digits : List Char) : Option Nat := Digits.number? 16 digits

/-! ## Sets -/

/-- Closed ranges. -/
abbrev CodeSet := List (Nat × Nat)

namespace CodeSet

/-- A range such as `300-36F`, or one code point alone. -/
def range? (entry : List Char) : Option (Nat × Nat) :=
  match Split.parts (· == '-') entry with
  | [only] => (code? only).map fun n => (n, n)
  | [first, last] => do some (← code? first, ← code? last)
  | _ => none

def ofText (text : String) : CodeSet := (entries text).filterMap range?

def has (s : CodeSet) (c : Char) : Bool := s.any fun r => r.1 ≤ c.toNat && c.toNat ≤ r.2

end CodeSet

/-! ## Class tables -/

/-- Values in the order of the code points from which on they hold. -/
abbrev ClassTable (α : Type) := List (Nat × α)

namespace ClassTable

/-- Entries such as `300:230`. -/
def ofText {α : Type} (value? : List Char → Option α) (text : String) : ClassTable α :=
  (entries text).filterMap fun entry =>
    match Split.parts (· == ':') entry with
    | [first, label] => do some (← code? first, ← value? label)
    | _ => none

/-- The value of a character, where `before` holds in front of the table. -/
def value {α : Type} (before : α) (c : Char) : ClassTable α → α
  | [] => before
  | (first, next) :: rest => if c.toNat < first then before else value next c rest

end ClassTable

/-! ## Code maps -/

inductive Replacement
  /-- Consecutive code points, with what each of them is replaced with. -/
  | each (first : Nat) (targets : List (List Nat))
  /-- Code points at equal distances, up to `last`, and targets at the same distances. -/
  | run (first last distance target : Nat)
deriving DecidableEq, Repr

abbrev CodeMap := List Replacement

namespace Replacement

/-- One of the forms `A8:20.308,A9` for consecutive code points, `41-5A:61` for code points one
after the other, and `100/12E:101` for every second one. -/
def ofEntry? (entry : List Char) : Option Replacement :=
  match Split.parts (· == ':') entry with
  | [source, targets] =>
    match Split.parts (· == '-') source, Split.parts (· == '/') source with
    | [first, last], _ => do some (.run (← code? first) (← code? last) 1 (← code? targets))
    | _, [first, last] => do some (.run (← code? first) (← code? last) 2 (← code? targets))
    | _, _ => do
      let lists := (Split.parts (· == ',') targets).map (Split.parts (· == '.'))
      some (.each (← code? source) (← lists.mapM fun codes => codes.mapM code?))
  | _ => none

def codes? (n : Nat) : Replacement → Option (List Nat)
  | .each first targets => if n < first then none else targets[n - first]?
  | .run first last distance target =>
    if first ≤ n ∧ n ≤ last ∧ (n - first) % distance = 0 then some [target + (n - first)] else none

end Replacement

namespace CodeMap

def ofText (text : String) : CodeMap := (entries text).filterMap Replacement.ofEntry?

/-- What a character is replaced with, if the map has it. -/
def find? (m : CodeMap) (c : Char) : Option (List Char) :=
  (m.findSome? fun r => r.codes? c.toNat).map fun codes => codes.map Char.ofNat

end CodeMap

end DocSync.Unicode
