/-!
# Lists

What the rest needs of lists: they are cut at separators, read as digits, and kept as tables that
are sorted by name.
-/
namespace DocSync

/-! ## Parts -/

namespace Split

/-- The parts between separators: always one more than there are separators. -/
def parts {α : Type} (separates : α → Bool) : List α → List (List α)
  | [] => [[]]
  | x :: xs =>
    match separates x, parts separates xs with
    | true, rest => [] :: rest
    | false, [] => [[x]]
    | false, p :: rest => (x :: p) :: rest

/-- What stands before and after the last occurrence of an element. -/
def cutLast {α : Type} [DecidableEq α] (sep : α) : List α → Option (List α × List α)
  | [] => none
  | x :: xs =>
    match cutLast sep xs with
    | some (before, after) => some (x :: before, after)
    | none => if x = sep then some ([], xs) else none

end Split

/-! ## Digits

Numbers written with digits of some base. Letters stand for the digits from ten on, in either case.
-/

namespace Digits

def value? (c : Char) : Option Nat :=
  if '0' ≤ c ∧ c ≤ '9' then some (c.toNat - '0'.toNat)
  else if 'a' ≤ c ∧ c ≤ 'z' then some (c.toNat - 'a'.toNat + 10)
  else if 'A' ≤ c ∧ c ≤ 'Z' then some (c.toNat - 'A'.toNat + 10)
  else none

/-- The number that digits of a base stand for. No digits stand for zero. -/
def number? (base : Nat) (digits : List Char) : Option Nat :=
  digits.foldl
    (fun n c => do
      let n ← n
      let d ← value? c
      if d < base then some (n * base + d) else none)
    (some 0)

end Digits

/-! ## Tables

A table is a list of named values in strictly ascending order of the names, compared code point by
code point, which is also the byte order of their UTF-8 form.
-/

namespace Sorted

/-- The table with `name` standing for `value`, in its place. -/
def insert {α : Type} (name : String) (value : α) : List (String × α) → List (String × α)
  | [] => [(name, value)]
  | (k, v) :: rest =>
    if name < k then (name, value) :: (k, v) :: rest
    else if name = k then (name, value) :: rest
    else (k, v) :: insert name value rest

/-- The table without `name`. -/
def erase {α : Type} (name : String) (table : List (String × α)) : List (String × α) :=
  table.filter fun (k, _) => k != name

/-- The table of a list of named values; of two values with one name the later counts. -/
def ofList {α : Type} (entries : List (String × α)) : List (String × α) :=
  entries.foldl (fun table (k, v) => insert k v table) []

/-- Names come in strictly ascending order. -/
def Ascending {α : Type} (table : List (String × α)) : Prop :=
  (table.map Prod.fst).Pairwise (· < ·)

end Sorted

end DocSync
