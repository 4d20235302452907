import DocSync.Unicode.CombiningClass
import DocSync.Unicode.Decomposition

/-!
# The composed form of a text

Texts that look the same may differ in which characters carry their marks, and in the order of
marks. The composed form takes characters apart, puts marks into the order of their classes, and
puts the characters together again as far as that goes.
-/
namespace DocSync.Unicode

/-- A character taken apart; the steps suffice for any, as a base is taken apart thrice at most. -/
def takeApart (c : Char) : List Char := go 3 c
where
  go : Nat → Char → List Char
    | 0, c => [c]
    | steps + 1, c =>
      match parts? c with
      | none => [c]
      | some (base, mark) => go steps base ++ [mark]

/-- Puts a character in front of marks in order, behind those that come before it. -/
def insertMark (c : Char) : List Char → List Char
  | [] => [c]
  | d :: rest =>
    if combiningClass d ≠ 0 ∧ combiningClass d < combiningClass c then d :: insertMark c rest
    else c :: d :: rest

/-- The text with the marks after each starter in the order of their classes. -/
def orderMarks (cs : List Char) : List Char := cs.foldr insertMark []

/-- Puts a starter together with what follows. `marks` are those after it that it did not take in,
the last one first; one of them hides what is not of a higher class than it. -/
def putTogether (starter : Char) (marks : List Char) : List Char → List Char
  | [] => starter :: marks.reverse
  | c :: rest =>
    let visible : Bool := match marks with
      | [] => true
      | mark :: _ => combiningClass mark < combiningClass c
    match if visible then whole? starter c else none with
    | some starter => putTogether starter marks rest
    | none =>
      if combiningClass c = 0 then starter :: marks.reverse ++ putTogether c [] rest
      else putTogether starter (c :: marks) rest

def composed (cs : List Char) : List Char :=
  let ordered := orderMarks (cs.flatMap takeApart)
  let isMarking (c : Char) : Bool := combiningClass c != 0
  match ordered.dropWhile isMarking with
  | [] => ordered
  | starter :: rest => ordered.takeWhile isMarking ++ putTogether starter [] rest

end DocSync.Unicode
