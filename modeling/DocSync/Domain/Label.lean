import DocSync.Unicode.CombiningClass
import DocSync.Unicode.Direction
import DocSync.Unicode.Joining

/-!
# What may stand in a label

A label of a domain name may not have every character everywhere: joiners have to make a difference
where they stand, and labels of names that are written from right to left have to keep their
characters together when they are displayed.
-/
namespace DocSync.Domain

open Unicode

/-! ## Joiners

Two characters without a width ask letters to join, or not to join. A label may have them only where
that makes a difference: after a virama, and the one that separates also between letters of a
cursive script that would join.
-/

def separator : Char := '\u200C'
def connector : Char := '\u200D'

/-- The joining type of the first character that is not transparent. -/
def nextJoining? (cs : List Char) : Option Joining :=
  (cs.map joining).find? (· != .transparent)

/-- Whether the letters before and after a place would join; those before are given backwards. -/
def joinsAcross (before after : List Char) : Bool :=
  (match nextJoining? before with
    | some .left | some .dual => true
    | _ => false) &&
  (match nextJoining? after with
    | some .right | some .dual => true
    | _ => false)

def afterVirama : List Char → Bool
  | c :: _ => isVirama c
  | [] => false

/-- Whether all joiners stand where they may; what comes before the rest is given backwards. -/
def joinersFit (before : List Char) : List Char → Bool
  | [] => true
  | c :: after =>
    let fits :=
      if c = separator then afterVirama before || joinsAcross before after
      else if c = connector then afterVirama before
      else true
    fits && joinersFit (c :: before) after

/-! ## Two directions

Where a domain name has a label that is written from right to left, each of its labels has to keep
its characters together: it begins with a letter, what else it holds goes with that direction, it
ends in a letter or number, and it does not mix numbers of two kinds.
-/

/-- Whether a label has characters that run from right to left. -/
def runsLeft (label : List Char) : Bool :=
  label.any fun c => [Direction.rightToLeft, .arabicLetter, .arabicNumber].contains (direction c)

/-- What may stand in a label of either direction. -/
def neutralDirections : List Direction :=
  [.europeanNumber, .europeanSeparator, .commonSeparator, .europeanTerminator, .otherNeutral,
    .boundaryNeutral, .nonspacingMark]

/-- Whether the directions of a label are among those allowed, and the last but marks is one of
those that may end it. -/
def staysWithin (allowed ends classes : List Direction) : Bool :=
  classes.all allowed.contains &&
    match classes.reverse.find? (· != .nonspacingMark) with
    | some last => ends.contains last
    | none => false

def keepsTogether (label : List Char) : Bool :=
  let classes := label.map direction
  match classes with
  | [] => true
  | .leftToRight :: _ =>
    staysWithin (.leftToRight :: neutralDirections) [.leftToRight, .europeanNumber] classes
  | .rightToLeft :: _ | .arabicLetter :: _ =>
    staysWithin ([.rightToLeft, .arabicLetter, .arabicNumber] ++ neutralDirections)
        [.rightToLeft, .arabicLetter, .europeanNumber, .arabicNumber] classes &&
      !(classes.contains .europeanNumber && classes.contains .arabicNumber)
  | _ => false

end DocSync.Domain
