import DocSync.Domain.Disallowed
import DocSync.Domain.Folding
import DocSync.Domain.Label
import DocSync.Domain.Punycode
import DocSync.Unicode.Mark
import DocSync.Unicode.NormalForm

/-!
# Domain names

A domain name is a list of labels with dots between them. It may be written in any script, and each
label also in ASCII after a tag. All spellings of a name are brought to one text in ASCII: they are
folded first, and then each label is decoded, checked and encoded.
-/
namespace DocSync.Domain

open Punycode (isBasic)

/-! ## Folding

Characters that stand for others are replaced, those that only steer the display are left out, and
the rest is composed.
-/

/-- Characters that count for nothing. -/
def ignored : Unicode.CodeSet := .ofText
  "AD 34F 115F-1160 17B4-17B5 180B-180F 200B 2060-2064 206A-206F 3164 FE00-FE0F FEFF FFA0
    1BCA0-1BCA3 1D173-1D17A E0100-E01EF"

/-- What a character stands for, unless no domain has it. -/
def foldChar? (c : Char) : Option (List Char) :=
  match foldings.find? c with
  | some cs => some cs
  | none =>
    if ignored.has c then some []
    else if disallowed.has c then none
    else some [c]

def fold? (text : List Char) : Option (List Char) :=
  (text.mapM foldChar?).map fun parts => Unicode.composed parts.flatten

/-! ## Labels -/

/-- What a label in ASCII begins with if it stands for one in another script. -/
def encodedTag : List Char := ['x', 'n', '-', '-']

def isEncoded (label : List Char) : Bool := encodedTag.isPrefixOf label

/-- The most characters of a label that are encoded, and the most that are decoded. -/
def encodeLimit : Nat := 1000
def decodeLimit : Nat := 2000

/-- The label that an encoded one stands for. It has to be in the spelling that encoding starts
from, and to need it. -/
def decoded? (digits : List Char) : Option (List Char) := do
  if decodeLimit < digits.length then none
  let label ← Punycode.decode? digits
  if label.all isBasic || isEncoded label || fold? label != some label then none
  else some label

/-- The label that a folded one stands for. -/
def label? (written : List Char) : Option (List Char) :=
  if isEncoded written then decoded? (written.drop encodedTag.length)
  else if !written.all isBasic && decide (encodeLimit < written.length) then none
  else some written

/-- Whether a label begins with a character of its own, and its joiners fit. -/
def isLabel (label : List Char) : Bool :=
  !(label.head?.any Unicode.isMark) && joinersFit [] label

def asciiLabel (label : List Char) : List Char :=
  if label.all isBasic then label else encodedTag ++ Punycode.encode label

/-- Whether a name is in ASCII, with no label that stands for another one. -/
def isPlain (name : List Char) : Bool :=
  name.all isBasic && !(Split.parts (· == '.') (name.map Char.toLower)).any isEncoded

/-- The name in ASCII, unless it has a label that no domain name has. Any ASCII character passes. -/
def toAscii? (name : List Char) : Option (List Char) :=
  if isPlain name then some (name.map Char.toLower)
  else do
    let folded ← fold? name
    let labels ← (Split.parts (· == '.') folded).mapM label?
    if !labels.all isLabel || (labels.any runsLeft && !labels.all keepsTogether) then none
    else some (['.'].intercalate (labels.map asciiLabel))

end DocSync.Domain
