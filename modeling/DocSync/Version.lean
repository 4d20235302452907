/-!
# Document versions

A server tells states of a document apart by a number that goes up with every notification that
carries text. A pull for diagnostics is made for one version, or for whichever is current.
-/
namespace DocSync

/-- Version 0 means that nothing was sent; the first text that is sent carries version 1. -/
structure Version where
  value : Int
deriving DecidableEq, Repr

namespace Version

def initial : Version := ⟨0⟩

def next (v : Version) : Version := ⟨v.value + 1⟩

def text (v : Version) : String := toString v.value

end Version

/-- What a pull for diagnostics was made for. -/
inductive PullVersion
  | exact (v : Version)
  | any
deriving DecidableEq, Repr

namespace PullVersion

/-- Whether an answer is still of use for a document at version `current`. -/
def accepts : PullVersion → Version → Bool
  | .exact v, current => v == current
  | .any, _ => true

def text : PullVersion → String
  | .exact v => v.text
  | .any => "any"

end PullVersion

end DocSync
