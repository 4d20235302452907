import DocSync.Text.Change

/-!
# Edits

An edit is what an editor reports before it changes its buffer: which bytes go and what comes in
their place. `Edit.toChange` says the same in positions, so that a server can follow; the two agree
on every text, in what they fail on as well as in the text they give.
-/
namespace DocSync

/-- Replaces `oldLength` bytes at `offset`. -/
structure Edit where
  offset : Nat
  oldLength : Nat
  newText : String
deriving DecidableEq, Repr

namespace Edit

/-- The largest offset that a machine word holds. -/
def wordLimit : Nat := Nat.pow 2 64 - 1

/-- An edit that removes nothing. -/
def insertion (offset : Nat) (newText : String) : Edit := ⟨offset, 0, newText⟩

/-- Where the replaced bytes end. Offsets stop at the largest word. -/
def stop (e : Edit) : Nat := min (e.offset + e.oldLength) wordLimit

/-- What stands before the replaced bytes, the replaced text, and what stands after it. -/
def cut (e : Edit) (text : List Char) :
    Except PositionError (List Char × List Char × List Char) :=
  if byteLength text < e.stop then .error (.offsetOutOfBounds e.stop (byteLength text))
  else match splitBytes text e.offset with
    | none => .error (.notCharBoundary e.offset)
    | some (before, rest) =>
      match splitBytes rest (e.stop - e.offset) with
      | none => .error (.notCharBoundary e.stop)
      | some (replaced, after) => .ok (before, replaced, after)

/-- The buffer after the edit. -/
def apply (e : Edit) (old : String) : Except PositionError String :=
  (e.cut old.toList).map fun (before, _, after) =>
    String.ofList (before ++ e.newText.toList ++ after)

/-- The edit as a change of the text it is about to modify. -/
def toChange (e : Edit) (old : String) : Except PositionError Change :=
  (e.cut old.toList).map fun (before, replaced, after) =>
    .incremental
      ⟨.between before (replaced ++ after), .between (before ++ replaced) after⟩
      (unitLength replaced) e.newText

end Edit

end DocSync
