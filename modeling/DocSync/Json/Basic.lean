import DocSync.Json.Number

/-!
# Data documents

The value that protocol messages are made of. An object keeps its fields in the order of writing;
a reader looks fields up by name.
-/
namespace DocSync

inductive Json
  | null
  | bool (b : Bool)
  | num (n : Number)
  | str (s : String)
  | arr (items : List Json)
  | obj (fields : List (String × Json))

namespace Json

def ofNat (n : Nat) : Json := .num (.int n)

def ofInt (n : Int) : Json := .num (.int n)

/-- A text, or null. -/
def ofString? : Option String → Json
  | some s => .str s
  | none => .null

/-- The field of an object. Values that are no objects have no fields. -/
def field? (name : String) : Json → Option Json
  | .obj fields => fields.lookup name
  | _ => none

/-- The fields with one of them set; it takes the place of an earlier one of the same name. -/
def setField (fields : List (String × Json)) (name : String) (value : Json) :
    List (String × Json) :=
  match fields with
  | [] => [(name, value)]
  | (k, v) :: rest => if k = name then (k, value) :: rest else (k, v) :: setField rest name value

end Json

end DocSync
