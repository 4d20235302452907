import DocSync.Json.Basic
import DocSync.Toml.DateTime

/-!
# Configuration documents

The value that a TOML document stands for.
-/
namespace DocSync

inductive Toml
  | string (s : String)
  | integer (n : Int)
  | float (bits : UInt64)
  | boolean (b : Bool)
  | dateTime (d : DateTime)
  | array (items : List Toml)
  | table (entries : List (String × Toml))

namespace Toml

mutual

/-- The value as a data document. Date-times become texts. -/
def toJson : Toml → Json
  | .string s => .str s
  | .integer n => .num (.int n)
  | .float bits => .num (.float bits)
  | .boolean b => .bool b
  | .dateTime d => .str d.text
  | .array items => .arr (itemsToJson items)
  | .table entries => .obj (entriesToJson entries)

def itemsToJson : List Toml → List Json
  | [] => []
  | item :: items => toJson item :: itemsToJson items

def entriesToJson : List (String × Toml) → List (String × Json)
  | [] => []
  | (key, item) :: entries => (key, toJson item) :: entriesToJson entries

end

mutual

/-- Whether all integers of a value are signed 64-bit words. -/
def signedWords : Toml → Bool
  | .integer n => -(Nat.pow 2 63 : Int) ≤ n && n < (Nat.pow 2 63 : Int)
  | .array items => itemsSignedWords items
  | .table entries => entriesSignedWords entries
  | _ => true

def itemsSignedWords : List Toml → Bool
  | [] => true
  | item :: items => signedWords item && itemsSignedWords items

def entriesSignedWords : List (String × Toml) → Bool
  | [] => true
  | (_, item) :: entries => signedWords item && entriesSignedWords entries

end

end Toml

end DocSync
