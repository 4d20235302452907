import DocSync.Json.Basic

/-!
# Reading records

A record may be written as an object or as an array of its fields in the order of declaration.
Unknown fields of an object are passed over; in an array trailing fields may be missing, but none
may be added. Whether a missing field is an error is for the field to say: an optional one reads as
absent when it is missing or null.
-/
namespace DocSync.Json

def bool? : Json → Option Bool
  | .bool b => some b
  | _ => none

def string? : Json → Option String
  | .str s => some s
  | _ => none

def array? : Json → Option (List Json)
  | .arr items => some items
  | _ => none

def object? : Json → Option (List (String × Json))
  | .obj fields => some fields
  | _ => none

/-- An integer from `low` up to, and not including, `high`. -/
def intIn? (low high : Int) : Json → Option Int
  | .num (.int n) => if low ≤ n ∧ n < high then some n else none
  | _ => none

/-- A natural number that a word of so many bits holds. -/
def word? (bits : Nat) (j : Json) : Option Nat := (j.intIn? 0 (Nat.pow 2 bits : Nat)).map Int.toNat

/-- An integer that a signed word of so many bits holds. -/
def signedWord? (bits : Nat) (j : Json) : Option Int :=
  let limit : Int := (Nat.pow 2 (bits - 1) : Nat)
  j.intIn? (-limit) limit

/-- How to find the fields of a record by name. -/
abbrev Fields := String → Option Json

/-- The fields of a record written as an object. -/
def objectFields? : Json → Option Fields
  | .obj fields => some fun name => fields.lookup name
  | _ => none

/-- The fields of a record written in either way; `names` lists them in the order of declaration. -/
def fields? (names : List String) : Json → Option Fields
  | .obj fields => some fun name => fields.lookup name
  | .arr items =>
    if items.length ≤ names.length then some fun name => (names.zip items).lookup name else none
  | _ => none

namespace Fields

/-- A field that has to be there. -/
def required {α : Type} (get : Fields) (name : String) (read : Json → Option α) : Option α :=
  (get name).bind read

/-- A field with a value to fall back on when it is missing. -/
def withDefault {α : Type} (get : Fields) (name : String) (default : α)
    (read : Json → Option α) : Option α :=
  match get name with
  | none => some default
  | some j => read j

/-- A field that may be missing or null. -/
def optional {α : Type} (get : Fields) (name : String) (read : Json → Option α) :
    Option (Option α) :=
  match get name with
  | none => some none
  | some .null => some none
  | some j => (read j).map some

end Fields

/-- Reads every element of an array. -/
def list? {α : Type} (read : Json → Option α) (j : Json) : Option (List α) :=
  j.array?.bind fun items => items.mapM read

/-- A record of one of several kinds: the tag that tells the kind, and the other fields. The tag is
a field of an object or the first element of an array. -/
structure Tagged where
  tag : Json
  body : Json

def tagged? (tagName : String) : Json → Option Tagged
  | .obj fields => (fields.lookup tagName).map fun tag => ⟨tag, .obj fields⟩
  | .arr (tag :: items) => some ⟨tag, .arr items⟩
  | _ => none

end DocSync.Json
