import DocSync.Json.Basic

/-!
# Writing a data document

The text of a value on one line. Only quotes, backslashes and control characters are escaped.
-/
namespace DocSync.Json

def hexDigit (n : Nat) : Char :=
  if n < 10 then Char.ofNat ('0'.toNat + n) else Char.ofNat ('a'.toNat + (n - 10))

def escapeChar (c : Char) : List Char :=
  match c with
  | '"' => ['\\', '"']
  | '\\' => ['\\', '\\']
  | '\n' => ['\\', 'n']
  | '\r' => ['\\', 'r']
  | '\t' => ['\\', 't']
  | c =>
    if c.toNat < 0x20 then
      ['\\', 'u', '0', '0', hexDigit (c.toNat / 16), hexDigit (c.toNat % 16)]
    else [c]

def quote (s : String) : String :=
  String.ofList ('"' :: s.toList.flatMap escapeChar ++ ['"'])

mutual

def render : Json → String
  | .null => "null"
  | .bool true => "true"
  | .bool false => "false"
  | .num n => n.text
  | .str s => quote s
  | .arr [] => "[]"
  | .arr (item :: items) => "[" ++ render item ++ renderItems items ++ "]"
  | .obj [] => "\x7b\x7d"
  | .obj ((name, item) :: fields) =>
    "\x7b" ++ quote name ++ ":" ++ render item ++ renderFields fields ++ "\x7d"

def renderItems : List Json → String
  | [] => ""
  | item :: items => "," ++ render item ++ renderItems items

def renderFields : List (String × Json) → String
  | [] => ""
  | (name, item) :: fields => "," ++ quote name ++ ":" ++ render item ++ renderFields fields

end

end DocSync.Json
