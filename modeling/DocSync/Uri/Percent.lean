/-!
# Percent encoding

Bytes that a part of a URI may not hold as they are are written as `%` and two hexadecimal digits.
Which bytes those are depends on the part; control characters and bytes beyond ASCII always are.
-/
namespace DocSync.Percent

/-- A set of ASCII characters to encode, besides those that always are. -/
abbrev EncodeSet := List Char

def fragment : EncodeSet := [' ', '"', '<', '>', Char.ofNat 0x60]

def query : EncodeSet := [' ', '"', '#', '<', '>']

def specialQuery : EncodeSet := '\'' :: query

def path : EncodeSet := fragment ++ ['#', '?', '\x7b', '\x7d']

def userinfo : EncodeSet := path ++ ['/', ':', ';', '=', '@', '[', '\\', ']', '^', '|']

/-- One segment of a path of a special scheme. -/
def segment : EncodeSet := path ++ ['/', '%', '\\']

/-- Only what always is encoded. -/
def controls : EncodeSet := []

def upperHex (n : Nat) : Char :=
  if n < 10 then Char.ofNat ('0'.toNat + n) else Char.ofNat ('A'.toNat + (n - 10))

def encodeByte (set : EncodeSet) (b : UInt8) : List Char :=
  let c := Char.ofNat b.toNat
  if b < 0x20 || 0x7F ≤ b || set.contains c then
    ['%', upperHex (b.toNat / 16), upperHex (b.toNat % 16)]
  else [c]

def encodeBytes (set : EncodeSet) (bytes : List UInt8) : List Char :=
  bytes.flatMap (encodeByte set)

/-- The bytes of a text in UTF-8. -/
def utf8 (cs : List Char) : List UInt8 := (String.ofList cs).toUTF8.toList

def encode (set : EncodeSet) (cs : List Char) : List Char := encodeBytes set (utf8 cs)

def hexValue? (b : UInt8) : Option UInt8 :=
  if 0x30 ≤ b && b ≤ 0x39 then some (b - 0x30)
  else if 0x61 ≤ b && b ≤ 0x66 then some (b - 0x61 + 10)
  else if 0x41 ≤ b && b ≤ 0x46 then some (b - 0x41 + 10)
  else none

/-- Bytes with every `%` and two digits read back; a `%` without two digits stands for itself. -/
def decode : List UInt8 → List UInt8
  | 0x25 :: a :: b :: rest =>
    match hexValue? a, hexValue? b with
    | some x, some y => (x * 16 + y) :: decode rest
    | _, _ => 0x25 :: decode (a :: b :: rest)
  | c :: rest => c :: decode rest
  | [] => []

end DocSync.Percent
