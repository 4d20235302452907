import DocSync.Domain.Basic
import DocSync.Uri.Percent

/-!
# Hosts

The host of a URI. Special schemes have domain names, which are written in ASCII, or addresses;
other schemes keep any text that needs no delimiter.
-/
namespace DocSync

inductive Host
  /-- No host, as in most `file` URIs. -/
  | none
  | domain (name : String)
  | ipv4 (address : Nat)
  | ipv6 (pieces : List Nat)
deriving DecidableEq, Repr

namespace Host

/-! ## Internet addresses -/

/-- One part of a dotted address: decimal, octal after `0`, hexadecimal after `0x`. -/
def ipv4Part? : List Char → Option Nat
  | [] => Option.none
  | '0' :: 'x' :: digits | '0' :: 'X' :: digits => Digits.number? 16 digits
  | '0' :: c :: digits => Digits.number? 8 (c :: digits)
  | digits => Digits.number? 10 digits

/-- The parts of a domain, without the empty one after a trailing dot. -/
def labels (domain : List Char) : List (List Char) :=
  let parts := Split.parts (· == '.') domain
  if 1 < parts.length ∧ parts.getLast? = some [] then parts.dropLast else parts

/-- Whether the last label asks for the domain to be read as an address. -/
def endsInNumber (domain : List Char) : Bool :=
  match (labels domain).getLast? with
  | some last => (!last.isEmpty && last.all Char.isDigit) || (ipv4Part? last).isSome
  | Option.none => false

/-- The address of a dotted form: the last part fills the bytes that the others leave. -/
def ipv4? (domain : List Char) : Option Host := do
  let parts := labels domain
  let numbers ← parts.mapM ipv4Part?
  let last ← numbers.getLast?
  let firsts := numbers.dropLast
  let room := Nat.pow 256 (4 - firsts.length)
  if 4 < parts.length ∨ room ≤ last ∨ firsts.any (255 < ·) then Option.none
  else
    let high := firsts.foldr (fun n (acc : Nat) => n * Nat.pow 256 3 + acc / 256) 0
    some (.ipv4 (high + last))

/-- A group of one to four hexadecimal digits. -/
def ipv6Group? (digits : List Char) : Option Nat :=
  if digits.isEmpty ∨ 4 < digits.length then Option.none else Digits.number? 16 digits

/-- A byte in decimal, without leading zeros. -/
def byte? (digits : List Char) : Option Nat := do
  let n ← Digits.number? 10 digits
  if digits.isEmpty ∨ 255 < n ∨ (digits.head? = some '0' ∧ digits.length ≠ 1) then Option.none
  else some n

/-- Two groups written as a dotted address. -/
def dottedGroups? (text : List Char) : Option (List Nat) := do
  match ← (Split.parts (· == '.') text).mapM byte? with
  | [a, b, c, d] => some [a * 256 + b, c * 256 + d]
  | _ => Option.none

/-- Groups between colons; the last may be a dotted address if `dotted` allows. -/
def ipv6Groups? (dotted : Bool) (text : List Char) : Option (List Nat) :=
  if text.isEmpty then some []
  else
    let parts := Split.parts (· == ':') text
    match parts.getLast? with
    | Option.none => some []
    | some last => do
      let firsts ← parts.dropLast.mapM ipv6Group?
      let tail ← if dotted && last.contains '.' then dottedGroups? last
        else (ipv6Group? last).map ([·])
      some (firsts ++ tail)

/-- A text cut at its first double colon. -/
def cutDoubleColon : List Char → Option (List Char × List Char)
  | ':' :: ':' :: rest => some ([], rest)
  | c :: rest => (cutDoubleColon rest).map fun (a, b) => (c :: a, b)
  | [] => Option.none

/-- An address of eight groups, of which a double colon may stand for one or more zeros. -/
def ipv6? (text : List Char) : Option Host :=
  match cutDoubleColon text with
  | Option.none => do
    let groups ← ipv6Groups? true text
    if groups.length = 8 then some (.ipv6 groups) else Option.none
  | some (left, right) => do
    let left ← ipv6Groups? false left
    let right ← ipv6Groups? true right
    let given := left.length + right.length
    if given < 8 then some (.ipv6 (left ++ List.replicate (8 - given) 0 ++ right)) else Option.none

/-! ## Domains -/

/-- Characters that no domain has. -/
def forbidden (c : Char) : Bool :=
  c.toNat ≤ 0x20 || c.toNat == 0x7F ||
    ['%', '#', '/', ':', '<', '>', '?', '@', '[', '\\', ']', '^', '|'].contains c

/-- The host of a special scheme. -/
def ofSpecial? (text : List Char) : Option Host :=
  match text with
  | '[' :: rest => if rest.getLast? = some ']' then ipv6? rest.dropLast else Option.none
  | _ => do
    let decoded ← String.fromUTF8? ⟨(Percent.decode (Percent.utf8 text)).toArray⟩
    let ascii ← Domain.toAscii? decoded.toList
    if ascii.isEmpty ∨ ascii.any forbidden then Option.none
    else if endsInNumber ascii then ipv4? ascii
    else some (.domain (String.ofList ascii))

/-- Characters that delimit other parts, and so no host has. -/
def delimiter (c : Char) : Bool :=
  ['\x00', '\t', '\n', '\r', ' ', '#', '/', ':', '<', '>', '?', '@', '[', '\\', ']', '^',
    '|'].contains c

/-- The host of any other scheme. -/
def ofOther? (text : List Char) : Option Host :=
  match text with
  | [] => some .none
  | '[' :: rest => if rest.getLast? = some ']' then ipv6? rest.dropLast else Option.none
  | _ =>
    if text.any delimiter then Option.none
    else some (.domain (String.ofList (Percent.encode Percent.controls text)))

/-! ## Text -/

def hexText (n : Nat) : List Char := Nat.toDigits 16 n

def groupsText (groups : List Nat) : List Char :=
  [':'].intercalate (groups.map hexText)

/-- How many zeros a list starts with. -/
def zeroRun (groups : List Nat) : Nat := (groups.takeWhile (· == 0)).length

/-- Where the longest run of zeros starts, and its length; the first of several. -/
def longestZeros (groups : List Nat) : Nat × Nat :=
  (List.range groups.length).foldl
    (fun (start, length) i =>
      let run := zeroRun (groups.drop i)
      if length < run then (i, run) else (start, length))
    (0, 0)

def ipv6Text (groups : List Nat) : List Char :=
  let (start, length) := longestZeros groups
  if length < 2 then groupsText groups
  else groupsText (groups.take start) ++ [':', ':'] ++ groupsText (groups.drop (start + length))

def text : Host → String
  | .none => ""
  | .domain name => name
  | .ipv4 n =>
    let byte (place : Nat) : String := toString (n / Nat.pow 256 place % 256)
    ".".intercalate [byte 3, byte 2, byte 1, byte 0]
  | .ipv6 groups => "[" ++ String.ofList (ipv6Text groups) ++ "]"

end Host

end DocSync
