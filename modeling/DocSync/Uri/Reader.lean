import DocSync.Uri.Basic
import DocSync.Uri.Parts

/-!
# Reading a URI

An absolute URI is read by the rules that web browsers share: space around it and line breaks
inside it do not count, letters of the scheme and the host are folded, dot segments are resolved,
and characters that may not stand in a part are percent encoded. The `file` scheme and the schemes
of the web are special: they always have a path, and a backslash separates like a slash. A scheme
that is not special and is followed by no slash has a path without structure.
-/
namespace DocSync

namespace UriParts

open Uri (endsPath)

inductive SchemeKind
  | file
  | special (defaultPort : Nat)
  | other
deriving DecidableEq, Repr

def SchemeKind.ofScheme : String → SchemeKind
  | "file" => .file
  | "http" | "ws" => .special 80
  | "https" | "wss" => .special 443
  | "ftp" => .special 21
  | _ => .other

def SchemeKind.isSpecial : SchemeKind → Bool
  | .other => false
  | _ => true

def isAlpha (c : Char) : Bool := ('a' ≤ c && c ≤ 'z') || ('A' ≤ c && c ≤ 'Z')

def isSchemeChar (c : Char) : Bool :=
  isAlpha c || c.isDigit || c == '+' || c == '-' || c == '.'

/-- The input without space and control characters around it, and without line breaks and tabs. -/
def cleaned (text : String) : List Char :=
  let blank (c : Char) : Bool := c.toNat ≤ 0x20
  let trimmed := ((text.toList.dropWhile blank).reverse.dropWhile blank).reverse
  trimmed.filter fun c => !(c == '\t' || c == '\n' || c == '\r')

/-- The scheme in lower case, and what follows its colon. -/
def scheme? (cs : List Char) : Option (String × List Char) :=
  let name := cs.takeWhile isSchemeChar
  match name, cs.dropWhile isSchemeChar with
  | c :: _, ':' :: rest =>
    if isAlpha c then some (String.ofList (name.map Char.toLower), rest) else none
  | _, _ => none

/-- Whether a character separates segments. -/
def separates (kind : SchemeKind) (c : Char) : Bool := c == '/' || (kind.isSpecial && c == '\\')

/-- A letter and a colon or a bar: the name of a drive. -/
def isDrive : List Char → Bool
  | [c, d] => isAlpha c && (d == ':' || d == '|')
  | _ => false

/-- Whether a segment is the name of a drive, up to a backslash if it has one there. -/
def startsWithDrive : List Char → Bool
  | c :: d :: '\\' :: _ => isDrive [c, d]
  | segment => isDrive segment

/-- How many dots a segment is, if it is one or two, encoded or not. -/
def dots (segment : List Char) : Option Nat :=
  match String.ofList (segment.map Char.toLower) with
  | "." | "%2e" => some 1
  | ".." | "%2e." | ".%2e" | "%2e%2e" => some 2
  | _ => none

/-- The path without its last segment. The name of a drive stays. -/
def shorten (path : List (List Char)) : List (List Char) :=
  match path.getLast? with
  | some last => if startsWithDrive last then path else path.dropLast
  | none => path

/-- Adds one written segment; `last` says whether no slash follows it. -/
def addSegment (last : Bool) (path : List (List Char)) (segment : List Char) :
    List (List Char) :=
  let close (path : List (List Char)) : List (List Char) := if last then path ++ [[]] else path
  match dots segment with
  | some 1 => close path
  | some _ => close (shorten path)
  | none => path ++ [segment]

def addSegments (path : List (List Char)) : List (List Char) → List (List Char)
  | [] => path
  | [segment] => addSegment true path segment
  | segment :: rest => addSegments (addSegment false path segment) rest

/-- The path after its first slash. In a `file` path empty segments at the start are dropped. -/
def readPath (kind : SchemeKind) (cs : List Char) : UriPath :=
  let written := (Split.parts (separates kind) cs).map (Percent.encode Percent.path)
  let path := addSegments [] written
  let path := if kind = .file then
      match path.dropWhile List.isEmpty with
      | [] => [[]]
      | path => path
    else path
  .segments (path.map String.ofList)

/-- The query and the fragment, from the character that ends the path. -/
def readTail (kind : SchemeKind) (cs : List Char) : Option String × Option String :=
  let set := if kind.isSpecial then Percent.specialQuery else Percent.query
  let fragment (cs : List Char) : Option String :=
    match cs with
    | '#' :: rest => some (String.ofList (Percent.encode Percent.fragment rest))
    | _ => none
  match cs with
  | '?' :: rest =>
    let query := rest.takeWhile (· != '#')
    (some (String.ofList (Percent.encode set query)), fragment (rest.dropWhile (· != '#')))
  | _ => (none, fragment cs)

/-- All parts together; `tail` starts where the path ends. -/
def build (kind : SchemeKind) (scheme : String) (authority : Option Authority) (path : UriPath)
    (tail : List Char) : UriParts :=
  let (query, fragment) := readTail kind tail
  { scheme, authority, path, query, fragment }

/-- What stands before the path's end, and the rest. -/
def cutPath (cs : List Char) : List Char × List Char :=
  (cs.takeWhile (! endsPath ·), cs.dropWhile (! endsPath ·))

/-- Without the separator that it starts with. -/
def dropSeparator (kind : SchemeKind) (cs : List Char) : List Char :=
  match cs with
  | c :: rest => if separates kind c then rest else cs
  | [] => []

/-! ## Authority -/

/-- What ends an authority. -/
def endsAuthority (kind : SchemeKind) (c : Char) : Bool := separates kind c || endsPath c

/-- User information before the last `@`; a password only if it is not empty. -/
def readUserinfo (cs : List Char) : String :=
  let encode (cs : List Char) : String := String.ofList (Percent.encode Percent.userinfo cs)
  let user := encode (cs.takeWhile (· != ':'))
  match cs.dropWhile (· != ':') with
  | _ :: c :: rest => user ++ ":" ++ encode (c :: rest)
  | _ => user

/-- The host and what follows it. A colon inside brackets belongs to the host. -/
def cutHost : Bool → List Char → List Char × List Char
  | _, [] => ([], [])
  | inside, c :: rest =>
    if c = ':' ∧ ¬ inside then ([], c :: rest)
    else
      let inside := if c = '[' then true else if c = ']' then false else inside
      let (host, rest) := cutHost inside rest
      (c :: host, rest)

/-- The port after a colon, if it is not the one that the scheme implies. -/
def readPort? (kind : SchemeKind) (cs : List Char) : Option (Option Nat × List Char) :=
  let digits := cs.takeWhile Char.isDigit
  let rest := cs.dropWhile Char.isDigit
  let port := digits.foldl (fun n c => n * 10 + (c.toNat - '0'.toNat)) 0
  let ended : Bool := match rest with
    | [] => true
    | c :: _ => c == '\\'
  if 65535 < port ∨ ¬ ended then none
  else if digits.isEmpty ∨ kind = .special port then some (none, rest)
  else some (some port, rest)

/-- The authority after two slashes, and the rest. -/
def readAuthority? (kind : SchemeKind) (cs : List Char) : Option (Authority × List Char) := do
  let written := cs.takeWhile (! endsAuthority kind ·)
  let rest := cs.dropWhile (! endsAuthority kind ·)
  let (userinfo, place) ← match Split.cutLast '@' written with
    | some (user, place) =>
      if user.isEmpty ∧ place.isEmpty ∧ rest ≠ [] then none else some (readUserinfo user, place)
    | none => some ("", written)
  let (hostText, more) := cutHost false place
  let host ← if kind.isSpecial then Host.ofSpecial? hostText else Host.ofOther? hostText
  if host = .none ∧ (userinfo ≠ "" ∨ more ≠ []) then none
  let (port, left) ← match more with
    | ':' :: digits => readPort? kind digits
    | _ => some (none, more)
  some ({ userinfo, host, port }, left ++ rest)

/-! ## Schemes -/

/-- After the two slashes of a scheme other than `file`. -/
def readWithAuthority? (kind : SchemeKind) (scheme : String) (cs : List Char) :
    Option UriParts := do
  let (authority, rest) ← readAuthority? kind cs
  let (written, tail) := cutPath rest
  let path :=
    if written.isEmpty ∧ ¬ kind.isSpecial then UriPath.segments []
    else readPath kind (dropSeparator kind written)
  some (build kind scheme (some authority) path tail)

/-- The host of a `file` URI, after two slashes, and the path. The name of a drive in its place is
the start of the path, and this machine by name is no host. -/
def readFileHost? (cs : List Char) : Option (Host × List Char) :=
  let written := cs.takeWhile (! endsAuthority .file ·)
  let rest := cs.dropWhile (! endsAuthority .file ·)
  if isDrive written then some (.none, cs)
  else if written.isEmpty then some (.none, rest)
  else (Host.ofSpecial? written).map fun host =>
    (if host = .domain "localhost" then .none else host, rest)

def readFile? (cs : List Char) : Option UriParts := do
  let (host, rest) ← match cs with
    | a :: b :: more =>
      if separates .file a && separates .file b then readFileHost? more else some (.none, cs)
    | _ => some (.none, cs)
  let (written, tail) := cutPath rest
  let path := readPath .file (dropSeparator .file written)
  some (build .file "file" (some { host }) path tail)

def readOther? (scheme : String) (cs : List Char) : Option UriParts :=
  match cs with
  | '/' :: '/' :: rest => readWithAuthority? .other scheme rest
  | '/' :: rest =>
    let (written, tail) := cutPath rest
    some (build .other scheme none (readPath .other written) tail)
  | _ =>
    let (written, tail) := cutPath cs
    let path := String.ofList (Percent.encode Percent.controls written)
    some (build .other scheme none (.verbatim path) tail)

/-- The parts of a text, if it is an absolute URI. -/
def ofText? (text : String) : Option UriParts := do
  let (scheme, rest) ← scheme? (cleaned text)
  let kind := SchemeKind.ofScheme scheme
  match kind with
  | .file => readFile? rest
  | .special _ => readWithAuthority? kind scheme (rest.dropWhile (separates kind))
  | .other => readOther? scheme rest

end UriParts

/-- The URI that a text spells, if it is an absolute one. -/
def Uri.ofText? (text : String) : Option Uri := (UriParts.ofText? text).map fun u => ⟨u.text⟩

end DocSync
