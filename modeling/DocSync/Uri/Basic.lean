import DocSync.Data.List

/-!
# URIs

A URI is its text, in the one spelling that all ways of writing it share: two URIs are the same if
their texts are. What a text says about host, path and file name is read off it.
-/
namespace DocSync

structure Uri where
  text : String
deriving DecidableEq, Repr

namespace Uri

/-- What follows the scheme and its colon. -/
def afterScheme (u : Uri) : List Char := (u.text.toList.dropWhile (· != ':')).drop 1

/-- Whether a character ends a path. -/
def endsPath (c : Char) : Bool := c == '?' || c == '#'

/-- Whether a character ends an authority. -/
def endsAuthority (c : Char) : Bool := c == '/' || endsPath c

/-- The authority, empty if there is none, and what follows it. A path that starts with two slashes
is kept from being an authority by a dot. -/
def cutAuthority (u : Uri) : List Char × List Char :=
  match u.afterScheme with
  | '/' :: '/' :: rest =>
    (rest.takeWhile (! endsAuthority ·), rest.dropWhile (! endsAuthority ·))
  | '/' :: '.' :: '/' :: '/' :: rest => ([], '/' :: '/' :: rest)
  | rest => ([], rest)

/-- The host, without user information and port; empty if there is none. -/
def host (u : Uri) : List Char :=
  let authority := u.cutAuthority.1
  let place := match Split.cutLast '@' authority with
    | some (_, place) => place
    | none => authority
  place.takeWhile (· != ':')

/-- The path, up to the query or the fragment. -/
def path (u : Uri) : List Char := u.cutAuthority.2.takeWhile (! endsPath ·)

/-- The last segment of the path, or all of it if it has no slash. -/
def fileName (u : Uri) : List Char :=
  match Split.cutLast '/' u.path with
  | some (_, name) => name
  | none => u.path

/-- What follows the last dot of the last segment, if something stands on both sides of the dot. -/
def extension? (u : Uri) : Option String :=
  match Split.cutLast '.' u.fileName with
  | some (stem, ext) => if stem.isEmpty || ext.isEmpty then none else some (String.ofList ext)
  | none => none

end Uri

end DocSync
