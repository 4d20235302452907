import DocSync.Uri.Host

/-!
# The parts of a URI

A URI taken apart, with every part in its canonical spelling, and the text that the parts make up.
-/
namespace DocSync

/-- Who is asked for a resource: user information in its written form, host, and the port if it is
not the one that the scheme implies. -/
structure Authority where
  userinfo : String := ""
  host : Host := .none
  port : Option Nat := none
deriving DecidableEq, Repr

inductive UriPath
  /-- A path without structure, as in `mailto:` URIs. -/
  | verbatim (text : String)
  /-- Segments, each after a slash. -/
  | segments (names : List String)
deriving DecidableEq, Repr

structure UriParts where
  scheme : String
  authority : Option Authority
  path : UriPath
  query : Option String
  fragment : Option String
deriving DecidableEq, Repr

def UriPath.text : UriPath → String
  | .verbatim text => text
  | .segments names => String.join (names.map fun name => "/" ++ name)

def Authority.text (a : Authority) : String :=
  "//" ++ (if a.userinfo.isEmpty then "" else a.userinfo ++ "@") ++ a.host.text ++
    match a.port with
    | none => ""
    | some port => ":" ++ toString port

namespace UriParts

/-- What keeps a path that starts with an empty segment from being read as an authority. -/
def guardText (u : UriParts) : String :=
  match u.authority, u.path with
  | none, .segments ("" :: _ :: _) => "/."
  | _, _ => ""

def text (u : UriParts) : String :=
  u.scheme ++ ":" ++ (u.authority.map Authority.text).getD "" ++ u.guardText ++ u.path.text ++
    ((u.query.map ("?" ++ ·)).getD "") ++ ((u.fragment.map ("#" ++ ·)).getD "")

end UriParts

end DocSync
