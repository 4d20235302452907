import DocSync.Uri.Basic
import DocSync.Wire.Text

/-!
# Messages to a server

The notifications about a document, and the request for its diagnostics.
-/
namespace DocSync

inductive Notification
  | didOpen (uri : Uri) (languageId : String) (version : Version) (text : String)
  | didChange (uri : Uri) (version : Version) (changes : List Change)
  | didSave (uri : Uri) (text : Option String)
  | didClose (uri : Uri)
deriving DecidableEq, Repr

namespace Notification

def method : Notification → String
  | .didOpen .. => "textDocument/didOpen"
  | .didChange .. => "textDocument/didChange"
  | .didSave .. => "textDocument/didSave"
  | .didClose _ => "textDocument/didClose"

def uri : Notification → Uri
  | .didOpen uri .. => uri
  | .didChange uri .. => uri
  | .didSave uri _ => uri
  | .didClose uri => uri

/-- The version of the text that a notification carries, if it carries one. -/
def version? : Notification → Option Version
  | .didOpen _ _ version _ => some version
  | .didChange _ version _ => some version
  | .didSave .. => none
  | .didClose _ => none

def params : Notification → Json
  | .didOpen uri languageId version text =>
    .obj [("textDocument", .obj [
      ("uri", .str uri.text), ("languageId", .str languageId), ("version", version.toJson),
      ("text", .str text)])]
  | .didChange uri version changes =>
    .obj [
      ("textDocument", .obj [("uri", .str uri.text), ("version", version.toJson)]),
      ("contentChanges", .arr (changes.map Change.toJson))]
  | .didSave uri text =>
    .obj (("textDocument", .obj [("uri", .str uri.text)]) ::
      (text.map fun t => ("text", Json.str t)).toList)
  | .didClose uri => .obj [("textDocument", .obj [("uri", .str uri.text)])]

end Notification

/-- The request for the diagnostics of a document, under the identifier that the server
registered. -/
structure DiagnosticRequest where
  uri : Uri
  identifier : Option String
deriving DecidableEq, Repr

namespace DiagnosticRequest

def method : String := "textDocument/diagnostic"

def params (r : DiagnosticRequest) : Json :=
  .obj (("textDocument", .obj [("uri", .str r.uri.text)]) ::
    (r.identifier.map fun i => ("identifier", Json.str i)).toList)

end DiagnosticRequest

end DocSync
