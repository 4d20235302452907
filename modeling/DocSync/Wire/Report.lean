import DocSync.Data.List
import DocSync.Diagnostics.Diagnostic
import DocSync.Wire.Text

/-!
# Diagnostics on the wire

A server reports on a document when it is asked, and on any file without being asked. Whatever it
says is read as a whole or not at all.
-/
namespace DocSync

/-! ## Single diagnostics

A server may leave out all but the span and the message of a diagnostic. A severity it does not
name, or names by an unknown number, is a warning; a code may be a text or a number.
-/

namespace Diagnostic

/-- The source shown for a diagnostic that names none. -/
def unknownSource : String := "unknown"

/-- The text of a diagnostic's code; codes that are neither text nor number are dropped. -/
def codeText? : Json → Option String
  | .str s => some s
  | .num n => some n.text
  | _ => none

/-- The fields of a diagnostic, in the order of declaration. -/
def fieldNames : List String := ["range", "severity", "source", "message", "code"]

def ofJson? (j : Json) : Option Diagnostic := do
  let get ← j.fields? fieldNames
  let span ← get.required "range" Span.ofJson?
  let severity ← get.optional "severity" (Json.word? 64)
  let source ← get.optional "source" Json.string?
  let message ← get.required "message" Json.string?
  let code := (get "code").bind codeText?
  some {
    span, message, code
    severity := (severity.bind Severity.ofNumber?).getD .warning
    source := source.getD unknownSource }

end Diagnostic

/-! ## Publications

A server may report on a file without being asked, with or without the version that the report is
about.
-/

structure Publication where
  uri : String
  version : Option Version
  items : List Diagnostic
deriving DecidableEq, Repr

namespace Publication

/-- The fields of a publication, in the order of declaration. -/
def fieldNames : List String := ["uri", "version", "diagnostics"]

def ofJson? (j : Json) : Option Publication := do
  let get ← j.fields? fieldNames
  let uri ← get.required "uri" Json.string?
  let version ← get.optional "version" Version.ofJson?
  let items ← get.required "diagnostics" (Json.list? Diagnostic.ofJson?)
  some { uri, version, items }

end Publication

/-! ## Reports

The answer to a pull. A report is full, with the diagnostics of the document, or says that nothing
changed since the last one; it may bring reports on other documents along.
-/

inductive Report
  /-- The diagnostics of the document, and no word on others. -/
  | direct (items : List Diagnostic)
  /-- Reports on several documents, ascending by URI; those that are absent did not change. -/
  | related (own : Option (List Diagnostic))
      (documents : List (String × Option (List Diagnostic)))
deriving DecidableEq, Repr

inductive ReportError
  | malformed
deriving DecidableEq, Repr

namespace Report

inductive Kind
  | full
  | unchanged
deriving DecidableEq, Repr

/-- The kind of the report that a message is about. -/
def Kind.ofLabel? : Json → Option Kind
  | .str "full" => some .full
  | .str "unchanged" => some .unchanged
  | _ => none

/-- The kind of a report inside another one, where a kind may also be given by its number. -/
def Kind.ofInnerTag? : Json → Option Kind
  | .num (.int 0) => some .full
  | .num (.int 1) => some .unchanged
  | j => ofLabel? j

def items? (get : Json.Fields) : Option (List Diagnostic) :=
  get.withDefault "items" [] (Json.list? Diagnostic.ofJson?)

/-- A report on a related document: its diagnostics, or nothing if they did not change. -/
def inner? (j : Json) : Option (Option (List Diagnostic)) := do
  let tagged ← j.tagged? "kind"
  match ← Kind.ofInnerTag? tagged.tag with
  | .full => (items? (← tagged.body.fields? ["items"])).map some
  | .unchanged =>
    let _ ← tagged.body.fields? []
    some none

/-- The reports on related documents, ascending by URI. -/
def documents? (j : Json) : Option (List (String × Option (List Diagnostic))) := do
  let fields ← j.object?
  let entries ← fields.mapM fun (uri, report) => (inner? report).map fun items => (uri, items)
  some (Sorted.ofList entries)

def read? (j : Json) : Option Report := do
  let tagged ← j.tagged? "kind"
  match ← Kind.ofLabel? tagged.tag with
  | .full =>
    let get ← tagged.body.fields? ["items", "relatedDocuments"]
    let items ← items? get
    match ← get.optional "relatedDocuments" documents? with
    | none => some (.direct items)
    | some documents => some (.related (some items) documents)
  | .unchanged =>
    let get ← tagged.body.fields? ["relatedDocuments"]
    some (.related none ((← get.optional "relatedDocuments" documents?).getD []))

/-- The report in an answer; null is no report. -/
def ofAnswer : Json → Except ReportError (Option Report)
  | .null => .ok none
  | j =>
    match read? j with
    | some report => .ok (some report)
    | none => .error .malformed

end Report

end DocSync
