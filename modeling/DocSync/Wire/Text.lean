import DocSync.Json.Decode
import DocSync.Text.Change
import DocSync.Version

/-!
# Positions, changes and versions on the wire

The message form of the types that describe a text. Lines, characters and range lengths are
unsigned 32-bit numbers there. A change is incremental if it has all that an incremental one needs,
well formed; otherwise it is the full text, whatever else the object holds.
-/
namespace DocSync

namespace Position

def toJson (p : Position) : Json :=
  .obj [("line", .ofNat p.line), ("character", .ofNat p.character)]

def ofJson? (j : Json) : Option Position := do
  let get ← j.fields? ["line", "character"]
  let line ← get.required "line" (Json.word? 32)
  let character ← get.required "character" (Json.word? 32)
  some ⟨line, character⟩

end Position

namespace Span

def toJson (s : Span) : Json := .obj [("start", s.start.toJson), ("end", s.stop.toJson)]

def ofJson? (j : Json) : Option Span := do
  let get ← j.fields? ["start", "end"]
  let start ← get.required "start" Position.ofJson?
  let stop ← get.required "end" Position.ofJson?
  some ⟨start, stop⟩

end Span

namespace Change

def toJson : Change → Json
  | .full text => .obj [("text", .str text)]
  | .incremental span rangeLength text =>
    .obj [("range", span.toJson), ("rangeLength", .ofNat rangeLength), ("text", .str text)]

def incrementalOfJson? (j : Json) : Option Change := do
  let get ← j.objectFields?
  let span ← get.required "range" Span.ofJson?
  let rangeLength ← get.withDefault "rangeLength" 0 (Json.word? 32)
  let text ← get.required "text" Json.string?
  some (.incremental span rangeLength text)

def fullOfJson? (j : Json) : Option Change := do
  let get ← j.objectFields?
  let text ← get.required "text" Json.string?
  some (.full text)

def ofJson? (j : Json) : Option Change := (incrementalOfJson? j).orElse fun _ => fullOfJson? j

end Change

namespace Version

def toJson (v : Version) : Json := .ofInt v.value

def ofJson? (j : Json) : Option Version := (j.signedWord? 32).map Version.mk

end Version

end DocSync
