import DocSync.Uri.Percent
import DocSync.Uri.Reader

/-!
# Files and resolving URIs

Which document a URI in a server's message means. A workspace takes files inside its root, by their
normalized path; without a workspace every absolute URI means itself.
-/
namespace DocSync

/-! ## File paths

A path is a sequence of components, as POSIX cuts it at slashes; names are bytes. Normalizing a
path resolves `.` and `..` by their spelling alone, and one path contains another if its components
are the first ones of the other.
-/

inductive PathComponent
  | root
  | current
  | parent
  | name (bytes : List UInt8)
deriving DecidableEq, Repr

abbrev FilePath := List PathComponent

namespace FilePath

def slash : UInt8 := 0x2F

/-- The component that a part between slashes stands for; empty parts stand for none. -/
def component? (part : List UInt8) : Option PathComponent :=
  if part = [] then none
  else if part = [0x2E] then some .current
  else if part = [0x2E, 0x2E] then some .parent
  else some (.name part)

/-- The components of a written path. -/
def ofBytes (bytes : List UInt8) : FilePath :=
  let parts := (Split.parts (· == slash) bytes).filterMap component?
  if bytes.head? = some slash then .root :: parts else parts

def ofText (text : String) : FilePath := ofBytes text.toUTF8.toList

/-- One component added to a resolved path: `..` takes the last component away. -/
def resolveStep (path : FilePath) : PathComponent → FilePath
  | .parent => path.dropLast
  | .current => path
  | c => path ++ [c]

/-- The path without `.` and `..`. -/
def normalize (path : FilePath) : FilePath := path.foldl resolveStep []

def isAbsolute (path : FilePath) : Bool := path.head? == some .root

/-- Whether a path lies inside a directory, or is it. -/
def isInside (root path : FilePath) : Bool := root.isPrefixOf path

def nameBytes : PathComponent → List UInt8
  | .root => []
  | .current => [0x2E]
  | .parent => [0x2E, 0x2E]
  | .name bytes => bytes

/-- The bytes of components, with a slash between them and a leading one for the root. -/
def toBytes : FilePath → List UInt8
  | .root :: rest => slash :: [slash].intercalate (rest.map nameBytes)
  | path => [slash].intercalate (path.map nameBytes)

/-- The written path; bytes that are no text are left out. -/
def text (path : FilePath) : String := (String.fromUTF8? ⟨path.toBytes.toArray⟩).getD ""

/-- The path of a URI with segments on this machine. The scheme does not matter. -/
def ofUri? (u : Uri) : Option FilePath :=
  match u.path with
  | '/' :: rest =>
    if u.host = [] ∨ u.host = "localhost".toList then
      some (ofBytes (Percent.decode (Percent.utf8 ('/' :: rest))))
    else none
  | _ => none

/-- The `file` URI of an absolute path. -/
def toUri? (path : FilePath) : Option Uri :=
  match path with
  | .root :: rest =>
    let names := rest.map fun c => Percent.encodeBytes Percent.segment (nameBytes c)
    some ⟨"file:///" ++ String.ofList (['/'].intercalate names)⟩
  | _ => none

end FilePath

/-! ## Resolvers -/

inductive Resolver
  | anyUri
  | workspace (root : FilePath)
deriving DecidableEq, Repr

namespace Resolver

/-- The resolver of the workspace at a directory. -/
def ofRoot (root : String) : Resolver := .workspace (FilePath.ofText root).normalize

def resolve : Resolver → String → Option Uri
  | .anyUri, text => Uri.ofText? text
  | .workspace root, text => do
    let uri ← Uri.ofText? text
    let path ← FilePath.ofUri? uri
    if FilePath.isInside root path.normalize then path.normalize.toUri? else none

end Resolver

end DocSync
