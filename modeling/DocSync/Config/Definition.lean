import DocSync.Data.List
import DocSync.Json.Decode
import DocSync.Uri.Basic

/-!
# Server definitions

What the client knows about one language server: the extensions of the files it is for, and which
language a file of some extension is in. Files of other extensions are in the server's own language.
-/
namespace DocSync

structure ServerDefinition where
  languageId : String
  fileExtensions : List String := []
  /-- Language by extension, sorted by extension. -/
  languages : List (String × String) := []
deriving DecidableEq, Repr

namespace ServerDefinition

/-- The definition with one more extension of the server's files. -/
def withExtension (d : ServerDefinition) (extension : String) : ServerDefinition :=
  { d with fileExtensions := d.fileExtensions ++ [extension] }

/-- The definition with the language of an extension set. -/
def withLanguage (d : ServerDefinition) (extension language : String) : ServerDefinition :=
  { d with languages := Sorted.insert extension language d.languages }

/-- The language of a document. -/
def languageOf (d : ServerDefinition) (uri : Uri) : String :=
  (uri.extension?.bind fun extension => d.languages.lookup extension).getD d.languageId

/-- Whether the server is for files of an extension. -/
def handles (d : ServerDefinition) (extension : String) : Bool :=
  d.fileExtensions.contains extension

def languagesOfJson? (j : Json) : Option (List (String × String)) := do
  let fields ← j.object?
  let entries ← fields.mapM fun (extension, j) => (j.string?).map fun id => (extension, id)
  some (Sorted.ofList entries)

/-- The fields of a definition, in the order of declaration. -/
def fieldNames : List String := ["language_id", "file_extensions", "languages"]

def ofJson? (j : Json) : Option ServerDefinition := do
  let get ← j.fields? fieldNames
  let languageId ← get.required "language_id" Json.string?
  let fileExtensions ← get.withDefault "file_extensions" [] (Json.list? Json.string?)
  let languages ← get.withDefault "languages" [] languagesOfJson?
  some { languageId, fileExtensions, languages }

end ServerDefinition

end DocSync
