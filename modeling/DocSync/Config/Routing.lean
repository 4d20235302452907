import DocSync.Config.Definition
import DocSync.Config.Settings
import DocSync.Toml.Reader

/-!
# The configuration file

Settings and the known servers, read from a TOML document. A malformed server is left out and the
others are kept; anything else that is malformed fails the whole file. A file of an extension that
several servers are for goes to the one that comes first by name, whatever the order in which the
servers were given.
-/
namespace DocSync

structure Config where
  settings : Settings
  /-- Servers by name. -/
  servers : List (String × ServerDefinition)
deriving DecidableEq, Repr

/-- Why a configuration was not read. -/
inductive ConfigError
  | malformed
  | unreadable (path : String)
  | malformedFile (path : String)
deriving DecidableEq, Repr

namespace ConfigError

/-- What is being done when a text turns out to be malformed. -/
def reading : String := "parsing lockstep config"

/-- What was being done when the error came up, the outermost first. -/
def message : ConfigError → String
  | .malformed => reading
  | .unreadable path => "reading config " ++ path
  | .malformedFile path => "loading " ++ path ++ ": " ++ reading

end ConfigError

namespace Config

/-- The settings in a file; an array lists them in order, and a date has none. -/
def settingsOf? : Option Toml → Option Settings
  | none | some (.dateTime _) => some {}
  | some (.array items) =>
    Settings.ofJson? (.arr ((items.take Settings.fieldNames.length).map Toml.toJson))
  | some value => Settings.ofJson? value.toJson

/-- The well-formed servers of a file. Numbers in it have to be signed words. -/
def serversOf? : Option Toml → Option (List (String × ServerDefinition))
  | none | some (.dateTime _) => some []
  | some (.table entries) =>
    if entries.all fun (_, value) => value.signedWords then
      some (Sorted.ofList (entries.filterMap fun (name, value) =>
        (ServerDefinition.ofJson? value.toJson).map fun d => (name, d)))
    else none
  | some _ => none

/-- The configuration in the table that a document stands for. -/
def ofToml? : Toml → Option Config
  | .table entries => do
    let settings ← settingsOf? (entries.lookup "sync")
    let servers ← serversOf? (entries.lookup "servers")
    some ⟨settings, servers⟩
  | _ => none

/-- The configuration in a text. -/
def ofText (text : String) : Except ConfigError Config :=
  match (Toml.ofText? text).bind ofToml? with
  | some config => .ok config
  | none => .error .malformed

/-- The configuration in a file, from its content if there is such a file. -/
def ofFile (path : String) (content : Option ByteArray) : Except ConfigError Config :=
  match content.bind String.fromUTF8? with
  | none => .error (.unreadable path)
  | some text => (ofText text).mapError fun _ => .malformedFile path

/-- Routes an extension to a server, unless it has a route already. -/
def addRoute (name : String) (routes : List (String × String)) (extension : String) :
    List (String × String) :=
  if (routes.lookup extension).isSome then routes else Sorted.insert extension name routes

/-- Adds routes for all extensions of a server. -/
def addRoutes (routes : List (String × String)) (server : String × ServerDefinition) :
    List (String × String) :=
  server.2.fileExtensions.foldl (addRoute server.1) routes

/-- The name of the server for every extension. The servers take their extensions in the order of
their names. -/
def routes (c : Config) : List (String × String) := (Sorted.ofList c.servers).foldl addRoutes []

/-- The server that a document belongs to, by the extension of its URI. -/
def serverFor? (c : Config) (uri : Uri) : Option (String × ServerDefinition) := do
  let extension ← uri.extension?
  let name ← c.routes.lookup extension
  let d ← c.servers.lookup name
  some (name, d)

end Config

end DocSync
