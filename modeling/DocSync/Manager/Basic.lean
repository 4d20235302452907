import DocSync.Client.Basic
import DocSync.Config.Definition
import DocSync.Diagnostics.Snapshot

/-!
# The documents open on a server

A manager knows the open documents of one server by their URI, at most one for each. Closing a
document forgets it; the client still carries out what the document had queued. The manager also
takes in what the server publishes, for any file.
-/
namespace DocSync

structure Manager where
  name : String
  definition : ServerDefinition
  policy : SyncPolicy
  settings : Settings
  client : Client
  /-- The open documents, in the order of opening. -/
  documents : List (Uri × DocumentId) := []

namespace Manager

def find? (m : Manager) (uri : Uri) : Option DocumentId := m.documents.lookup uri

def isOpen (m : Manager) (uri : Uri) : Bool := (m.find? uri).isSome

/-- The open document of a URI. -/
def document? (m : Manager) (uri : Uri) : Option Document := (m.find? uri).bind m.client.find?

/-- Opens a document, in a given language or in the one of its extension. An open document stays as
it is. -/
def openDocument (m : Manager) (uri : Uri) (text : String) (languageId : Option String) :
    Manager × Handshake :=
  match m.find? uri with
  | some id =>
    let (client, handshake) := m.client.beginOpen id
    ({ m with client }, handshake)
  | none =>
    let languageId := languageId.getD (m.definition.languageOf uri)
    let id := m.client.freshId uri
    let client := m.client.create uri languageId m.policy m.settings text none
    let (client, handshake) := client.beginOpen id
    ({ m with client, documents := m.documents ++ [(uri, id)] }, handshake)

/-- Closes a document. For one that is not open nothing happens. -/
def close (m : Manager) (uri : Uri) : Manager × Delivery :=
  match m.find? uri with
  | none => (m, .skipped)
  | some id =>
    let (client, delivery) := m.client.close id
    ({ m with client, documents := m.documents.filter fun (u, _) => u != uri }, delivery)

/-- Refreshes every open document. -/
def refresh (m : Manager) (origin : RefreshOrigin) : Manager :=
  { m with client := m.documents.foldl (fun c (_, id) => c.refresh id origin) m.client }

/-- Whether a publication is about the text that the client has. -/
def isCurrent (m : Manager) (uri : Uri) (version : Option Version) : Bool :=
  match version, m.document? uri with
  | some v, some d => v == d.version
  | _, _ => true

/-- Takes in what the server publishes. What is malformed, about no known file, or about another
version of an open document is passed over. -/
def publish (m : Manager) (params : Json) : Manager :=
  match Publication.ofJson? params with
  | none => m
  | some p =>
    match m.client.env.resolver.resolve p.uri with
    | none => m
    | some uri =>
      if m.isCurrent uri p.version then
        let registry := (m.client.env.registry.update uri publishIdentifier p.items).1
        { m with client.env.registry := registry }
      else m

/-- Closes every document, and tells whether all that had to be sent for it came through. -/
def shutdown (m : Manager) : Manager × Bool :=
  let close (c : Client) (ds : List Delivery) (id : DocumentId) : Client × List Delivery :=
    let (c, d) := c.close id
    (c, d :: ds)
  let (client, deliveries) :=
    m.documents.foldl (fun (c, ds) (_, id) => close c ds id) (m.client, [])
  ({ m with client, documents := [] }, !deliveries.any client.isPending)

end Manager

end DocSync
