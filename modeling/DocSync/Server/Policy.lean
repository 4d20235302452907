import DocSync.Json.Decode
import DocSync.Text.Change

/-!
# Synchronization policy

Which notifications a server wants about a document. It says so in the `textDocumentSync` entry of
its capabilities: by a number alone, or by options that are each free to be absent. An entry is
taken as a whole; if any part of it is malformed the policy is the one for a server that says
nothing: the full text on every change, opening and closing reported, saving not.
-/
namespace DocSync

/-- What a server says about saving. -/
inductive SaveCapability
  | flag (wanted : Bool)
  | options (includeText : Option Bool)
deriving DecidableEq, Repr

/-- What a server says about synchronization. -/
inductive SyncCapability
  | kind (number : Nat)
  | options (openClose : Option Bool) (change : Option Nat) (save : Option SaveCapability)
deriving DecidableEq, Repr

inductive SavePolicy
  | disabled
  | notify
  | notifyWithText
deriving DecidableEq, Repr

structure SyncPolicy where
  kind : SyncKind
  openClose : Bool
  save : SavePolicy
deriving DecidableEq, Repr

namespace SaveCapability

def ofJson? : Json → Option SaveCapability
  | .bool wanted => some (.flag wanted)
  | j => do
    let get ← j.objectFields?
    some (.options (← get.optional "includeText" Json.bool?))

end SaveCapability

namespace SyncCapability

/-- The fields of options, in the order of declaration. -/
def fieldNames : List String := ["openClose", "change", "save"]

def optionsOfJson? (j : Json) : Option SyncCapability := do
  let get ← j.fields? fieldNames
  let openClose ← get.optional "openClose" Json.bool?
  let change ← get.optional "change" (Json.word? 64)
  let save ← get.optional "save" SaveCapability.ofJson?
  some (.options openClose change save)

def ofJson? (j : Json) : Option SyncCapability :=
  match j.word? 64 with
  | some n => some (.kind n)
  | none => optionsOfJson? j

def isKind : SyncCapability → Bool
  | .kind _ => true
  | .options .. => false

end SyncCapability

namespace SavePolicy

def ofCapability : Option SaveCapability → SavePolicy
  | none => .disabled
  | some (.flag wanted) => if wanted then .notify else .disabled
  | some (.options includeText) => if includeText.getD false then .notifyWithText else .notify

def includesText (p : SavePolicy) : Bool := p == .notifyWithText

def label : SavePolicy → String
  | .disabled => "disabled"
  | .notify => "notify"
  | .notifyWithText => "notify_with_text"

end SavePolicy

namespace SyncPolicy

/-- The kind of a number; unknown numbers ask for the full text. -/
def kindOrFull (number : Option Nat) : SyncKind := (number.bind SyncKind.ofNumber?).getD .full

def ofCapability : Option SyncCapability → SyncPolicy
  | none => ⟨.full, true, .disabled⟩
  | some (.kind n) => ⟨kindOrFull (some n), true, .disabled⟩
  | some (.options openClose change save) =>
    ⟨kindOrFull change, openClose.getD false, .ofCapability save⟩

/-- The policy of a server that says nothing. -/
def standard : SyncPolicy := ofCapability none

/-- The policy for a server with the given capabilities. -/
def ofServer (capabilities : Json) : SyncPolicy :=
  ofCapability ((capabilities.field? "textDocumentSync").bind SyncCapability.ofJson?)

end SyncPolicy

/-- The sync kind that a server asks for. -/
def SyncCapability.syncKind (c : SyncCapability) : SyncKind :=
  (SyncPolicy.ofCapability (some c)).kind

end DocSync
