import DocSync.Client.Environment

/-!
# Pulling diagnostics

After a text was sent its diagnostics are pulled, as soon as no other text follows for a while; in
a headless run at once. A pull is made for one version and counts only while the document is at
that version, when it goes out as well as when its answer comes. A refresh of the whole workspace
counts whatever the version is by then.
-/
namespace DocSync

/-- Why a refresh was asked for. -/
inductive RefreshOrigin
  /-- The server registered pulls after documents were opened. -/
  | capability
  /-- The server wants everything to be pulled again. -/
  | workspace
deriving DecidableEq, Repr

namespace Turn

/-- Takes in the answer to a pull that was made for `version`. -/
def accept (t : Turn) (version : PullVersion) : Answer → Turn
  | .error _ => t
  | .ok answer =>
    match Report.ofAnswer answer with
    | .ok (some report) =>
      if t.doc.awaits version then
        let identifier := t.env.feature.identifier.getD pullIdentifier
        let news := report.news t.env.resolver t.doc.uri
        { t with env.registry := t.env.registry.store identifier news }
      else t
    | _ => t

/-- Requests diagnostics. A scripted answer comes at once. -/
def request (t : Turn) (cause : PullCause) (version : PullVersion) : Turn :=
  let t := t.note (.pulled cause version ⟨t.doc.uri, t.env.feature.identifier⟩)
  match t.env.link.takeAnswer t.doc.uri.text with
  | (some answer, link) => { t with env.link := link }.accept version answer
  | (none, link) => { t with env.link := link.await ⟨t.doc.id, version⟩ }

/-- Pulls diagnostics unless the document is beyond that version. -/
def pull (t : Turn) (cause : PullCause) (version : PullVersion) : Turn :=
  if t.doc.awaits version then t.request cause version else t

/-- Sees to diagnostics after a text was sent. A timer takes the place of the one before. -/
def afterSend (t : Turn) (version : Version) : Turn :=
  if !t.env.feature.supported || t.doc.phase = .closed then t
  else if t.doc.settings.headless then t.pull .sent (.exact version)
  else
    let due := t.env.now + t.doc.settings.debounce
    { t with doc.timer := some ⟨due, version⟩ }

/-- Pulls when the timer is due. -/
def fire (t : Turn) : Turn :=
  match t.doc.timer with
  | none => t
  | some timer =>
    if timer.due ≤ t.env.now then
      { t with doc.timer := none }.pull .sent (.exact timer.version)
    else t

/-- Pulls now if the document is open, and after the handshake if it is about to be. -/
def pullWhenOpen (t : Turn) (version : PullVersion) : Turn :=
  match t.doc.phase with
  | .opened => t.pull .refreshed version
  | .opening =>
    if t.doc.isRefused then t else { t with doc.waiting := t.doc.waiting ++ [version] }
  | _ => t

/-- Pulls because of a refresh. A new capability only concerns documents without a pull so far. -/
def refresh (t : Turn) (origin : RefreshOrigin) : Turn :=
  if !t.env.feature.supported then t
  else
    match origin with
    | .capability => if t.doc.unpulled then t.pullWhenOpen (.exact t.doc.version) else t
    | .workspace => t.pullWhenOpen .any

end Turn

end DocSync
