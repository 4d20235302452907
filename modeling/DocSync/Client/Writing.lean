import DocSync.Client.Pull

/-!
# The writer of a document

The writer waits for the session, greets the server with the document, lets it settle, and then
hands over what is queued, one notification after the other, as far as the link takes them. If
the handshake fails nothing else is ever handed over; the writer takes what is queued until it
learns of the failure.
-/
namespace DocSync.Turn

/-- Hands a notification over. The link settles now whether it will come through. -/
def hand (t : Turn) (n : Notification) : Turn × Option SessionError :=
  let (fault, link) := t.env.link.takeFailure n.method
  ({ t with env.link := link }.note (.handed n), fault)

/-- What follows when the notification that was handed over came through, or did not. -/
def finish (t : Turn) (item : Outgoing) (fault : Option SessionError) : Turn :=
  let t := t.note (.finished item.notification fault)
  let t := match fault, item.notification.version? with
    | none, some version => t.afterSend version
    | _, _ => t
  { t.note (.acknowledged item.ticket fault.isNone) with doc.writer := .idle }

/-- Hands the queue over, up to the first notification that the link holds up. -/
def drain (t : Turn) : List Outgoing → Turn
  | [] => t
  | item :: rest =>
    let (t, fault) := t.hand item.notification
    let t := { t with doc.writer := .sending item fault, doc.queue := rest }
    if t.env.link.stalled then t else (t.finish item fault).drain rest

/-- Tells the sender of each queued notification that it will not be handed over. -/
def dismiss (t : Turn) : List Outgoing → Turn
  | [] => { t with doc.queue := [] }
  | item :: rest => (t.note (.acknowledged item.ticket false)).dismiss rest

/-- The writer learns that the handshake failed. -/
def stop (t : Turn) (e : SessionError) : Turn :=
  { t with doc.writer := .stopped e }.dismiss t.doc.queue

/-- The handshake failed. The pulls that waited for it are given up. -/
def lose (t : Turn) (e : SessionError) : Turn :=
  { t.note (.handshake (some e)) with doc.writer := .refused e, doc.waiting := [] }

/-- What follows when the handshake failed. -/
def refuse (t : Turn) (e : SessionError) : Turn :=
  let t := t.lose e
  if t.env.late t.doc.id then t else t.stop e

/-- Sees to diagnostics after the greeting. -/
def afterGreeting (t : Turn) : Option Notification → Turn
  | none => t
  | some n =>
    match n.version? with
    | none => t
    | some version =>
      { t with doc.unpulled := !t.env.feature.supported }.afterSend version

/-- The handshake succeeded: the document is open, unless it was closed in the meantime. -/
def join (t : Turn) (greeting : Option Notification) : Turn :=
  let t := { t.note (.handshake none) with doc.writer := .idle }
  let t := if t.doc.phase = .opening then { t with doc.phase := .opened } else t
  t.afterGreeting greeting

/-- What follows when the handshake succeeded. -/
def establish (t : Turn) (greeting : Option Notification) : Turn :=
  let t := t.join greeting
  t.drain t.doc.queue

/-- What follows when the greeting came through, or did not. -/
def greeted (t : Turn) (n : Notification) (fault : Option SessionError) : Turn :=
  let t := t.note (.finished n fault)
  match fault with
  | some e => t.refuse e
  | none =>
    let due := t.env.now + t.doc.settings.settleDelay
    let t := { t with doc.writer := .settling n due }
    if due ≤ t.env.now then t.establish (some n) else t

/-- What follows when the session is ready. -/
def greet (t : Turn) : Option Notification → Turn
  | none => t.establish none
  | some n =>
    let (t, fault) := t.hand n
    let t := { t with doc.writer := .greeting n fault }
    if t.env.link.stalled then t else t.greeted n fault

/-- Lets the writer go on as far as it can. -/
def write (t : Turn) : Turn :=
  match t.doc.writer with
  | .absent | .stopped _ => t
  | .waiting greeting =>
    match t.env.session.state with
    | .held => t
    | .failed e => t.refuse e
    | .ready => t.greet greeting
  | .greeting n fault => if t.env.link.stalled then t else t.greeted n fault
  | .settling n due => if due ≤ t.env.now then t.establish (some n) else t
  | .idle => t.drain t.doc.queue
  | .sending item fault =>
    if t.env.link.stalled then t
    else
      let t := t.finish item fault
      t.drain t.doc.queue
  | .refused e => if t.env.late t.doc.id then t else t.stop e

/-- Sends out pulls that waited for the handshake. -/
def serve (t : Turn) : List PullVersion → Turn
  | [] => t
  | version :: rest => ({ t with doc.waiting := rest }.pull .refreshed version).serve rest

/-- The pulls that waited for the handshake go out once it succeeded. -/
def release (t : Turn) : Turn :=
  match t.doc.handshakeOutcome? with
  | some (.ok _) => t.serve t.doc.waiting
  | _ => t

/-- All that the document can do without the clock moving. -/
def progress (t : Turn) : Turn := t.write.release.fire

end DocSync.Turn
