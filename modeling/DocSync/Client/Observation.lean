import DocSync.Client.Basic

/-!
# Watching a client

A watch turns what a client does into reports, one after each step: what was handed over and asked
for since the last report, and which deliveries and handshakes came to an end. Deliveries and
handshakes are known by their number in the order in which they were given out. A report takes in
so many deliveries at most; what is left over is for the reports after it.
-/
namespace DocSync

structure Watch where
  /-- How many entries of the history were reported on. -/
  seen : Nat := 0
  /-- All deliveries that are not skipped. -/
  deliveries : List Delivery := []
  /-- Deliveries that came to an end and were not reported, by number. -/
  ended : List (Nat × Bool) := []
  /-- Handshakes without an outcome so far. -/
  handshakes : List (Nat × Handshake) := []
  handshakeCount : Nat := 0

structure Observation where
  sent : List Notification
  pulls : List DiagnosticRequest
  delivered : List (Nat × Bool)
  handshakes : List (Nat × Except OpenError Unit)

namespace Watch

/-- Adds a delivery, and gives its number if it is not skipped. -/
def addDelivery (w : Watch) (d : Delivery) : Watch × Option Nat :=
  match d with
  | .skipped => (w, none)
  | .ticket .. => ({ w with deliveries := w.deliveries ++ [d] }, some w.deliveries.length)

/-- Adds a handshake, and gives its number. -/
def addHandshake (w : Watch) (h : Handshake) : Watch × Nat :=
  ({ w with
    handshakes := w.handshakes ++ [(w.handshakeCount, h)]
    handshakeCount := w.handshakeCount + 1 }, w.handshakeCount)

def sent? (e : Entry) : Option Notification :=
  match e.event with
  | .handed n => some n
  | _ => none

def pulled? (e : Entry) : Option DiagnosticRequest :=
  match e.event with
  | .pulled _ _ request => some request
  | _ => none

/-- The numbered delivery that an entry ends. -/
def delivered? (w : Watch) (e : Entry) : Option (Nat × Bool) :=
  match e.event with
  | .acknowledged ticket sent =>
    (w.deliveries.findIdx? (· == .ticket e.document ticket)).map fun index => (index, sent)
  | _ => none

/-- How many deliveries one report takes in. -/
def deliveryLimit : Nat := 128

/-- The report since the last one. Messages are listed by URI, those of one URI in their order. -/
def observe (w : Watch) (c : Client) : Observation × Watch :=
  let entries := c.env.history.drop w.seen
  let ended := (w.ended ++ entries.filterMap w.delivered?).mergeSort fun a b => a.1 ≤ b.1
  let outcomes := w.handshakes.map fun (index, h) => (index, h, c.handshakeOutcome? h)
  ({ sent := (entries.filterMap sent?).mergeSort fun a b => a.uri.text ≤ b.uri.text
     pulls := (entries.filterMap pulled?).mergeSort fun a b => a.uri.text ≤ b.uri.text
     delivered := ended.take deliveryLimit
     handshakes := outcomes.filterMap fun (index, _, outcome) => outcome.map fun r => (index, r) },
   { w with
     seen := c.env.history.length
     ended := ended.drop deliveryLimit
     handshakes := outcomes.filterMap fun (index, h, outcome) =>
       if outcome.isNone then some (index, h) else none })

end Watch

end DocSync
