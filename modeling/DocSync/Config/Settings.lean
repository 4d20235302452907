import DocSync.Json.Decode

/-!
# Timing settings

How long documents wait before they talk to a server again, and how many events are kept for the
host. A headless run has nobody who waits for the screen: it neither lets a server settle after
opening a document nor gathers edits before it pulls diagnostics.
-/
namespace DocSync

structure Settings where
  settleMillis : Nat := 500
  debounceMillis : Nat := 500
  headless : Bool := false
  eventLimit : Nat := 256
deriving DecidableEq, Repr

namespace Settings

/-- The default settings of a headless run. -/
def forHeadless : Settings := { headless := true }

/-- Whole milliseconds of a time in microseconds. -/
def wholeMillis (micros : Nat) : Nat := micros / 1000

def withSettleDelay (s : Settings) (micros : Nat) : Settings :=
  { s with settleMillis := wholeMillis micros }

def withDebounce (s : Settings) (micros : Nat) : Settings :=
  { s with debounceMillis := wholeMillis micros }

/-- Milliseconds between opening a document and anything that follows. -/
def settleDelay (s : Settings) : Nat := if s.headless then 0 else s.settleMillis

/-- Milliseconds without a change after which diagnostics are pulled. -/
def debounce (s : Settings) : Nat := s.debounceMillis

/-- How many events wait for the host at most; there is always room for one. -/
def eventCapacity (s : Settings) : Nat := max s.eventLimit 1

def fieldNames : List String :=
  ["settle_delay_ms", "pull_debounce_ms", "headless", "event_channel_capacity"]

def ofJson? (j : Json) : Option Settings := do
  let get ← j.fields? fieldNames
  let standard : Settings := {}
  let settleMillis ← get.withDefault "settle_delay_ms" standard.settleMillis (Json.word? 64)
  let debounceMillis ← get.withDefault "pull_debounce_ms" standard.debounceMillis (Json.word? 64)
  let headless ← get.withDefault "headless" standard.headless Json.bool?
  let eventLimit ← get.withDefault "event_channel_capacity" standard.eventLimit (Json.word? 64)
  some { settleMillis, debounceMillis, headless, eventLimit }

end Settings

end DocSync
