/-!
# Dates and times

The date-times of a configuration file, in the forms of RFC 3339: a date, a time of day, or both,
and with both an offset from universal time. Seconds may be left out.
-/
namespace DocSync

structure CalendarDate where
  year : Nat
  month : Nat
  day : Nat
deriving DecidableEq, Repr

structure DayTime where
  hour : Nat
  minute : Nat
  second : Option Nat
  nanosecond : Option Nat
deriving DecidableEq, Repr

inductive TimeOffset
  | utc
  | minutes (n : Int)
deriving DecidableEq, Repr

inductive DateTime
  | date (d : CalendarDate)
  | time (t : DayTime)
  | full (d : CalendarDate) (t : DayTime) (offset : Option TimeOffset)
deriving DecidableEq, Repr

/-- The decimal text of a number, with zeros in front up to a width. -/
def paddedText (width n : Nat) : String :=
  let digits := (toString n).toList
  String.ofList (List.replicate (width - digits.length) '0' ++ digits)

namespace CalendarDate

def isLeap (year : Nat) : Bool := year % 4 == 0 && (year % 100 != 0 || year % 400 == 0)

def daysIn (year : Nat) : Nat → Nat
  | 2 => if isLeap year then 29 else 28
  | 4 | 6 | 9 | 11 => 30
  | _ => 31

def isValid (d : CalendarDate) : Bool :=
  1 ≤ d.month && d.month ≤ 12 && 1 ≤ d.day && d.day ≤ daysIn d.year d.month

def text (d : CalendarDate) : String :=
  paddedText 4 d.year ++ "-" ++ paddedText 2 d.month ++ "-" ++ paddedText 2 d.day

end CalendarDate

namespace DayTime

/-- A leap second is a sixtieth second. -/
def isValid (t : DayTime) : Bool :=
  t.hour ≤ 23 && t.minute ≤ 59 && t.second.getD 0 ≤ 60

/-- A fraction of a second without zeros at its end, but never without digits. -/
def fractionText (nanosecond : Nat) : String :=
  match ((paddedText 9 nanosecond).toList.reverse.dropWhile (· == '0')).reverse with
  | [] => "0"
  | digits => String.ofList digits

def text (t : DayTime) : String :=
  paddedText 2 t.hour ++ ":" ++ paddedText 2 t.minute ++
    (match t.second with
      | some s => ":" ++ paddedText 2 s
      | none => "") ++
    (match t.nanosecond with
      | some n => "." ++ fractionText n
      | none => "")

end DayTime

def TimeOffset.text : TimeOffset → String
  | .utc => "Z"
  | .minutes n =>
    let sign := if n < 0 then "-" else "+"
    sign ++ paddedText 2 (n.natAbs / 60) ++ ":" ++ paddedText 2 (n.natAbs % 60)

namespace DateTime

def text : DateTime → String
  | .date d => d.text
  | .time t => t.text
  | .full d t offset => d.text ++ "T" ++ t.text ++ (offset.map TimeOffset.text).getD ""

/-! ## Reading -/

def digitsValue (digits : List Char) : Nat :=
  digits.foldl (fun n c => n * 10 + (c.toNat - '0'.toNat)) 0

/-- A number of exactly so many digits. -/
def fixed? (width : Nat) (cs : List Char) : Option (Nat × List Char) :=
  let digits := cs.takeWhile Char.isDigit
  if digits.length = width then some (digitsValue digits, cs.drop width) else none

def expect? (c : Char) : List Char → Option (List Char)
  | d :: rest => if c = d then some rest else none
  | [] => none

def date? (cs : List Char) : Option (CalendarDate × List Char) := do
  let (year, cs) ← fixed? 4 cs
  let cs ← expect? '-' cs
  let (month, cs) ← fixed? 2 cs
  let cs ← expect? '-' cs
  let (day, cs) ← fixed? 2 cs
  let date : CalendarDate := ⟨year, month, day⟩
  if date.isValid then some (date, cs) else none

/-- A fraction of a second; digits beyond the ninth do not count. -/
def nanosecond? (cs : List Char) : Option (Nat × List Char) :=
  let digits := cs.takeWhile Char.isDigit
  if digits.isEmpty then none
  else
    let kept := digits.take 9
    some (digitsValue kept * Nat.pow 10 (9 - kept.length), cs.dropWhile Char.isDigit)

def time? (cs : List Char) : Option (DayTime × List Char) := do
  let (hour, cs) ← fixed? 2 cs
  let cs ← expect? ':' cs
  let (minute, cs) ← fixed? 2 cs
  let (second, cs) ← match cs with
    | ':' :: rest => (fixed? 2 rest).map fun (s, rest) => (some s, rest)
    | _ => some (none, cs)
  let (nanosecond, cs) ← match second, cs with
    | some _, '.' :: rest => (nanosecond? rest).map fun (n, rest) => (some n, rest)
    | _, _ => some (none, cs)
  let time : DayTime := ⟨hour, minute, second, nanosecond⟩
  if time.isValid then some (time, cs) else none

def offset? (cs : List Char) : Option (Option TimeOffset) :=
  match cs with
  | [] => some none
  | ['Z'] | ['z'] => some (some .utc)
  | sign :: rest => do
    if sign ≠ '+' ∧ sign ≠ '-' then none
    let (hours, rest) ← fixed? 2 rest
    let rest ← expect? ':' rest
    let (minutes, rest) ← fixed? 2 rest
    if rest ≠ [] ∨ 23 < hours ∨ 59 < minutes then none
    let n : Int := ((hours * 60 + minutes : Nat) : Int)
    some (some (.minutes (if sign = '-' then -n else n)))

/-- The date-time that a whole token stands for. -/
def ofToken? (cs : List Char) : Option DateTime :=
  match date? cs with
  | some (d, []) => some (.date d)
  | some (d, sep :: rest) =>
    if sep = 'T' ∨ sep = 't' ∨ sep = ' ' then do
      let (t, rest) ← time? rest
      some (.full d t (← offset? rest))
    else none
  | none =>
    match time? cs with
    | some (t, []) => some (.time t)
    | _ => none

end DateTime

end DocSync
