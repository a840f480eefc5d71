/-! Points in time. A timestamp counts seconds from the start of 1970 in UTC; a leap second shares
its count with the second before it and has a fraction of one second or more. -/

namespace BookExport

structure Timestamp where
  seconds : Int
  nanos : Nat
  deriving DecidableEq, Repr, Inhabited

namespace Timestamp

def secondNanos : Nat := 1000000000

def ofMillis (ms : Nat) : Timestamp := ⟨ms / 1000, ms % 1000 * 1000000⟩

def isLeap (t : Timestamp) : Bool := secondNanos ≤ t.nanos

/-- The second of the day. -/
def clockSecond (t : Timestamp) : Int := t.seconds % 86400

/-- Nanoseconds from `start` to `finish`. A leap second lies between two clock seconds and is counted
when the later clock second has passed it. -/
def nanosBetween (start finish : Timestamp) : Int :=
  let passed : Int :=
    if start.clockSecond < finish.clockSecond then (if start.isLeap then 1 else 0)
    else if finish.clockSecond < start.clockSecond then (if finish.isLeap then -1 else 0)
    else 0
  (finish.seconds - start.seconds + passed) * secondNanos + (finish.nanos - start.nanos)

/-- Whole milliseconds from `start` to `finish`, rounded toward zero. -/
def millisBetween (start finish : Timestamp) : Int := (nanosBetween start finish).tdiv 1000000

/-- Milliseconds since the start of 1970. -/
def millis (t : Timestamp) : Int := t.seconds * 1000 + t.nanos / 1000000

end Timestamp

/-- A day of the calendar in use since 1582, extended to all years. -/
structure Date where
  year : Int
  month : Nat
  day : Nat
  deriving DecidableEq, Repr

namespace Date

def isLeapYear (year : Int) : Bool := year % 4 == 0 && (year % 100 != 0 || year % 400 == 0)

def monthLength (year : Int) (month : Nat) : Nat :=
  if month == 2 then (if isLeapYear year then 29 else 28)
  else if month == 4 || month == 6 || month == 9 || month == 11 then 30
  else 31

def exists? (d : Date) : Bool := 1 ≤ d.month && d.month ≤ 12 && 1 ≤ d.day && d.day ≤ monthLength d.year d.month

/-- Days from the start of 1970. Years are counted from March, so that a leap day ends its year, in
eras of 400 years. -/
def toDays (d : Date) : Int :=
  let year := if d.month ≤ 2 then d.year - 1 else d.year
  let era := year / 400
  let inEra := year % 400
  let fromMarch : Int := if d.month ≤ 2 then d.month + 9 else d.month - 3
  let inYear := (153 * fromMarch + 2) / 5 + d.day - 1
  era * 146097 + (inEra * 365 + inEra / 4 - inEra / 100 + inYear) - 719468

def ofDays (days : Int) : Date :=
  let shifted := days + 719468
  let era := shifted / 146097
  let inEra := shifted % 146097
  let yearInEra := (inEra - inEra / 1460 + inEra / 36524 - inEra / 146096) / 365
  let inYear := inEra - (365 * yearInEra + yearInEra / 4 - yearInEra / 100)
  let fromMarch := (5 * inYear + 2) / 153
  let day := inYear - (153 * fromMarch + 2) / 5 + 1
  let month := if fromMarch < 10 then fromMarch + 3 else fromMarch - 9
  ⟨yearInEra + era * 400 + (if month ≤ 2 then 1 else 0), month.toNat, day.toNat⟩

end Date
end BookExport
