import BookExport.Text.Blank
import BookExport.Text.Digits
import BookExport.Timestamp

/-! Timestamps as text, after RFC 3339. Writing has one form: UTC, the letter Z, and no fraction or one
of three, six or nine digits. Reading is wider: any offset, any fraction, blanks between the parts,
numbers without their leading zeros, and years with a sign. -/

namespace BookExport.Timestamp
open Text

/-- A number of one to `most` digits. -/
def readNumber (most : Nat) (cs : List Char) : Option (Nat × List Char) :=
  let digits := (cs.take most).takeWhile Char.isDigit
  if digits.isEmpty then none else some (valueOf digits, cs.drop digits.length)

def readField (cs : List Char) : Option (Nat × List Char) := readNumber 2 (dropBlank cs)

def readLiteral (c : Char) (cs : List Char) : Option (List Char) :=
  match dropBlank cs with
  | d :: rest => if c = d then some rest else none
  | [] => none

/-- A year has at most four digits, or a sign and any number of them. -/
def readYear (cs : List Char) : Option (Int × List Char) :=
  match dropBlank cs with
  | '-' :: rest => (readNumber rest.length rest).map fun (n, rest) => (-(n : Int), rest)
  | '+' :: rest => (readNumber rest.length rest).map fun (n, rest) => ((n : Int), rest)
  | rest => (readNumber 4 rest).map fun (n, rest) => ((n : Int), rest)

def firstYear : Int := -262143
def lastYear : Int := 262142

/-- Whether the day of a moment in UTC has a year that can be written. -/
def isInCalendar (t : Timestamp) : Bool :=
  let year := (Date.ofDays (t.seconds / 86400)).year
  firstYear ≤ year && year ≤ lastYear

def readDate (cs : List Char) : Option (Date × List Char) := do
  let (year, cs) ← readYear cs
  let cs ← readLiteral '-' cs
  let (month, cs) ← readField cs
  let cs ← readLiteral '-' cs
  let (day, cs) ← readField cs
  let date : Date := ⟨year, month, day⟩
  if firstYear ≤ year ∧ year ≤ lastYear ∧ date.exists? then some (date, cs) else none

/-- The first nine digits of a fraction count; the rest are skipped. -/
def readFraction : List Char → Option (Nat × List Char)
  | '.' :: cs =>
    let digits := cs.takeWhile Char.isDigit
    if digits.isEmpty then none
    else
      let kept := digits.take 9
      some (valueOf kept * Nat.pow 10 (9 - kept.length), cs.drop digits.length)
  | cs => some (0, cs)

/-- The second of the day and the fraction. Second 60 is the second 59 with a fraction above one. -/
def readClock (cs : List Char) : Option (Nat × Nat × List Char) := do
  let (hour, cs) ← readField cs
  let cs ← readLiteral ':' cs
  let (minute, cs) ← readField cs
  let cs ← readLiteral ':' cs
  let (second, cs) ← readField cs
  let (fraction, cs) ← readFraction cs
  if hour < 24 ∧ minute < 60 ∧ second ≤ 60 then
    if second = 60 then some (hour * 3600 + minute * 60 + 59, secondNanos + fraction, cs)
    else some (hour * 3600 + minute * 60 + second, fraction, cs)
  else none

def readTwoDigits : List Char → Option (Nat × List Char)
  | a :: b :: rest => if a.isDigit ∧ b.isDigit then some (valueOf [a, b], rest) else none
  | _ => none

/-- The seconds of an offset of hours and minutes. Between them colons and blanks may stand. -/
def readOffsetSize (cs : List Char) : Option (Nat × List Char) := do
  let (hours, cs) ← readTwoDigits cs
  let (minutes, cs) ← readTwoDigits (cs.dropWhile fun c => c == ':' || isBlank c)
  if minutes < 60 then some (hours * 3600 + minutes * 60, cs) else none

def readOffset (cs : List Char) : Option (Int × List Char) :=
  match dropBlank cs with
  | 'Z' :: rest | 'z' :: rest => some (0, rest)
  | a :: b :: c :: rest =>
    if [a, b, c].map Char.toLower = ['u', 't', 'c'] then some (0, rest) else signed (a :: b :: c :: rest)
  | cs => signed cs
where
  signed : List Char → Option (Int × List Char)
    | '+' :: rest => (readOffsetSize rest).map fun (n, rest) => ((n : Int), rest)
    | '-' :: rest | '\u2212' :: rest => (readOffsetSize rest).map fun (n, rest) => (-(n : Int), rest)
    | _ => none

def read? (s : String) : Option Timestamp := do
  let (date, cs) ← readDate s.toList
  let cs ← match cs with
    | 'T' :: rest | 't' :: rest | ' ' :: rest => some rest
    | _ => none
  let (clock, nanos, cs) ← readClock cs
  let (offset, cs) ← readOffset cs
  let t : Timestamp := ⟨date.toDays * 86400 + clock - offset, nanos⟩
  if (dropBlank cs).isEmpty ∧ -86400 < offset ∧ offset < 86400 ∧ t.isInCalendar then some t else none

def writeYear (year : Int) : String :=
  if 0 ≤ year ∧ year ≤ 9999 then padded 4 year.toNat
  else (if year < 0 then "-" else "+") ++ padded 4 year.natAbs

def writeDate (d : Date) : String := writeYear d.year ++ "-" ++ padded 2 d.month ++ "-" ++ padded 2 d.day

def writeFraction (nanos : Nat) : String :=
  if nanos = 0 then ""
  else if nanos % 1000000 = 0 then "." ++ padded 3 (nanos / 1000000)
  else if nanos % 1000 = 0 then "." ++ padded 6 (nanos / 1000)
  else "." ++ padded 9 nanos

def writeClock (clock nanos : Nat) : String :=
  let second := clock % 60 + nanos / secondNanos
  padded 2 (clock / 3600) ++ ":" ++ padded 2 (clock / 60 % 60) ++ ":" ++ padded 2 second ++
    writeFraction (nanos % secondNanos)

/-- The date and the clock in UTC, without a mark for UTC. -/
def writeMoment (t : Timestamp) : String :=
  writeDate (Date.ofDays (t.seconds / 86400)) ++ "T" ++ writeClock t.clockSecond.toNat t.nanos

def write (t : Timestamp) : String := t.writeMoment ++ "Z"

/-- The same moment with the offset of UTC in digits. -/
def writeWithOffset (t : Timestamp) : String := t.writeMoment ++ "+00:00"

end BookExport.Timestamp
