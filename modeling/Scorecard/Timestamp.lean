import Scorecard.Blank
import Scorecard.Digits

/-!
# Timestamps

A moment of the UTC calendar, to the nanosecond. It is read from RFC 3339 text with any offset,
with blanks allowed around the components and `UTC` allowed for `Z`, and moved to UTC; it is
written as RFC 3339 text in UTC with the fewest of 0, 3, 6 or 9 fraction digits that lose nothing.
A sixtieth second is kept as a leap second.
-/

namespace Scorecard

/-- Every fourth year is a leap year, except every hundredth, except every four hundredth. -/
def isLeapYear (year : Int) : Bool := year % 4 == 0 && (year % 100 != 0 || year % 400 == 0)

/-- The number of days of a month, counted from one. -/
def daysInMonth (year : Int) (month : Nat) : Nat :=
  if month = 2 then (if isLeapYear year then 29 else 28)
  else if month = 4 ∨ month = 6 ∨ month = 9 ∨ month = 11 then 30
  else 31

/-- A day of the calendar, in the years that timestamps cover. -/
structure Date where
  year : Int
  month : Nat
  day : Nat
  in_calendar : (-262143 ≤ year ∧ year ≤ 262142) ∧ (1 ≤ month ∧ month ≤ 12) ∧
    (1 ≤ day ∧ day ≤ daysInMonth year month)
  deriving DecidableEq

namespace Date

/-- The day, if the calendar has it. -/
def of? (year : Int) (month day : Nat) : Option Date :=
  if h : (-262143 ≤ year ∧ year ≤ 262142) ∧ (1 ≤ month ∧ month ≤ 12) ∧
      (1 ≤ day ∧ day ≤ daysInMonth year month) then
    some ⟨year, month, day, h⟩
  else none

/-- The day after, if the calendar still has it. -/
def next? (d : Date) : Option Date :=
  if d.day < daysInMonth d.year d.month then of? d.year d.month (d.day + 1)
  else if d.month < 12 then of? d.year (d.month + 1) 1
  else of? (d.year + 1) 1 1

/-- The day before, if the calendar still has it. -/
def previous? (d : Date) : Option Date :=
  if 1 < d.day then of? d.year d.month (d.day - 1)
  else if 1 < d.month then of? d.year (d.month - 1) (daysInMonth d.year (d.month - 1))
  else of? (d.year - 1) 12 31

end Date

/-- A moment in UTC. -/
structure Timestamp where
  date : Date
  hour : Nat
  minute : Nat
  second : Nat
  nanosecond : Nat
  in_day : hour < 24 ∧ minute < 60 ∧ second ≤ 60 ∧ nanosecond < 1000000000
  deriving DecidableEq

namespace Timestamp

/-- Why a text is no timestamp. -/
inductive Fault where
  | premature
  | invalid
  | outOfRange
  | trailing
  | impossible
  deriving DecidableEq, Repr

/-- The wording of a fault. -/
def Fault.message : Fault → String
  | premature => "premature end of input"
  | invalid => "input contains invalid characters"
  | outOfRange => "input is out of range"
  | trailing => "trailing input"
  | impossible => "no possible date and time matching input"

/-! ## Reading -/

/-- A reader of the front of a text. -/
abbrev Reading := StateT (List Char) (Except Fault)

/-- Passes over white space. -/
def skipWhiteSpace : Reading Unit := modify trimFront

/-- A number of one up to `most` digits. -/
def number (most : Nat) : Reading Nat := fun cs =>
  match (cs.take most).takeWhile Char.isDigit with
  | [] => throw (if cs.isEmpty then .premature else .invalid)
  | ds => pure (digitsValue ds, cs.drop ds.length)

/-- A number of one or two digits that has to lie in a range, behind optional white space. -/
def component (least greatest : Nat) : Reading Nat := do
  skipWhiteSpace
  let n ← number 2
  if least ≤ n ∧ n ≤ greatest then return n else throw .outOfRange

/-- A given character, behind optional white space. -/
def separator (c : Char) : Reading Unit := do
  skipWhiteSpace
  match ← get with
  | [] => throw .premature
  | d :: cs => if d = c then set cs else throw .invalid

/-- A year as it stands: up to four digits, or any number of them behind a sign. -/
def signedYear : Reading Int := do
  match ← get with
  | '-' :: cs =>
    set cs
    return -((← number cs.length) : Int)
  | '+' :: cs =>
    set cs
    return ((← number cs.length) : Int)
  | _ => return ((← number 4) : Int)

/-- A year of 32 bits, behind optional white space. -/
def year : Reading Int := do
  skipWhiteSpace
  let y ← signedYear
  if -2147483648 ≤ y ∧ y < 2147483648 then return y else throw .outOfRange

/-- The letter or blank between day and hour. -/
def dayMark : Reading Unit := do
  match ← get with
  | [] => throw .premature
  | c :: cs => if c = 'T' ∨ c = 't' ∨ c = ' ' then set cs else throw .invalid

/-- Nanoseconds behind a point, if there is one; digits beyond the ninth are passed over. -/
def subsecond : Reading Nat := do
  match ← get with
  | '.' :: cs =>
    set cs
    let count := ((cs.take 9).takeWhile Char.isDigit).length
    let n ← number 9
    modify (·.dropWhile Char.isDigit)
    return n * Nat.pow 10 (9 - count)
  | _ => return 0

/-- Two digits, of which the first is at most five if `sixty` is set. -/
def twoDigits (sixty : Bool) : Reading Nat := do
  match ← get with
  | [] => throw .premature
  | [c] => throw (if c.toNat < 128 then .premature else .invalid)
  | c :: d :: cs =>
    if c.isDigit && d.isDigit then
      if sixty && '5' < c then throw .outOfRange
      set cs
      return digitsValue [c, d]
    else throw .invalid

/-- The offset from UTC in minutes: a letter Z, the letters UTC, or a sign, hours and minutes. -/
def offset : Reading Int := do
  skipWhiteSpace
  let cs ← get
  if (cs.take 3).map Char.toUpper = ['U', 'T', 'C'] then
    set (cs.drop 3)
    return 0
  match cs with
  | [] => throw .premature
  | c :: rest =>
    set rest
    if c = 'Z' ∨ c = 'z' then return 0
    else
      if c ≠ '+' ∧ c ≠ '-' ∧ c ≠ '−' then throw .invalid
      let hours ← twoDigits false
      modify (·.dropWhile fun c => c = ':' || isWhiteSpace c)
      let minutes ← twoDigits true
      let total : Int := hours * 60 + minutes
      return (if c = '+' then total else -total)

/-- The moment whose local clock shows a date and a time, the clock being `ahead` minutes ahead of
    UTC. -/
def ofLocal (date : Date) (hour minute second nanosecond : Nat) (ahead : Int) :
    Except Fault Timestamp := do
  if ahead ≤ -1440 ∨ 1440 ≤ ahead then throw .outOfRange
  let minutes : Int := hour * 60 + minute - ahead
  let day? :=
    if minutes < 0 then date.previous? else if 1440 ≤ minutes then date.next? else some date
  let clock := (minutes % 1440).toNat
  match day? with
  | none => throw .impossible
  | some day =>
    if h : clock / 60 < 24 ∧ clock % 60 < 60 ∧ second ≤ 60 ∧ nanosecond < 1000000000 then
      return ⟨day, clock / 60, clock % 60, second, nanosecond, h⟩
    else throw .outOfRange

/-- The parts of a timestamp in the order of the text. -/
def parts : Reading (Except Fault Timestamp) := do
  let y ← year
  separator '-'
  let month ← component 1 12
  separator '-'
  let day ← component 1 31
  dayMark
  let hour ← component 0 23
  separator ':'
  let minute ← component 0 59
  separator ':'
  let second ← component 0 60
  let nanosecond ← subsecond
  let ahead ← offset
  skipWhiteSpace
  return (match Date.of? y month day with
    | none => .error .outOfRange
    | some date => ofLocal date hour minute second nanosecond ahead)

/-- The moment that a text denotes. -/
def parse (s : String) : Except Fault Timestamp := do
  let (moment, rest) ← parts.run s.toList
  if rest.isEmpty then moment else throw .trailing

/-! ## Writing -/

/-- A year of four digits stands as it is; any other takes a sign. -/
def yearText (y : Int) : List Char :=
  if 0 ≤ y ∧ y ≤ 9999 then padded 4 y.toNat
  else (if y < 0 then '-' else '+') :: padded 4 y.natAbs

/-- The fraction of a second, in groups of three digits. -/
def fractionText (n : Nat) : List Char :=
  if n = 0 then []
  else if n % 1000000 = 0 then '.' :: padded 3 (n / 1000000)
  else if n % 1000 = 0 then '.' :: padded 6 (n / 1000)
  else '.' :: padded 9 n

/-- The RFC 3339 text of a moment. -/
def toText (t : Timestamp) : String :=
  String.ofList (yearText t.date.year ++ '-' :: padded 2 t.date.month ++
    '-' :: padded 2 t.date.day ++ 'T' :: padded 2 t.hour ++ ':' :: padded 2 t.minute ++ ':' :: padded 2 t.second ++
    fractionText t.nanosecond ++ ['Z'])

/-! Offsets are moved to UTC, across the end of a year too; of a fraction the exact groups stay. -/

example :
    (parse "2024-01-01T00:30:00.250+01:00").toOption.map toText = some "2023-12-31T23:30:00.250Z" := by
  decide +kernel

example : (parse "2016-12-31 23:59:60z").toOption.map toText = some "2016-12-31T23:59:60Z" := by
  decide +kernel

example : (parse "2023-02-29T00:00:00Z").toOption = none := by decide +kernel

end Timestamp
end Scorecard
