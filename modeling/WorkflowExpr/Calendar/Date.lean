/-!
# Dates and moments

Days of the Gregorian calendar from year 1 to year 9999, and moments of such days, with or without an
offset from universal time.
-/

namespace WorkflowExpr

/-- The decimal text of a number, filled with zeros on the left up to a width. -/
def padZeros (width n : Nat) : String :=
  let digits := toString n
  String.ofList (List.replicate (width - digits.length) '0') ++ digits

/-- A day of the calendar. -/
structure Date where
  year : Nat
  month : Nat
  day : Nat
deriving DecidableEq

namespace Date

/-- Whether February has 29 days in the year. -/
def isLeapYear (year : Nat) : Bool :=
  year % 4 == 0 && (year % 100 != 0 || year % 400 == 0)

/-- The number of days of a month of a year. -/
def daysInMonth (year month : Nat) : Nat :=
  if month = 2 then if isLeapYear year then 29 else 28
  else if month ∈ [4, 6, 9, 11] then 30 else 31

/-- Whether the calendar has the day. -/
def isValid (d : Date) : Bool :=
  1 ≤ d.year && d.year ≤ 9999 && 1 ≤ d.month && d.month ≤ 12 && 1 ≤ d.day &&
    d.day ≤ daysInMonth d.year d.month

/-- The number of days from the start of year 1 to the day. -/
def ordinal (d : Date) : Nat :=
  let before := d.year - 1
  (List.range (d.month - 1)).foldl (fun days m => days + daysInMonth d.year (m + 1))
    (365 * before + before / 4 - before / 100 + before / 400 + d.day)

/-- Year, month and day, joined by hyphens. -/
def text (d : Date) : String :=
  padZeros 4 d.year ++ "-" ++ padZeros 2 d.month ++ "-" ++ padZeros 2 d.day

end Date

/-- A time of a day, with the offset of its zone from universal time in minutes if that is known. -/
structure Moment where
  date : Date
  hour : Nat
  minute : Nat
  second : Nat
  microsecond : Nat
  offset : Option Int
deriving DecidableEq

namespace Moment

/-- Whether the calendar has the day, the clock has the time and the offset is below a day. -/
def isValid (t : Moment) : Bool :=
  t.date.isValid && t.hour < 24 && t.minute < 60 && t.second < 60 && t.microsecond < 1000000 &&
    t.offset.all fun minutes => minutes.natAbs < 1440

/-- The microseconds since the start of year 1 on the clock of the moment's own zone. -/
def clock (t : Moment) : Int :=
  (((t.date.ordinal * 24 + t.hour) * 60 + t.minute) * 60 + t.second) * 1000000 + t.microsecond

/-- Whether two moments are the same: those with an offset when they are simultaneous, those without
when their clocks agree, and one of each kind never. -/
def same (s t : Moment) : Bool :=
  match s.offset, t.offset with
  | none, none => s.clock == t.clock
  | some a, some b => s.clock - a * 60000000 == t.clock - b * 60000000
  | _, _ => false

/-- The text of an offset: a sign, hours and minutes. -/
def offsetText (minutes : Int) : String :=
  (if minutes < 0 then "-" else "+") ++ padZeros 2 (minutes.natAbs / 60) ++ ":" ++
    padZeros 2 (minutes.natAbs % 60)

/-- The day, the time with the fraction of the second if there is one, and the offset. -/
def text (t : Moment) : String :=
  t.date.text ++ " " ++ padZeros 2 t.hour ++ ":" ++ padZeros 2 t.minute ++ ":" ++
    padZeros 2 t.second ++
    (if t.microsecond = 0 then "" else "." ++ padZeros 6 t.microsecond) ++
    (t.offset.map offsetText).getD ""

end Moment

end WorkflowExpr
