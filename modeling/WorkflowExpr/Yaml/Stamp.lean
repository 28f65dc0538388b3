import WorkflowExpr.Calendar.Date
import WorkflowExpr.Text.Digit
import WorkflowExpr.Yaml.Fault

/-!
# Timestamps

A timestamp is a date, or a date and a time with an optional fraction of a second and an optional
zone. Its numbers are read first and checked against the calendar and the clock after that.
-/

namespace WorkflowExpr.Yaml

/-- The time of a timestamp as written. -/
structure WrittenTime where
  hour : Nat
  minute : Nat
  second : Nat
  fraction : List Char
  /-- The offset of the zone in minutes, if a zone is given. -/
  offset? : Option Int

/-- A timestamp as written. -/
structure Stamp where
  date : Date
  time? : Option WrittenTime
  /-- Whether month and day have two digits. -/
  isWide : Bool

namespace Stamp

/-- Between `low` and `high` digits, as many as there are. -/
def digits? (low high : Nat) (cs : List Char) : Option (List Char × List Char) :=
  let run := (cs.take high).takeWhile Char.isDigit
  if low ≤ run.length then some (run, cs.drop run.length) else none

/-- A number after a sign. -/
def after? (sign : Char) (low high : Nat) : List Char → Option (Nat × List Char)
  | c :: rest =>
    if c = sign then (digits? low high rest).map fun (run, rest) => (Text.natOfDigits run, rest)
    else none
  | [] => none

/-- Whether the character is a space or a tab. -/
def isBlank (c : Char) : Bool :=
  c == ' ' || c == '\t'

/-- A zone at the end of a timestamp, if there is one. -/
def zone? (cs : List Char) : Option (Option Int) :=
  match cs.dropWhile isBlank with
  | [] => if cs.isEmpty then some none else none
  | ['Z'] => some (some 0)
  | sign :: rest =>
    if sign = '+' ∨ sign = '-' then do
      let (hours, rest) ← digits? 1 2 rest
      let (minutes, rest) ← if rest.isEmpty then some (0, []) else after? ':' 2 2 rest
      let offset : Int := Text.natOfDigits hours * 60 + minutes
      if rest.isEmpty then some (some (if sign = '-' then -offset else offset)) else none
    else none

/-- The time of a timestamp. -/
def timeOf? (cs : List Char) : Option WrittenTime := do
  let (hour, rest) ← digits? 1 2 cs
  let (minute, rest) ← after? ':' 2 2 rest
  let (second, rest) ← after? ':' 2 2 rest
  let (fraction, rest) := match rest with
    | '.' :: tail => (tail.takeWhile Char.isDigit, tail.dropWhile Char.isDigit)
    | tail => ([], tail)
  let offset? ← zone? rest
  return ⟨Text.natOfDigits hour, minute, second, fraction, offset?⟩

/-- What separates the time from the date is dropped. -/
def separated? : List Char → Option (List Char)
  | 'T' :: rest => some rest
  | 't' :: rest => some rest
  | c :: rest => if isBlank c then some (rest.dropWhile isBlank) else none
  | [] => none

/-- A text without the line feed at its end, if it has one. -/
def withoutLineEnd (cs : List Char) : List Char :=
  if cs.getLast? = some '\n' then cs.dropLast else cs

/-- Reads a whole text as a timestamp. -/
def read? (cs : List Char) : Option Stamp := do
  let (year, rest) ← digits? 4 4 cs
  let (month, afterMonth) ← after? '-' 1 2 rest
  let (day, afterDay) ← after? '-' 1 2 afterMonth
  let isWide := cs.length - afterDay.length == 10
  let date := ⟨Text.natOfDigits year, month, day⟩
  if afterDay.isEmpty then return ⟨date, none, isWide⟩
  let time ← timeOf? (← separated? afterDay)
  return ⟨date, some time, isWide⟩

/-- Whether the text of a plain scalar with this form is a timestamp. A date alone has to write two
digits for month and day. -/
def isImplicit (s : Stamp) : Bool :=
  s.time?.isSome || s.isWide

/-- The misfit of a date that the calendar does not have. -/
def dateMisfit? (d : Date) : Option Misfit :=
  if d.year = 0 then some (.year 0)
  else if d.month = 0 ∨ 12 < d.month then some .month
  else if d.day = 0 ∨ Date.daysInMonth d.year d.month < d.day then some .day
  else none

/-- The misfit of a time that the clock does not have. -/
def timeMisfit? (t : WrittenTime) : Option Misfit :=
  if 24 ≤ t.hour then some .hour
  else if 60 ≤ t.minute then some .minute
  else if 60 ≤ t.second then some .second
  else none

/-- The misfit of an offset of a day or more. -/
def offsetMisfit? (t : WrittenTime) : Option Misfit :=
  t.offset?.bind fun minutes => if 1440 ≤ minutes.natAbs then some (.offset minutes) else none

/-- The number of microseconds that the digits of a fraction write; further digits are dropped. -/
def microseconds (fraction : List Char) : Nat :=
  Text.natOfDigits (fraction.take 6) * Nat.pow 10 (6 - fraction.length)

/-- The date or the moment that a timestamp stands for. -/
def value (s : Stamp) : Except Misfit Key :=
  match s.time? with
  | none =>
    match dateMisfit? s.date with
    | some misfit => .error misfit
    | none => .ok (.date s.date)
  | some t =>
    match (offsetMisfit? t).or ((dateMisfit? s.date).or (timeMisfit? t)) with
    | some misfit => .error misfit
    | none => .ok (.moment ⟨s.date, t.hour, t.minute, t.second, microseconds t.fraction, t.offset?⟩)

end Stamp

end WorkflowExpr.Yaml
