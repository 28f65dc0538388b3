import WorkflowExpr.Text.Hidden
import WorkflowExpr.Value.Basic

/-!
# Host spelling of values

How a host shows a value that it cannot use: a string as it is, and everything inside a collection
quoted. Lists stand in brackets, members of objects in braces with a colon between key and value.
-/

namespace WorkflowExpr

namespace HostText

/-- The last `width` hexadecimal digits of a number. -/
def hexadecimal (width n : Nat) : String :=
  String.ofList ((List.range width).reverse.map fun i => Nat.digitChar (n / Nat.pow 16 i % 16))

/-- How a character is shown inside quotes. -/
def charText (quote c : Char) : String :=
  if c = quote ∨ c = '\\' then "\\" ++ String.singleton c
  else if c = '\t' then "\\t"
  else if c = '\n' then "\\n"
  else if c = '\r' then "\\r"
  else if Text.isHidden c then
    if c.toNat < 0x100 then "\\x" ++ hexadecimal 2 c.toNat
    else if c.toNat < 0x10000 then "\\u" ++ hexadecimal 4 c.toNat
    else "\\U" ++ hexadecimal 8 c.toNat
  else String.singleton c

/-- A text in quotes: single ones, unless it holds those and no double ones. -/
def quoted (s : String) : String :=
  let quote := if s.toList.contains '\'' && !s.toList.contains '"' then '"' else '\''
  String.singleton quote ++ String.join (s.toList.map (charText quote)) ++ String.singleton quote

/-- A date by its parts. -/
def date (d : Date) : String :=
  "datetime.date(" ++ String.intercalate ", " ([d.year, d.month, d.day].map toString) ++ ")"

/-- The offset of a zone by its parts. An offset below zero is shown as a day less and the rest. -/
def zone (minutes : Int) : String :=
  if minutes = 0 then "datetime.timezone.utc"
  else
    let seconds := (minutes * 60) % 86400
    "datetime.timezone(datetime.timedelta(" ++ (if minutes < 0 then "days=-1, " else "") ++
      "seconds=" ++ toString seconds ++ "))"

/-- A moment by its parts. Seconds and microseconds are left out where only zeros would follow. -/
def moment (t : Moment) : String :=
  let tail := if t.microsecond = 0 then (if t.second = 0 then [] else [t.second])
    else [t.second, t.microsecond]
  "datetime.datetime(" ++
    String.intercalate ", "
      (([t.date.year, t.date.month, t.date.day, t.hour, t.minute] ++ tail).map toString) ++
    ((t.offset.map fun minutes => ", tzinfo=" ++ zone minutes).getD "") ++ ")"

/-- An integer by its digits, if it has not too many of them. -/
def integer (n : Int) : Except HostLimit String :=
  if isWritable n then .ok (toString n) else .error .digits

/-- A key inside a collection. -/
def key : Key → Except HostLimit String
  | .text s => .ok (quoted s)
  | .integer n => integer n
  | .date d => .ok (date d)
  | .moment t => .ok (moment t)
  | other => .ok other.display

/-- The number of places in the table that keeps a set of so many members. -/
def placesOf (count : Nat) : Nat :=
  if count ≤ 4 then 8 else Nat.pow 2 (Nat.log2 (2 * count) + 1)

/-- The place of a whole number in a table: its remainder by the number of places. -/
def place? (places : Nat) (k : Key) : Option Nat :=
  match k.number? with
  | some (.inl n) => if 0 ≤ n ∧ n < 0x1FFFFFFFFFFFFFFF then some (n.toNat % places) else none
  | _ => none

/-- The members of a set in the order in which they are shown: by their places, if each of them has a
place of its own, and else as they are given. -/
def setOrder (members : List Key) : List Key :=
  match members.mapM (fun k => (place? (placesOf members.length) k).map (·, k)) with
  | some placed =>
    if (placed.map (·.1)).Nodup then
      (placed.mergeSort fun a b => decide (a.1 ≤ b.1)).map (·.2)
    else members
  | none => members

/-- A foreign value inside a collection. -/
def foreign : Foreign → Except HostLimit String
  | .date d => .ok (date d)
  | .moment t => .ok (moment t)
  | .bytes bs => .ok (Key.bytesText bs)
  | .set members => do
    if members.isEmpty then return "set()"
    return "\x7b" ++ String.intercalate ", " (← (setOrder members).mapM key) ++ "\x7d"
  | .beyond limit => .error limit
  | .shown text => .ok text
  | .other typeName => .ok typeName

mutual

/-- A value inside a collection. -/
def inside : Value → Except HostLimit String
  | .null => .ok "None"
  | .boolean b => .ok (if b then "True" else "False")
  | .integer n => integer n
  | .real x => .ok x.shortestText
  | .string s => .ok (quoted s)
  | .array items => do return "[" ++ String.intercalate ", " (← insideItems items) ++ "]"
  | .object members => do
    return "\x7b" ++ String.intercalate ", " (← insideMembers members) ++ "\x7d"
  | .foreign f => foreign f

/-- The items of an array. -/
def insideItems : List Value → Except HostLimit (List String)
  | [] => .ok []
  | item :: rest => do
    let text ← inside item
    return text :: (← insideItems rest)

/-- The members of an object. -/
def insideMembers : List (Key × Value) → Except HostLimit (List String)
  | [] => .ok []
  | (k, v) :: rest => do
    let text := (← key k) ++ ": " ++ (← inside v)
    return text :: (← insideMembers rest)

end

end HostText

/-- The text by which a host shows a value. -/
def Value.hostText : Value → Except HostLimit String
  | .string s => .ok s
  | .foreign (.date d) => .ok d.text
  | .foreign (.moment t) => .ok t.text
  | v => HostText.inside v

end WorkflowExpr
