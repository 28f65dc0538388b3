import WorkflowExpr.Value.Display

/-!
# Faults of documents

A document is malformed when its text follows no rule of the format, or when it asks for something
that cannot be built. Apart from that a scalar may have a tag that its text does not fit: a date that
the calendar does not have, or a number without digits.
-/

namespace WorkflowExpr.Yaml

/-- Why the text of a scalar cannot be read as its tag says. -/
inductive Misfit where
  | year (n : Nat)
  | month
  | day
  | hour
  | minute
  | second
  /-- An offset of a day or more, in minutes. -/
  | offset (minutes : Int)
  /-- No integer in a base. -/
  | integer (base : Nat) (text : String)
  /-- An integer with more digits than are read. -/
  | digits (count : Nat)
  /-- No real number. -/
  | real (text : String)
  /-- A number by sixties with more parts than a real number has room for. -/
  | sixties
  /-- The code of an escape is no character. -/
  | character
  /-- The code of an escape is no character and does not fit into a word. -/
  | wideCharacter
  /-- No word for a truth value. -/
  | word (text : String)
  /-- A number without any text. -/
  | empty
  /-- No timestamp. -/
  | timestamp
  /-- A timestamp that is no scalar. -/
  | notText
  /-- A text that is looked for in the mapping around it. -/
  | endless
deriving DecidableEq

/-- What is wrong with a document. -/
inductive Fault where
  | malformed
  | misfit (cause : Misfit)
deriving DecidableEq

/-- An offset by days, never negative seconds below a day, or nothing of both. -/
def offsetParts (minutes : Int) : String :=
  let days := Int.fdiv minutes 1440
  let seconds := Int.fmod minutes 1440 * 60
  let shown := (if days = 0 then [] else ["days=" ++ toString days]) ++
    (if seconds = 0 then [] else ["seconds=" ++ toString seconds])
  "datetime.timedelta(" ++ (if shown = [] then "0" else String.intercalate ", " shown) ++ ")"

/-- The most characters of a text that is no integer that are told, with the quote in front. -/
def toldLimit : Nat := 200

/-- The wording of a misfit. -/
def Misfit.message : Misfit → String
  | year n => "year " ++ toString n ++ " is out of range"
  | month => "month must be in 1..12"
  | day => "day is out of range for month"
  | hour => "hour must be in 0..23"
  | minute => "minute must be in 0..59"
  | second => "second must be in 0..59"
  | offset minutes =>
    "offset must be a timedelta strictly between -timedelta(hours=24) and timedelta(hours=24), not " ++
      offsetParts minutes ++ "."
  | integer base text =>
    "invalid literal for int() with base " ++ toString base ++ ": " ++
      String.ofList ((HostText.quoted text).toList.take toldLimit)
  | digits count =>
    "Exceeds the limit (" ++ toString digitLimit ++ " digits) for integer string conversion: value has " ++
      toString count ++ " digits; use sys.set_int_max_str_digits() to increase the limit"
  | real text => "could not convert string to float: " ++ HostText.quoted text
  | sixties => "int too large to convert to float"
  | character => "chr() arg not in range(0x110000)"
  | wideCharacter => "signed integer is greater than maximum"
  | word text => HostText.quoted text
  | empty => "string index out of range"
  | timestamp => "'NoneType' object has no attribute 'groupdict'"
  | notText => "expected string or bytes-like object, got 'list'"
  | endless => "maximum recursion depth exceeded"

end WorkflowExpr.Yaml
