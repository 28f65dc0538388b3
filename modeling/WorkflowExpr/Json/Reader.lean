import WorkflowExpr.Json.Basic
import WorkflowExpr.Number.Numeral

/-!
# Reading JSON

The reader takes a text as one document with optional spacing around every part. What a run of digits
without fraction and exponent becomes is left to the caller: an exact integer or the nearest double.
A text that is no document is refused with the first fault and its place.

The reader is for documents that write no half of a surrogate pair without the other one. Half a pair alone
is no character, so no text here could hold it, and two different ones come out as the same character.
-/

namespace WorkflowExpr.Json

/-- What is wrong with a text. -/
inductive Reason where
  | value
  | propertyName
  | colon
  | comma
  | extraData
  | controlCharacter
  | unterminated
  | badEscape
  | badUnicode
  | byteOrderMark
  | literal (word : String)
deriving DecidableEq

/-- A fault: its reason, and how many characters are left where it shows. -/
structure Fault where
  reason : Reason
  left : Nat
deriving DecidableEq

/-- The wording of a reason. -/
def Reason.text : Reason → String
  | value => "Expecting value"
  | propertyName => "Expecting property name enclosed in double quotes"
  | colon => "Expecting ':' delimiter"
  | comma => "Expecting ',' delimiter"
  | extraData => "Extra data"
  | controlCharacter => "Invalid control character at"
  | unterminated => "Unterminated string starting at"
  | badEscape => "Invalid \\escape"
  | badUnicode => "Invalid \\uXXXX escape"
  | byteOrderMark => "Unexpected UTF-8 BOM (decode using utf-8-sig)"
  | literal word => "Invalid JSON literal '" ++ word ++ "'"

/-- The wording of a fault in a text: the reason, with line, column and offset of its place. -/
def Fault.message (source : List Char) (fault : Fault) : String :=
  match fault.reason with
  | .literal _ => fault.reason.text
  | reason =>
    let offset := source.length - fault.left
    let before := source.take offset
    let column := (before.reverse.takeWhile (· != '\n')).length + 1
    reason.text ++ ": line " ++ toString (before.count '\n' + 1) ++ " column " ++ toString column ++
      " (char " ++ toString offset ++ ")"

/-- Whether the character is spacing. -/
def isSpace (c : Char) : Bool :=
  c == ' ' || c == '\t' || c == '\n' || c == '\r'

/-- The text without the spacing at its start. -/
def skipSpace (cs : List Char) : List Char :=
  cs.dropWhile isSpace

/-- The text after a word that it starts with. -/
def after? : List Char → List Char → Option (List Char)
  | [], cs => some cs
  | _ :: _, [] => none
  | w :: ws, c :: cs => if w = c then after? ws cs else none

/-- The character for the letter after a backslash. -/
def unescape? : Char → Option Char
  | '"' => some '"'
  | '\\' => some '\\'
  | '/' => some '/'
  | 'b' => some '\x08'
  | 'f' => some '\x0c'
  | 'n' => some '\n'
  | 'r' => some '\r'
  | 't' => some '\t'
  | _ => none

/-- The number that four hexadecimal digits write. -/
def unit? (a b c d : Char) : Option Nat :=
  if [a, b, c, d].all Text.isHexDigit then some (Text.natOfHexDigits [a, b, c, d]) else none

/-- Whether the unit is the first half of a pair. -/
def isHighHalf (n : Nat) : Bool :=
  0xD800 ≤ n && n < 0xDC00

/-- Whether the unit is the second half of a pair. -/
def isLowHalf (n : Nat) : Bool :=
  0xDC00 ≤ n && n < 0xE000

/-- The character of a single unit. Half a pair alone is none: it is outside of the documents that the reader
is for, and the replacement character stands in its place. -/
def charOfUnit (n : Nat) : Char :=
  if 0xD800 ≤ n ∧ n < 0xE000 then '\ufffd' else Char.ofNat n

/-- The character of a pair of halves. -/
def charOfPair (high low : Nat) : Char :=
  Char.ofNat (0x10000 + (high - 0xD800) * 0x400 + (low - 0xDC00))

/-- Reads what follows `\u`: the character, and how many characters it took. A first half takes the
second one after it along; in a document that the reader is for there is one, and no second half stands
alone. At least one character has to follow the digits. -/
def readUnit (cs : List Char) : Except Fault (Char × Nat) :=
  match cs with
  | a :: b :: c :: d :: next :: rest =>
    match unit? a b c d with
    | none => .error ⟨.badUnicode, cs.length + 1⟩
    | some unit =>
      match isHighHalf unit, next, rest with
      | true, '\\', 'u' :: e :: f :: g :: h :: _ :: _ =>
        match unit? e f g h with
        | none => .error ⟨.badUnicode, rest.length⟩
        | some low =>
          if isLowHalf low then .ok (charOfPair unit low, 10) else .ok (charOfUnit unit, 4)
      | _, _, _ => .ok (charOfUnit unit, 4)
  | _ => .error ⟨.badUnicode, cs.length + 1⟩

/-- Reads a string after its opening quote. `opened` is what was left at that quote, and `taken` holds
the characters read so far, the last one first. -/
def readString (opened : Nat) (taken : List Char) : List Char → Except Fault (List Char × List Char)
  | [] => .error ⟨.unterminated, opened⟩
  | '"' :: rest => .ok (taken.reverse, rest)
  | ['\\'] => .error ⟨.unterminated, opened⟩
  | '\\' :: 'u' :: rest =>
    match readUnit rest with
    | .ok (c, used) => readString opened (c :: taken) (rest.drop used)
    | .error fault => .error fault
  | '\\' :: c :: rest =>
    match unescape? c with
    | some decoded => readString opened (decoded :: taken) rest
    | none => .error ⟨.badEscape, rest.length + 2⟩
  | c :: rest =>
    if c.toNat < 0x20 then .error ⟨.controlCharacter, rest.length + 1⟩
    else readString opened (c :: taken) rest
termination_by cs => cs.length

/-- The sign, the whole part, the fraction and the exponent of a number at the start of a text, and
the rest. The whole part has no needless zero, and a point or an exponent without digits after it is
not part of the number. -/
def splitNumber? (cs : List Char) : Option (List Char × Bool × List Char) :=
  let (sign, unsigned) := match cs with
    | '-' :: rest => (['-'], rest)
    | rest => ([], rest)
  let whole? := match unsigned with
    | '0' :: rest => some (['0'], rest)
    | rest => if rest.takeWhile Char.isDigit = [] then none
      else some (rest.takeWhile Char.isDigit, rest.dropWhile Char.isDigit)
  whole?.map fun (whole, afterWhole) =>
    let (fraction, afterFraction) := match afterWhole with
      | '.' :: rest => if rest.takeWhile Char.isDigit = [] then ([], afterWhole)
        else ('.' :: rest.takeWhile Char.isDigit, rest.dropWhile Char.isDigit)
      | rest => ([], rest)
    let (exponent, rest) := match afterFraction with
      | e :: tail =>
        let (plus, digits) := match tail with
          | '+' :: ds => (['+'], ds)
          | '-' :: ds => (['-'], ds)
          | ds => ([], ds)
        if (e = 'e' ∨ e = 'E') ∧ digits.takeWhile Char.isDigit ≠ [] then
          (e :: plus ++ digits.takeWhile Char.isDigit, digits.dropWhile Char.isDigit)
        else ([], afterFraction)
      | [] => ([], [])
    (sign ++ whole ++ fraction ++ exponent, fraction.isEmpty && exponent.isEmpty, rest)

/-- The words that stand for a value. -/
def words : List (String × Json) :=
  [("null", .null), ("true", .boolean true), ("false", .boolean false)]

/-- The words for numbers that JSON has no text for. They are refused by name. -/
def refusedWords : List String :=
  ["NaN", "Infinity", "-Infinity"]

/-- Reads a word or a number. -/
def readScalar (whole : List Char → Json) (cs : List Char) : Except Fault (Json × List Char) :=
  match words.findSome? fun (word, value) => (after? word.toList cs).map fun rest => (value, rest) with
  | some reading => .ok reading
  | none =>
    match refusedWords.find? fun word => (after? word.toList cs).isSome with
    | some word => .error ⟨.literal word, cs.length⟩
    | none =>
      match splitNumber? cs with
      | some (digits, true, rest) => .ok (whole digits, rest)
      | some (digits, false, rest) => .ok (.real (Double.ofText digits), rest)
      | none => .error ⟨.value, cs.length⟩

/-- Reads a quoted name, the colon after it and the spacing around that. -/
def readName : List Char → Except Fault (String × List Char)
  | '"' :: rest => do
    let (name, rest) ← readString (rest.length + 1) [] rest
    match skipSpace rest with
    | ':' :: rest => .ok (String.ofList name, skipSpace rest)
    | rest => .error ⟨.colon, rest.length⟩
  | rest => .error ⟨.propertyName, rest.length⟩

mutual

/-- Reads a value that stands at the start of a text. The first argument bounds the number of nested
calls. -/
def readValue (whole : List Char → Json) : Nat → List Char → Except Fault (Json × List Char)
  | 0, cs => .error ⟨.value, cs.length⟩
  | fuel + 1, cs =>
    match cs with
    | '"' :: rest => do
      let (s, rest) ← readString (rest.length + 1) [] rest
      .ok (.string (String.ofList s), rest)
    | '[' :: rest =>
      match skipSpace rest with
      | ']' :: rest => .ok (.array [], rest)
      | rest => readItems whole fuel [] rest
    | '\x7b' :: rest =>
      match skipSpace rest with
      | '\x7d' :: rest => .ok (.object [], rest)
      | rest => readFields whole fuel [] rest
    | cs => readScalar whole cs

/-- Reads the items of an array from the start of one on; `taken` holds those read so far, the last
one first. -/
def readItems (whole : List Char → Json) :
    Nat → List Json → List Char → Except Fault (Json × List Char)
  | 0, _, cs => .error ⟨.value, cs.length⟩
  | fuel + 1, taken, cs => do
    let (item, rest) ← readValue whole fuel cs
    match skipSpace rest with
    | ']' :: rest => .ok (.array (item :: taken).reverse, rest)
    | ',' :: rest => readItems whole fuel (item :: taken) (skipSpace rest)
    | rest => .error ⟨.comma, rest.length⟩

/-- Reads the fields of an object from the start of one on; `taken` holds those read so far, the last
one first. -/
def readFields (whole : List Char → Json) :
    Nat → List (String × Json) → List Char → Except Fault (Json × List Char)
  | 0, _, cs => .error ⟨.value, cs.length⟩
  | fuel + 1, taken, cs => do
    let (name, rest) ← readName cs
    let (value, rest) ← readValue whole fuel rest
    match skipSpace rest with
    | '\x7d' :: rest => .ok (ofEntries ((name, value) :: taken).reverse, rest)
    | ',' :: rest => readFields whole fuel ((name, value) :: taken) (skipSpace rest)
    | rest => .error ⟨.comma, rest.length⟩

end

/-- Reads a whole text as one document. A call for an item reads at least one character or is the call
for the value in front of one, so twice the length of the text bounds the nesting. -/
def readWith (whole : List Char → Json) (cs : List Char) : Except Fault Json :=
  if cs.head? = some '\ufeff' then .error ⟨.byteOrderMark, cs.length⟩
  else do
    let (j, rest) ← readValue whole (2 * cs.length + 2) (skipSpace cs)
    let rest := skipSpace rest
    if rest.isEmpty then .ok j else .error ⟨.extraData, rest.length⟩

/-- Reads a text, every number as the double nearest to it. -/
def read (cs : List Char) : Except Fault Json :=
  readWith (fun digits => .real (Double.ofText digits)) cs

/-- The integer that a sign and digits write. -/
def integerOf : List Char → Int
  | '-' :: digits => -Text.natOfDigits digits
  | digits => Text.natOfDigits digits

/-- Reads a text, with integers kept exact. -/
def readExact (cs : List Char) : Except Fault Json :=
  readWith (fun digits => .integer (integerOf digits)) cs

end WorkflowExpr.Json
