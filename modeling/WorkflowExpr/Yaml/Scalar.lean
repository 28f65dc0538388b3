import WorkflowExpr.Number.Arithmetic
import WorkflowExpr.Number.Numeral
import WorkflowExpr.Text.Case
import WorkflowExpr.Yaml.Tag

/-!
# Scalars

What the text of a scalar stands for under its tag. Underscores in numbers are dropped. Integers are
binary, octal, decimal, hexadecimal or by sixties, real numbers decimal or by sixties. Whatever a scalar
stands for can be a key, and so is given as one.
-/

namespace WorkflowExpr.Yaml

/-! ## Integers -/

/-- The value of a digit of any script, or of a letter that follows the nine. -/
def placeValue? (c : Char) : Option Nat :=
  (Text.digit? c).or (Text.hexDigit? c)

/-- The letter of the mark in front of a number in a base: behind a zero, small or capital. -/
def baseMark? : Nat → Option Char
  | 2 => some 'b'
  | 8 => some 'o'
  | 16 => some 'x'
  | _ => none

/-- The text of a number without the mark of its base. -/
def dropMark (base : Nat) (cs : List Char) : List Char :=
  match cs with
  | zero :: letter :: rest =>
    if Text.digit? zero = some 0 ∧ baseMark? base = some letter.toLower then rest else cs
  | _ => cs

/-- The integer that digits in a base write, with an optional sign and an optional mark of the base in
front, and spaces around it. Too many digits are a misfit whatever follows them. -/
def integerIn (base : Nat) (cs : List Char) : Except Misfit Int :=
  let isPlace := fun c => (placeValue? c).any (· < base)
  let (isNegative, unsigned) := Numeral.takeSign (cs.dropWhile Text.isSpace)
  let written := dropMark base unsigned
  let digits := written.takeWhile isPlace
  if base = 10 ∧ digitLimit < digits.length then .error (.digits digits.length)
  else if digits = [] ∨ !(written.dropWhile isPlace).all Text.isSpace then
    .error (.integer base (String.ofList cs))
  else
    let n : Int := digits.foldl (fun n c => base * n + (placeValue? c).getD 0) (0 : Nat)
    .ok (if isNegative then -n else n)

/-- The parts of a text between its colons. -/
def colonParts : List Char → List (List Char)
  | [] => [[]]
  | c :: cs =>
    match colonParts cs with
    | [] => [[c]]
    | part :: parts => if c = ':' then [] :: part :: parts else (c :: part) :: parts

/-- The integer that an unsigned text writes. -/
def unsignedInteger (cs : List Char) : Except Misfit Int :=
  match cs with
  | [] => .error .empty
  | ['0'] => .ok 0
  | '0' :: 'b' :: rest => integerIn 2 rest
  | '0' :: 'x' :: rest => integerIn 16 rest
  | '0' :: _ => integerIn 8 cs
  | _ =>
    if cs.contains ':' then do
      let parts ← (colonParts cs).mapM (integerIn 10)
      return parts.foldl (fun total part => total * 60 + part) 0
    else integerIn 10 cs

/-- The integer that a text writes. -/
def integer (text : String) : Except Misfit Int :=
  match text.toList.filter (· ≠ '_') with
  | [] => .error .empty
  | '-' :: rest => do return -(← unsignedInteger rest)
  | '+' :: rest => unsignedInteger rest
  | cs => unsignedInteger cs

/-! ## Real numbers -/

/-- The real number that digits write, with an optional sign and spaces around it. -/
def realOf (cs : List Char) : Except Misfit Double :=
  let (isNegative, rest) := Numeral.takeSign (Text.trimSpace cs)
  match Numeral.decimal? rest with
  | some d => .ok (.signed isNegative d.toMagnitude)
  | none =>
    let word := String.ofList rest
    if word = "inf" ∨ word = "infinity" then .ok (.signed isNegative .infinity)
    else if word = "nan" then .ok .nan
    else .error (.real (String.ofList cs))

/-- The number that the parts of a number by sixties add up to, the last part first. -/
def sixties (total : Double) (unit : Nat) : List Double → Except Misfit Double
  | [] => .ok total
  | part :: rest =>
    let weight := Magnitude.nearest unit 1
    if weight.isFinite then
      sixties (total.plus (part.times (.signed false weight))) (unit * 60) rest
    else .error .sixties

/-- The word for no number. -/
def notNumberWord : List Char := ".nan".toList

/-- The real number that an unsigned text in small letters writes. -/
def unsignedReal (cs : List Char) : Except Misfit Double :=
  if cs = ".inf".toList then .ok .infinity
  else if cs = notNumberWord then .ok .nan
  else if cs.contains ':' then do
    let parts ← (colonParts cs).mapM realOf
    sixties .zero 1 parts.reverse
  else realOf cs

/-- The real number that a text writes. The word for no number stands for one and the same wherever it
is written; any other number that is none has the origin given. -/
def real (origin : Nat) (text : String) : Except Misfit Key :=
  let cs := Text.smallLetters [] (text.toList.filter (· ≠ '_'))
  let (isNegative, unsigned) := Numeral.takeSign cs
  if cs = [] then .error .empty
  else do
    match ← unsignedReal unsigned with
    | .nan => return .notNumber (if unsigned = notNumberWord then 0 else origin)
    | x => return .real (if isNegative then x.opposite else x)

/-! ## Truth values and bytes -/

/-- The truth value that a word stands for. -/
def truth (text : String) : Except Misfit Bool :=
  match Tag.truthWords.find? fun entry => entry.1 == Text.lower text with
  | some (_, b) => .ok b
  | none => .error (.word (Text.lower text))

/-- The value of a character of the sixty-four that write bytes. -/
def sextet? (c : Char) : Option Nat :=
  if 'A' ≤ c ∧ c ≤ 'Z' then some (c.toNat - 'A'.toNat)
  else if 'a' ≤ c ∧ c ≤ 'z' then some (c.toNat - 'a'.toNat + 26)
  else if '0' ≤ c ∧ c ≤ '9' then some (c.toNat - '0'.toNat + 52)
  else if c = '+' then some 62
  else if c = '/' then some 63
  else none

/-- The bytes that sextets write: `held` of four are read and leave `left` bits over. Other characters
are passed over, and enough equals signs end the text. -/
def bytesFrom (held left pads : Nat) : List Char → Option (List Nat)
  | [] => if held = 0 then some [] else none
  | '=' :: rest =>
    if 2 ≤ held then
      if 4 ≤ held + pads + 1 then some [] else bytesFrom held left (pads + 1) rest
    else bytesFrom held left pads rest
  | c :: rest =>
    match sextet? c, held with
    | none, _ => bytesFrom held left pads rest
    | some v, 0 => bytesFrom 1 v 0 rest
    | some v, 1 => (bytesFrom 2 (v % 16) 0 rest).map ((left * 4 + v / 16) :: ·)
    | some v, 2 => (bytesFrom 3 (v % 4) 0 rest).map ((left * 16 + v / 4) :: ·)
    | some v, _ => (bytesFrom 0 0 0 rest).map ((left * 64 + v) :: ·)

/-- The bytes that a text writes. -/
def binary (text : String) : Except Fault (List Nat) :=
  if !text.toList.all fun c => c.toNat < 128 then .error .malformed
  else match bytesFrom 0 0 0 text.toList with
    | some bytes => .ok bytes
    | none => .error .malformed

/-! ## Scalars -/

/-- The date or the moment that a text writes. -/
def timestamp (text : String) : Except Misfit Key :=
  match Stamp.read? (Stamp.withoutLineEnd text.toList) with
  | some stamp => stamp.value
  | none => .error .timestamp

/-- A reading that a misfit makes fail. -/
def fitted {α : Type} (read : Except Misfit α) (wrap : α → Key) : Except Fault Key :=
  match read with
  | .ok a => .ok (wrap a)
  | .error misfit => .error (.misfit misfit)

/-- What a text stands for under a tag of scalars. -/
def scalarKey (origin : Nat) (tag : Tag) (text : String) : Except Fault Key :=
  match tag with
  | .null => .ok .null
  | .boolean => fitted (truth text) .boolean
  | .integer => fitted (integer text) .integer
  | .real => fitted (real origin text) id
  | .timestamp => fitted (timestamp text) id
  | .binary => do return .bytes (← binary text)
  | .string => .ok (.text text)
  | _ => .error .malformed

end WorkflowExpr.Yaml
