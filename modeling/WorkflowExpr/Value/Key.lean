import WorkflowExpr.Number.Text
import WorkflowExpr.Calendar.Date
import WorkflowExpr.Value.Limit

/-!
# Keys of objects

An object that the host supplies may be keyed by other scalars than text: a document may hold
`1: one` or `true: yes`. Numbers and booleans are equal as keys when they are equal as numbers. What is
no number is equal to itself alone, so such keys are told apart by where they come from. Every key has
a text, and two different keys may share it.
-/

namespace WorkflowExpr

/-- What a member of an object is filed under. -/
inductive Key where
  | text (s : String)
  | null
  | boolean (b : Bool)
  | integer (n : Int)
  | real (x : Double)
  /-- No number, told apart from others by its origin. -/
  | notNumber (origin : Nat)
  | date (d : Date)
  | moment (t : Moment)
  | bytes (bs : List Nat)
deriving DecidableEq

namespace Key

/-- The lower-case hexadecimal digit of a number below 16. -/
def hexDigit (n : Nat) : Char :=
  Nat.digitChar n

/-- The text of a byte in a quoted byte string. -/
def byteText (quote : Char) (b : Nat) : String :=
  if b = 0x5C ∨ b = quote.toNat then "\\" ++ String.singleton (Char.ofNat b)
  else if b = 0x09 then "\\t"
  else if b = 0x0A then "\\n"
  else if b = 0x0D then "\\r"
  else if 0x20 ≤ b ∧ b < 0x7F then String.singleton (Char.ofNat b)
  else "\\x" ++ String.ofList [hexDigit (b / 16), hexDigit (b % 16)]

/-- The text of a byte string: quoted, by double quotes if it holds single quotes only. -/
def bytesText (bs : List Nat) : String :=
  let quote := if bs.contains 0x27 && !bs.contains 0x22 then '"' else '\''
  "b" ++ String.singleton quote ++ String.join (bs.map (byteText quote)) ++ String.singleton quote

/-- The text of a key. -/
def display : Key → String
  | text s => s
  | null => "None"
  | boolean b => if b then "True" else "False"
  | integer n => toString n
  | real x => x.shortestText
  | notNumber _ => Double.nan.shortestText
  | date d => d.text
  | moment t => t.text
  | bytes bs => bytesText bs

/-- The limit that a key is beyond when its text is asked for. -/
def limit? : Key → Option HostLimit
  | integer n => if isWritable n then none else some .digits
  | _ => none

/-- The number that a numeric key is equal to: an integer, or a double that is none. -/
def number? : Key → Option (Int ⊕ Double)
  | boolean b => some (.inl (if b then 1 else 0))
  | integer n => some (.inl n)
  | real x => some (if x.isIntegral then .inl x.truncate else .inr x)
  | _ => none

/-- Whether two keys are filed in the same place. -/
def same (a b : Key) : Bool :=
  match a.number?, b.number? with
  | some (.inl m), some (.inl n) => m == n
  | some (.inr x), some (.inr y) => x.equals y
  | none, none =>
    match a, b with
    | moment s, moment t => s.same t
    | _, _ => a == b
  | _, _ => false

end Key

end WorkflowExpr
