import WorkflowExpr.Text.Digit
import WorkflowExpr.Yaml.Cursor

/-!
# Quoted scalars

A scalar in single quotes holds its characters as they are, a quote written twice. One in double
quotes has escapes. In both a line end with the blanks around it is folded: to a space, or to the
empty lines that follow.
-/

namespace WorkflowExpr.Yaml

/-- The character of a one-letter escape. -/
def escape? : Char → Option Char
  | '0' => some '\x00'
  | 'a' => some '\x07'
  | 'b' => some '\x08'
  | 't' => some '\t'
  | '\t' => some '\t'
  | 'n' => some '\n'
  | 'v' => some '\x0b'
  | 'f' => some '\x0c'
  | 'r' => some '\r'
  | 'e' => some '\x1b'
  | ' ' => some ' '
  | '"' => some '"'
  | '\\' => some '\\'
  | '/' => some '/'
  | 'N' => some '\x85'
  | '_' => some '\xa0'
  | 'L' => some '\u2028'
  | 'P' => some '\u2029'
  | _ => none

/-- The number of hexadecimal digits of an escape by code. -/
def codeWidth? : Char → Option Nat
  | 'x' => some 2
  | 'u' => some 4
  | 'U' => some 8
  | _ => none

/-- The character with a code given by `width` hexadecimal digits. -/
def codeEscape (width : Nat) (c : Cursor) : Except Fault Char :=
  let digits := c.rest.take width
  if digits.length < width ∨ !digits.all Text.isHexDigit then .error .malformed
  else
    let code := Text.natOfHexDigits digits
    if 0x80000000 ≤ code then .error (.misfit .wideCharacter)
    else if 0x10FFFF < code then .error (.misfit .character)
    else .ok (Char.ofNat code)

/-- Whether the character stands for itself in quotes of both kinds. -/
def isQuotedChar (c : Char) : Bool :=
  !(c == '\'' || c == '"' || c == '\\' || isBlankOrEnd c)

/-- The empty lines from a line start on, with the blanks at the start of the line after them. -/
def emptyLines : Nat → Cursor → Except Fault (List Char × Cursor)
  | 0, c => .ok ([], c)
  | fuel + 1, c =>
    if c.isSeparator then .error .malformed
    else
      let c := c.skip fun d => d == ' ' || d == '\t'
      match c.lineBreak? with
      | none => .ok ([], c)
      | some (lineEnd, c) => do
        let (others, c) ← emptyLines fuel c
        return (lineEnd :: others, c)

/-- What a line end and the empty lines after it stand for. -/
def folded (lineEnd : Char) (others : List Char) : List Char :=
  (if lineEnd ≠ '\n' then [lineEnd] else if others = [] then [' '] else []) ++ others

/-- The text from inside a quoted scalar on, and the place behind the closing quote. -/
def quotedFrom (isDouble : Bool) : Nat → Cursor → Except Fault (List Char × Cursor)
  | 0, _ => .error .malformed
  | fuel + 1, c => do
    let add (text : List Char) (c : Cursor) : Except Fault (List Char × Cursor) := do
      let (more, c) ← quotedFrom isDouble fuel c
      return (text ++ more, c)
    if isQuotedChar c.first then add (c.run isQuotedChar) (c.skip isQuotedChar)
    else if c.first = '\'' ∧ !isDouble then
      if c.ahead 1 = '\'' then add ['\''] (c.advance 2) else return ([], c.step)
    else if c.first = '"' ∧ isDouble then return ([], c.step)
    else if c.first = '\\' ∧ isDouble then
      let d := c.ahead 1
      let c := c.advance 2
      match escape? d, codeWidth? d with
      | some e, _ => add [e] c
      | none, some width => add [← codeEscape width c] (c.advance width)
      | none, none =>
        if isBreak d then
          let (others, c) ← emptyLines (c.rest.length + 1) c
          add others c
        else .error .malformed
    else if c.first = '\'' ∨ c.first = '"' ∨ c.first = '\\' then add [c.first] c.step
    else
      let blanks := c.run fun d => d == ' ' || d == '\t'
      let c := c.advance blanks.length
      if c.rest.isEmpty then .error .malformed
      else match c.lineBreak? with
        | none => add blanks c
        | some (lineEnd, c) => do
          let (others, c) ← emptyLines (c.rest.length + 1) c
          add (folded lineEnd others) c

/-- A quoted scalar from its opening quote on. -/
def quoted (c : Cursor) : Except Fault (List Char × Cursor) :=
  quotedFrom (c.first = '"') (c.rest.length + 1) c.step

end WorkflowExpr.Yaml
