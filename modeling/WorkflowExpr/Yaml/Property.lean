import WorkflowExpr.Text.Digit
import WorkflowExpr.Yaml.Cursor
import WorkflowExpr.Yaml.Token

/-!
# Properties and directives

A node may have an anchor and a tag, and a document may start with directives. A tag is a text of its
own, in which a byte can be written by its code.
-/

namespace WorkflowExpr.Yaml

/-- Whether a name may hold the character. -/
def isNameChar (c : Char) : Bool :=
  c.isAlphanum || c == '-' || c == '_'

/-- Whether a tag may hold the character. -/
def isTagChar (c : Char) : Bool :=
  isNameChar c || "-;/?:@&=+$,_.!~*'()[]%".toList.contains c

/-- The name of an anchor or an alias, behind its sign. -/
def anchorName (c : Cursor) : Except Fault (String × Cursor) :=
  let name := c.step.run isNameChar
  let behind := c.step.advance name.length
  if name ≠ [] ∧ (isBlankOrEnd behind.first ∨ "?:,]\x7d%@\x60".toList.contains behind.first) then
    .ok (String.ofList name, behind)
  else .error .malformed

/-- The bytes that codes write, as far as codes follow one another. -/
def codedBytes : Nat → List Char → Except Fault (List UInt8 × List Char)
  | 0, cs => .ok ([], cs)
  | fuel + 1, '%' :: rest =>
    match rest with
    | a :: b :: rest =>
      if Text.isHexDigit a && Text.isHexDigit b then do
        let (more, rest) ← codedBytes fuel rest
        return (UInt8.ofNat (Text.natOfHexDigits [a, b]) :: more, rest)
      else .error .malformed
    | _ => .error .malformed
  | _, cs => .ok ([], cs)

/-- The text of a tag with its codes read, where `cs` holds the characters of the tag. -/
def decodedTag : Nat → List Char → Except Fault String
  | 0, _ => .ok ""
  | _, [] => .ok ""
  | fuel + 1, '%' :: rest => do
    let (bytes, rest) ← codedBytes (rest.length + 1) ('%' :: rest)
    match String.fromUTF8? ⟨bytes.toArray⟩ with
    | some text => return text ++ (← decodedTag fuel rest)
    | none => .error .malformed
  | fuel + 1, c :: rest => do return String.singleton c ++ (← decodedTag fuel rest)

/-- The text of a tag behind its handle. -/
def tagText (c : Cursor) : Except Fault (String × Cursor) :=
  let written := c.run isTagChar
  if written = [] then .error .malformed
  else do return (← decodedTag (written.length + 1) written, c.advance written.length)

/-- A handle of tags: a mark, or a name between two marks. -/
def tagHandle (c : Cursor) : Except Fault (String × Cursor) :=
  if c.first ≠ '!' then .error .malformed
  else if c.ahead 1 = ' ' then .ok ("!", c.step)
  else
    let name := c.step.run isNameChar
    let behind := c.step.advance name.length
    if behind.first = '!' then .ok ("!" ++ String.ofList name ++ "!", behind.step)
    else .error .malformed

/-- A tag: a whole one in angle brackets, the mark alone, or a text behind a handle. -/
def tag (c : Cursor) : Except Fault (WrittenTag × Cursor) := do
  let (written, behind) ←
    if c.ahead 1 = '<' then do
      let (suffix, behind) ← tagText (c.advance 2)
      if behind.first = '>' then pure (WrittenTag.mk none suffix, behind.step)
      else .error .malformed
    else if isBlankOrEnd (c.ahead 1) then pure (WrittenTag.mk none "!", c.step)
    else if (c.step.run fun d => !isSpaceOrEnd d).contains '!' then do
      let (handle, behind) ← tagHandle c
      let (suffix, behind) ← tagText behind
      pure (WrittenTag.mk (some handle) suffix, behind)
    else do
      let (suffix, behind) ← tagText c.step
      pure (WrittenTag.mk (some "!") suffix, behind)
  if isSpaceOrEnd behind.first then return (written, behind) else .error .malformed

/-- The digits of a number of a version. -/
def versionNumber (c : Cursor) : Except Fault (Nat × Cursor) :=
  let digits := c.run Char.isDigit
  if digits = [] then .error .malformed
  else if digitLimit < digits.length then .error (.misfit (.digits digits.length))
  else .ok (Text.natOfDigits digits, c.advance digits.length)

/-- What a directive says, behind its name. -/
def directiveValue (name : List Char) (c : Cursor) : Except Fault (Token × Cursor) :=
  if name = "YAML".toList then do
    let (major, c) ← versionNumber c.skipSpaces
    if c.first ≠ '.' then .error .malformed
    let (_, c) ← versionNumber c.step
    if isSpaceOrEnd c.first then return (.version major, c) else .error .malformed
  else if name = "TAG".toList then do
    let (handle, c) ← tagHandle c.skipSpaces
    if c.first ≠ ' ' then .error .malformed
    let (meaning, c) ← tagText c.skipSpaces
    if isSpaceOrEnd c.first then return (.handle handle meaning, c) else .error .malformed
  else .ok (.directive, c.skip fun d => !isLineEnd d)

/-- A directive, with the rest of its line. -/
def directive (c : Cursor) : Except Fault (Token × Cursor) := do
  let name := c.step.run isNameChar
  let c := c.step.advance name.length
  if name = [] ∨ !isSpaceOrEnd c.first then .error .malformed
  let (said, c) ← directiveValue name c
  return (said, ← c.endLine)

end WorkflowExpr.Yaml
