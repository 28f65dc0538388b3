import WorkflowExpr.Json.Basic

/-!
# Writing JSON

Documents are written without spaces (`compact`), or with one item or field a line, two spaces deeper
at each level (`indented`). Characters outside ASCII stand for themselves.
-/

namespace WorkflowExpr.Json

/-- How a character is written inside a string: quotes, backslashes and control characters are
escaped. -/
def escape (c : Char) : List Char :=
  if c = '"' then ['\\', '"']
  else if c = '\\' then ['\\', '\\']
  else if c = '\n' then ['\\', 'n']
  else if c = '\r' then ['\\', 'r']
  else if c = '\t' then ['\\', 't']
  else if c = '\x08' then ['\\', 'b']
  else if c = '\x0c' then ['\\', 'f']
  else if c.toNat < 0x20 then
    ['\\', 'u', '0', '0', Nat.digitChar (c.toNat / 16), Nat.digitChar (c.toNat % 16)]
  else [c]

/-- A string in double quotes. -/
def quoted (s : String) : String :=
  "\"" ++ String.ofList (s.toList.flatMap escape) ++ "\""

/-- The text of a number; what is no finite number has its own word. -/
def numberText : Double → String
  | .nan => "NaN"
  | .signed negative m =>
    if m.isFinite then (Double.signed negative m).shortestText
    else if negative then "-Infinity" else "Infinity"

mutual

/-- The text of a document without spaces. -/
def compact : Json → String
  | null => "null"
  | boolean b => if b then "true" else "false"
  | integer n => toString n
  | real x => numberText x
  | string s => quoted s
  | array items => "[" ++ String.intercalate "," (compactItems items) ++ "]"
  | object fields => "\x7b" ++ String.intercalate "," (compactFields fields) ++ "\x7d"

/-- The texts of the items of an array. -/
def compactItems : List Json → List String
  | [] => []
  | item :: rest => compact item :: compactItems rest

/-- The texts of the fields of an object. -/
def compactFields : List (String × Json) → List String
  | [] => []
  | (name, value) :: rest => (quoted name ++ ":" ++ compact value) :: compactFields rest

end

/-- Lines between two brackets, each indented one level deeper than the closing one. -/
def block (opening closing : String) (indent : String) (lines : List String) : String :=
  if lines.isEmpty then opening ++ closing
  else
    opening ++ "\n" ++ String.intercalate ",\n" (lines.map fun line => indent ++ "  " ++ line) ++
      "\n" ++ indent ++ closing

mutual

/-- The text of a document with one item or field a line. -/
def indentedAt (indent : String) : Json → String
  | null => "null"
  | boolean b => if b then "true" else "false"
  | integer n => toString n
  | real x => numberText x
  | string s => quoted s
  | array items => block "[" "]" indent (indentedItems (indent ++ "  ") items)
  | object fields => block "\x7b" "\x7d" indent (indentedFields (indent ++ "  ") fields)

/-- The texts of the items of an array. -/
def indentedItems (indent : String) : List Json → List String
  | [] => []
  | item :: rest => indentedAt indent item :: indentedItems indent rest

/-- The texts of the fields of an object. -/
def indentedFields (indent : String) : List (String × Json) → List String
  | [] => []
  | (name, value) :: rest =>
    (quoted name ++ ": " ++ indentedAt indent value) :: indentedFields indent rest

end

/-- The text of a document with one item or field a line. -/
def indented (j : Json) : String :=
  indentedAt "" j

end WorkflowExpr.Json
