import WorkflowExpr.Yaml.Stamp

/-!
# Tags

The tag of a node says what it stands for. Most nodes have none; a plain scalar then gets one by the
form of its text, as does any scalar whose tag says nothing, and every other node by its kind.
-/

namespace WorkflowExpr.Yaml

/-- What a node stands for. -/
inductive Tag where
  | null
  | boolean
  | integer
  | real
  | timestamp
  | binary
  | string
  | sequence
  | mapping
  | set
  /-- A sequence of pairs. -/
  | pairs
  /-- The key whose value is merged into a mapping. -/
  | merge
  /-- The key whose value stands for its mapping. -/
  | default
  | other
deriving DecidableEq

namespace Tag

/-- The texts that the tags of the format start with. -/
def standard : String := "tag:yaml.org,2002:"

/-- The tags of the format by their names. -/
def names : List (String × Tag) :=
  [("null", null), ("bool", boolean), ("int", integer), ("float", real), ("timestamp", timestamp),
    ("binary", binary), ("str", string), ("seq", sequence), ("map", mapping), ("set", set),
    ("omap", pairs), ("pairs", pairs), ("merge", merge), ("value", default)]

/-- The tag with a text. -/
def ofText (text : String) : Tag :=
  ((names.find? fun entry => standard ++ entry.1 == text).map (·.2)).getD other

/-- Whether the tag is one of scalars. -/
def isScalar : Tag → Bool
  | null => true
  | boolean => true
  | integer => true
  | real => true
  | timestamp => true
  | binary => true
  | string => true
  | _ => false

/-- Whether the tag is one of collections. -/
def isCollection : Tag → Bool
  | sequence => true
  | mapping => true
  | set => true
  | pairs => true
  | _ => false

/-! ## Forms of scalars -/

/-- The words for null. -/
def nullWords : List String :=
  ["~", "null", "Null", "NULL", ""]

/-- The words for truth values in lower case. -/
def truthWords : List (String × Bool) :=
  [("yes", true), ("no", false), ("true", true), ("false", false), ("on", true), ("off", false)]

/-- A word in its three spellings: small, with a capital, and all capitals. -/
def spellings (word : String) : List String :=
  [word, word.capitalize, word.toUpper]

/-- The text of a number without its sign. -/
def dropSign : List Char → List Char
  | '+' :: rest => rest
  | '-' :: rest => rest
  | rest => rest

/-- Whether the character is a digit below a base, or the mark that may stand between digits. -/
def isPlace (base : Nat) (c : Char) : Bool :=
  c == '_' || (Text.hexDigit? c).any (· < base)

/-- Whether the text is groups of one or two digits below sixty, each after a colon. -/
def isGroups : List Char → Bool
  | [] => true
  | ':' :: a :: ':' :: rest => a.isDigit && isGroups (':' :: rest)
  | [':', a] => a.isDigit
  | ':' :: a :: b :: rest => '0' ≤ a && a ≤ '5' && b.isDigit && isGroups rest
  | _ => false

/-- Whether the text is a number by sixties: digits, then groups below sixty after colons. -/
def isSixties (firstDigit : Char) (cs : List Char) : Bool :=
  match cs with
  | [] => false
  | c :: rest =>
    let groups := rest.dropWhile (isPlace 10)
    firstDigit ≤ c && c ≤ '9' && groups ≠ [] && isGroups groups

/-- Whether the text is an integer. -/
def isInteger (cs : List Char) : Bool :=
  match dropSign cs with
  | ['0'] => true
  | '0' :: 'b' :: rest => rest ≠ [] && rest.all (isPlace 2)
  | '0' :: 'x' :: rest => rest ≠ [] && rest.all (isPlace 16)
  | '0' :: rest => rest.all (isPlace 8)
  | c :: rest =>
    ('1' ≤ c && c ≤ '9' && rest.all (isPlace 10)) || isSixties '1' (c :: rest)
  | [] => false

/-- Whether the text is nothing or an exponent with a sign. -/
def isExponent : List Char → Bool
  | [] => true
  | e :: sign :: rest =>
    (e == 'e' || e == 'E') && (sign == '+' || sign == '-') && rest ≠ [] && rest.all Char.isDigit
  | _ => false

/-- Whether the text is a real number. -/
def isReal (cs : List Char) : Bool :=
  let word := String.ofList (dropSign cs)
  let whole := (dropSign cs).takeWhile (· ≠ '.')
  match (dropSign cs).dropWhile (· ≠ '.') with
  | '.' :: fraction =>
    if whole = [] then
      [".inf", ".Inf", ".INF"].contains word ||
        (dropSign cs == cs && ([".nan", ".NaN", ".NAN"].contains word ||
          ((fraction.head?.any Char.isDigit) && isExponent (fraction.dropWhile (isPlace 10)))))
    else
      (whole.head?.any Char.isDigit && whole.all (isPlace 10) &&
        isExponent (fraction.dropWhile (isPlace 10))) ||
        (isSixties '0' whole && fraction.all (isPlace 10))
  | _ => false

/-- The signs that have no meaning as a text of their own. -/
def reservedSigns : List String :=
  ["!", "&", "*"]

/-- The tag that the form of a text gives. One line feed may follow a form; a lone one is no null. -/
def ofForm (text : String) : Tag :=
  let cs := Stamp.withoutLineEnd text.toList
  let form := String.ofList cs
  if nullWords.contains form ∧ (form ≠ "" ∨ text = "") then null
  else if (truthWords.flatMap fun entry => spellings entry.1).contains form then boolean
  else if isInteger cs then integer
  else if isReal cs then real
  else if (Stamp.read? cs).any Stamp.isImplicit then timestamp
  else if form = "<<" then merge
  else if form = "=" then default
  else if reservedSigns.contains form then other
  else string

end Tag

end WorkflowExpr.Yaml
