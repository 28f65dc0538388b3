import WorkflowExpr.Expr.Token
import WorkflowExpr.Text.Digit

/-!
# Lexemes

The longest spelling of a terminal at the start of a text. An identifier, a number, a string and a
symbol start with different characters, so at most one of the four forms can match.
-/

namespace WorkflowExpr.Lexeme

/-- Whether an identifier may start with the character. -/
def isNameStart (c : Char) : Bool :=
  c.isAlpha || c == '_'

/-- Whether an identifier may go on with the character. -/
def isNameChar (c : Char) : Bool :=
  c.isAlpha || c.isDigit || c == '_' || c == '-'

/-- Whether the character may stand between tokens. -/
def isSpace (c : Char) : Bool :=
  c == ' ' || c == '\t' || c == '\x0c' || c == '\r' || c == '\n'

/-- An identifier: a letter or underscore, then letters, digits, underscores and hyphens. -/
def identifier? : List Char → Option (List Char)
  | c :: rest => if isNameStart c then some (c :: rest.takeWhile isNameChar) else none
  | [] => none

/-- The characters of a string literal after its opening quote, the closing quote included. A backslash
takes the next character along, whatever that is; only with `joinsLines` may that be a line feed. -/
def afterQuote? (joinsLines : Bool) (quote : Char) : List Char → Option (List Char)
  | [] => none
  | ['\\'] => none
  | '\\' :: c :: rest =>
    if c = '\n' ∧ joinsLines = false then none
    else (afterQuote? joinsLines quote rest).map fun body => '\\' :: c :: body
  | c :: rest =>
    if c = quote then some [c]
    else (afterQuote? joinsLines quote rest).map fun body => c :: body

/-- Whether the character opens a string literal. -/
def isQuote (c : Char) : Bool :=
  c == '\'' || c == '"'

/-- A string literal, from its opening to its closing quote. -/
def string? (joinsLines : Bool) : List Char → Option (List Char)
  | c :: rest =>
    if isQuote c then (afterQuote? joinsLines c rest).map fun body => c :: body else none
  | [] => none

/-- A hexadecimal number without its sign. -/
def hexadecimal? : List Char → Option (List Char)
  | '0' :: x :: rest =>
    let digits := rest.takeWhile Text.isHexDigit
    if (x = 'x' ∨ x = 'X') ∧ digits ≠ [] then some ('0' :: x :: digits) else none
  | _ => none

/-- The fraction at the start of a text: a point and digits, or nothing. -/
def fraction : List Char → List Char
  | '.' :: rest =>
    let digits := rest.takeWhile Text.isDigit
    if digits = [] then [] else '.' :: digits
  | _ => []

/-- The exponent at the start of a text: `e`, an optional sign and digits, or nothing. -/
def exponent : List Char → List Char
  | e :: rest =>
    if e = 'e' ∨ e = 'E' then
      let sign := match rest with
        | '+' :: _ => ['+']
        | '-' :: _ => ['-']
        | _ => []
      let digits := (rest.drop sign.length).takeWhile Text.isDigit
      if digits = [] then [] else e :: sign ++ digits
    else []
  | [] => []

/-- A decimal number without its sign. -/
def decimal? (cs : List Char) : Option (List Char) :=
  let whole := cs.takeWhile Text.isDigit
  if whole = [] then none
  else
    let point := fraction (cs.drop whole.length)
    some (whole ++ point ++ exponent (cs.drop (whole ++ point).length))

/-- A number without its sign: hexadecimal if that form matches, else decimal. -/
def unsigned? (cs : List Char) : Option (List Char) :=
  (hexadecimal? cs).or (decimal? cs)

/-- A number: an optional minus, then hexadecimal or decimal digits. -/
def number? : List Char → Option (List Char)
  | '-' :: rest => (unsigned? rest).map fun digits => '-' :: digits
  | cs => unsigned? cs

/-- A symbol; of two that match, the longer one. -/
def symbol? : List Char → Option (Terminal × List Char)
  | '=' :: '=' :: _ => some (.operator .equal, ['=', '='])
  | '!' :: '=' :: _ => some (.operator .notEqual, ['!', '='])
  | '<' :: '=' :: _ => some (.operator (.relation .atMost), ['<', '='])
  | '>' :: '=' :: _ => some (.operator (.relation .atLeast), ['>', '='])
  | '<' :: _ => some (.operator (.relation .less), ['<'])
  | '>' :: _ => some (.operator (.relation .greater), ['>'])
  | '&' :: '&' :: _ => some (.operator .and, ['&', '&'])
  | '|' :: '|' :: _ => some (.operator .or, ['|', '|'])
  | '!' :: _ => some (.not, ['!'])
  | '.' :: _ => some (.dot, ['.'])
  | '*' :: _ => some (.star, ['*'])
  | ',' :: _ => some (.comma, [','])
  | '(' :: _ => some (.openParen, ['('])
  | ')' :: _ => some (.closeParen, [')'])
  | '[' :: _ => some (.openBracket, ['['])
  | ']' :: _ => some (.closeBracket, [']'])
  | _ => none

/-- The terminal of a word: one of the three keywords, else an identifier. -/
def wordTerminal (word : List Char) : Terminal :=
  if word = "true".toList then .trueWord
  else if word = "false".toList then .falseWord
  else if word = "null".toList then .nullWord
  else .identifier

/-- The token at the start of a text: its terminal and its characters. -/
def first? (cs : List Char) : Option (Terminal × List Char) :=
  match identifier? cs with
  | some word => some (wordTerminal word, word)
  | none =>
    match number? cs with
    | some digits => some (.number, digits)
    | none =>
      match string? false cs with
      | some literal => some (.string, literal)
      | none => symbol? cs

/-- A string literal is not empty. -/
theorem string_ne_nil {joinsLines : Bool} {cs l : List Char} (h : string? joinsLines cs = some l) :
    l ≠ [] := by
  unfold string? at h
  split at h
  · split at h
    · obtain ⟨body, _, rfl⟩ := Option.map_eq_some_iff.1 h
      simp
    · simp at h
  · simp at h

/-- A number is not empty. -/
theorem number_ne_nil {cs l : List Char} (h : number? cs = some l) : l ≠ [] := by
  have unsigned : ∀ {cs l}, unsigned? cs = some l → l ≠ [] := by
    intro cs l h
    unfold unsigned? at h
    cases hx : hexadecimal? cs with
    | some x =>
      rw [hx] at h
      obtain rfl : x = l := by simpa using h
      unfold hexadecimal? at hx
      split at hx
      · dsimp only at hx
        split at hx
        · obtain rfl := Option.some.inj hx
          simp
        · simp at hx
      · simp at hx
    | none =>
      rw [hx] at h
      replace h : decimal? cs = some l := by simpa using h
      unfold decimal? at h
      by_cases hw : cs.takeWhile Text.isDigit = []
      · simp [hw] at h
      · simp only [hw, if_false] at h
        obtain rfl := Option.some.inj h
        simp [hw]
  unfold number? at h
  split at h
  · obtain ⟨digits, _, rfl⟩ := Option.map_eq_some_iff.1 h
    simp
  · exact unsigned h

/-- A symbol is not empty. -/
theorem symbol_ne_nil {cs l : List Char} {t : Terminal} (h : symbol? cs = some (t, l)) : l ≠ [] := by
  unfold symbol? at h
  split at h <;> simp at h <;> simp [← h.2]

/-- A token is not empty. -/
theorem first_ne_nil {cs l : List Char} {t : Terminal} (h : first? cs = some (t, l)) : l ≠ [] := by
  unfold first? at h
  split at h
  · next word hw =>
    obtain ⟨_, rfl⟩ := Prod.mk.inj (Option.some.inj h)
    unfold identifier? at hw
    split at hw
    · split at hw
      · obtain rfl := Option.some.inj hw
        simp
      · simp at hw
    · simp at hw
  · split at h
    · next digits hn =>
      obtain ⟨_, rfl⟩ := Prod.mk.inj (Option.some.inj h)
      exact number_ne_nil hn
    · split at h
      · next literal hs =>
        obtain ⟨_, rfl⟩ := Prod.mk.inj (Option.some.inj h)
        exact string_ne_nil hs
      · exact symbol_ne_nil h

end WorkflowExpr.Lexeme
