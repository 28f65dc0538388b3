import Mathlib.Tactic.Lemma
import WorkflowExpr.Expr.Parser

/-!
# The grammar of expressions

The grammar is a relation between the listed tokens of a text and the expression that they derive, one
rule for each production. Each level of precedence holds the next tighter one, and a binary operator
takes an operand of its own level to its left and one of the next tighter level to its right.

Nothing here refers to the parser: a listed token counts by its kind and its spelling alone.
-/

namespace WorkflowExpr

/-- The terminal that a listed token is an instance of. The end of the text is none. -/
def ListedToken.terminal? (t : ListedToken) : Option Terminal :=
  match t.kind with
  | .identifier => some .identifier
  | .number => some .number
  | .string => some .string
  | .keyword =>
    [("true", .trueWord), ("false", .falseWord), ("null", .nullWord)].lookup t.text
  | .operator => if t.text = "!" then some .not else (Operator.ofSymbol? t.text).map .operator
  | .punctuation =>
    [(".", .dot), ("*", .star), (",", .comma), ("(", .openParen), (")", .closeParen),
      ("[", .openBracket), ("]", .closeBracket)].lookup t.text
  | .eof => none

/-- A listed token is an instance of a terminal. -/
def ListedToken.Is (t : ListedToken) (k : Terminal) : Prop :=
  t.terminal? = some k

/-- The levels of precedence, from the loosest to the tightest. -/
inductive Level where
  | or
  | and
  | equality
  | relation
  | unary
  | access
  | primary

/-- Token lists joined by commas, each with the expression that stands for it. -/
inductive Separated : List (List ListedToken × Expr) → List ListedToken → Prop where
  | one {p} :
    Separated [p] p.1
  | more {ps p ts c} :
    Separated ps ts →
    c.Is .comma →
    Separated (ps ++ [p]) (ts ++ c :: p.1)

/-- Tokens derive an expression from a level of the grammar. -/
inductive Derives : Level → List ListedToken → Expr → Prop where
  | orPass {ts e} :
    Derives .and ts e →
    Derives .or ts e
  | or {ls rs t a b} :
    Derives .or ls a →
    t.Is (.operator .or) →
    Derives .and rs b →
    Derives .or (ls ++ t :: rs) (.binary .or a b)
  | andPass {ts e} :
    Derives .equality ts e →
    Derives .and ts e
  | and {ls rs t a b} :
    Derives .and ls a →
    t.Is (.operator .and) →
    Derives .equality rs b →
    Derives .and (ls ++ t :: rs) (.binary .and a b)
  | equalityPass {ts e} :
    Derives .relation ts e →
    Derives .equality ts e
  | equal {ls rs t a b} :
    Derives .equality ls a →
    t.Is (.operator .equal) →
    Derives .relation rs b →
    Derives .equality (ls ++ t :: rs) (.binary .equal a b)
  | notEqual {ls rs t a b} :
    Derives .equality ls a →
    t.Is (.operator .notEqual) →
    Derives .relation rs b →
    Derives .equality (ls ++ t :: rs) (.binary .notEqual a b)
  | relationPass {ts e} :
    Derives .unary ts e →
    Derives .relation ts e
  | relation {ls rs t a b r} :
    Derives .relation ls a →
    t.Is (.operator (.relation r)) →
    Derives .unary rs b →
    Derives .relation (ls ++ t :: rs) (.binary (.relation r) a b)
  | unaryPass {ts e} :
    Derives .access ts e →
    Derives .unary ts e
  | not {ts t e} :
    t.Is .not →
    Derives .unary ts e →
    Derives .unary (t :: ts) (.not e)
  | accessPass {ts e} :
    Derives .primary ts e →
    Derives .access ts e
  | property {ts d n e} :
    Derives .access ts e →
    d.Is .dot →
    n.Is .identifier →
    Derives .access (ts ++ [d, n]) (.property e n.text)
  | dotStar {ts d s e} :
    Derives .access ts e →
    d.Is .dot →
    s.Is .star →
    Derives .access (ts ++ [d, s]) (.wildcard e)
  | bracketStar {ts l s r e} :
    Derives .access ts e →
    l.Is .openBracket →
    s.Is .star →
    r.Is .closeBracket →
    Derives .access (ts ++ [l, s, r]) (.wildcard e)
  | index {ts us l r e i} :
    Derives .access ts e →
    l.Is .openBracket →
    Derives .or us i →
    r.Is .closeBracket →
    Derives .access (ts ++ l :: us ++ [r]) (.index e i)
  | string {t} :
    t.Is .string →
    Derives .primary [t] (.literal (.string (String.ofList (unquote t.text.toList))))
  | number {t} :
    t.Is .number →
    Derives .primary [t] (.literal (.real (Double.ofText t.text.toList)))
  | trueWord {t} :
    t.Is .trueWord →
    Derives .primary [t] (.literal (.boolean true))
  | falseWord {t} :
    t.Is .falseWord →
    Derives .primary [t] (.literal (.boolean false))
  | nullWord {t} :
    t.Is .nullWord →
    Derives .primary [t] (.literal .null)
  | callEmpty {n l r} :
    n.Is .identifier →
    l.Is .openParen →
    r.Is .closeParen →
    Derives .primary [n, l, r] (.call n.text [])
  | call {n l r ts ps} :
    n.Is .identifier →
    l.Is .openParen →
    Separated ps ts →
    (∀ p ∈ ps, Derives .or p.1 p.2) →
    r.Is .closeParen →
    Derives .primary (n :: l :: ts ++ [r]) (.call n.text (ps.map Prod.snd))
  | root {n} :
    n.Is .identifier →
    Derives .primary [n] (.root n.text)
  | group {ts l r e} :
    l.Is .openParen →
    Derives .or ts e →
    r.Is .closeParen →
    Derives .primary (l :: ts ++ [r]) e

/-- A listed token is an instance of one terminal at most. -/
lemma ListedToken.Is.unique {t : ListedToken} {k k'} (h : t.Is k) (h' : t.Is k') : k = k' :=
  Option.some.inj (h.symm.trans h')

/-- An expression that a tight level derives is derived by every looser one. -/
lemma Derives.toOr {ts e} (d : Derives .access ts e) : Derives .or ts e :=
  .orPass (.andPass (.equalityPass (.relationPass (.unaryPass d))))

/-- The listing of a token. -/
def Token.listed (t : Token) : ListedToken :=
  ⟨t.terminal.kind, t.text, t.position⟩

/-- A listing shows the text of the token. -/
@[simp]
lemma Token.text_listed (t : Token) : t.listed.text = t.text :=
  rfl

/-- A listing tells the terminal of the token. -/
def Token.Spelt (t : Token) : Prop :=
  t.listed.Is t.terminal

/-- The token of a listing. -/
def ListedToken.token (t : ListedToken) : Token :=
  ⟨t.terminal?.getD .identifier, t.text.toList, t.position⟩

/-- The token of a listing has the terminal that the listing is an instance of. -/
lemma ListedToken.Is.terminal_token {t : ListedToken} {k} (h : t.Is k) : t.token.terminal = k := by
  rw [ListedToken.Is] at h
  rw [ListedToken.token, h]
  rfl

/-- The token of a listing has its text. -/
@[simp]
lemma ListedToken.text_token (t : ListedToken) : t.token.text = t.text :=
  String.ofList_toList

/-- A token is the token of its listing. -/
lemma Token.Spelt.token_listed {t : Token} (h : t.Spelt) : t.listed.token = t := by
  have e : t.listed.terminal? = some t.terminal := h
  rw [ListedToken.token, e]
  simp only [Option.getD_some, Token.listed, Token.text, String.toList_ofList]

/-- Spelt tokens are the tokens of their listing. -/
lemma map_token_listed {ts : List Token} (spelt : ∀ t ∈ ts, t.Spelt) :
    (ts.map Token.listed).map ListedToken.token = ts := by
  rw [List.map_map]
  exact (List.map_congr_left fun t ht => (spelt t ht).token_listed).trans (List.map_id ts)

end WorkflowExpr
