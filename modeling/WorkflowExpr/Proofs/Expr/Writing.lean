import WorkflowExpr.Proofs.Expr.Spelling

/-!
# Written expressions

A writing is an expression with the spelling of each of its literals and with any number of redundant
parentheses. Its words are laid out with a space between each two of them, and with the parentheses that
precedence demands: a left operand may be of the level of its operator, a right one has to be tighter,
and an index or an argument stands free.
-/

namespace WorkflowExpr

/-- A text that is scanned as one token of a terminal in front of spacing, and that trimming and
unwrapping leave alone. -/
structure Word where
  terminal : Terminal
  text : String
  scanned : ∀ rest, Lexeme.Ends rest →
    Lexeme.first? (text.toList ++ rest) = some (terminal, text.toList)
  head : ∀ c ∈ text.toList.head?, Lexeme.Firm c
  last : ∀ c ∈ text.toList.getLast?, Lexeme.Firm c

namespace Word

/-- A text of firm characters that is scanned as one token. -/
def ofFirm (terminal : Terminal) (text : String)
    (scanned : ∀ rest, Lexeme.Ends rest →
      Lexeme.first? (text.toList ++ rest) = some (terminal, text.toList))
    (firm : ∀ c ∈ text.toList, Lexeme.Firm c) : Word where
  terminal
  text
  scanned
  head c hc := firm c (List.mem_of_head? hc)
  last c hc := firm c (List.mem_of_getLast? hc)

/-- An identifier. -/
def name (n : Name) : Word :=
  .ofFirm .identifier n.1 (fun _ hr => Lexeme.first_name n.2 (hr.head (by decide)))
    fun c hc => Lexeme.firm_nameChar (n.2.chars c hc)

/-- One of the words that are no identifiers. -/
def keyword (terminal : Terminal) (text : String)
    (h : ∃ c cs, text.toList = c :: cs ∧ Lexeme.isNameStart c = true ∧
      (∀ d ∈ cs, Lexeme.isNameChar d = true) ∧ Lexeme.wordTerminal (c :: cs) = terminal) : Word :=
  .ofFirm terminal text
    (fun rest hr => by
      obtain ⟨c, cs, e, hc, hcs, rfl⟩ := h
      rw [e]
      exact Lexeme.first_word hc hcs (hr.head (by decide)))
    (by
      obtain ⟨c, cs, e, hc, hcs, -⟩ := h
      rw [e]
      exact List.forall_mem_cons.2 ⟨Lexeme.firm_nameChar (Lexeme.isNameChar_of_start hc),
        fun d hd => Lexeme.firm_nameChar (hcs d hd)⟩)

/-- A symbol. -/
def symbol (terminal : Terminal) (text : String)
    (h : Lexeme.symbol? text.toList = some (terminal, text.toList)) : Word :=
  .ofFirm terminal text (fun _ hr => Lexeme.first_symbol_append h hr) (Lexeme.symbol_firm h)

/-- The symbol of an operator. -/
def operator (op : Operator) : Word :=
  .symbol (.operator op) op.symbol (Lexeme.symbol_operator op)

/-- The symbol of a negation. -/
def not : Word :=
  .symbol .not "!" rfl

/-- The point before a member. -/
def dot : Word :=
  .symbol .dot "." rfl

/-- The star. -/
def star : Word :=
  .symbol .star "*" rfl

/-- The comma between arguments. -/
def comma : Word :=
  .symbol .comma "," rfl

/-- The parenthesis that opens. -/
def openParen : Word :=
  .symbol .openParen "(" rfl

/-- The parenthesis that closes. -/
def closeParen : Word :=
  .symbol .closeParen ")" rfl

/-- The bracket that opens. -/
def openBracket : Word :=
  .symbol .openBracket "[" rfl

/-- The bracket that closes. -/
def closeBracket : Word :=
  .symbol .closeBracket "]" rfl

end Word

/-- A literal as it is written: a string literal, a number, or one of the three keywords. -/
inductive Literal where
  | string (text : String) (spelt : Lexeme.IsString text.toList)
  | number (text : String) (spelt : Lexeme.IsNumber text.toList)
  | boolean (b : Bool)
  | null

namespace Literal

/-- The value that a literal writes. -/
def value : Literal → Value
  | string text _ => .string (String.ofList (unquote text.toList))
  | number text _ => .real (Double.ofText text.toList)
  | boolean b => .boolean b
  | null => .null

/-- The word of a literal. -/
def word : Literal → Word
  | string text spelt =>
    { terminal := .string
      text
      scanned := fun rest _ => Lexeme.first_string spelt rest
      head := spelt.head
      last := spelt.last }
  | number text spelt =>
    .ofFirm .number text (fun _ hr => Lexeme.first_number spelt hr) spelt.firm
  | boolean true => .keyword .trueWord "true" ⟨'t', ['r', 'u', 'e'], rfl, rfl, List.all_eq_true.1 rfl, rfl⟩
  | boolean false => .keyword .falseWord "false" ⟨'f', ['a', 'l', 's', 'e'], rfl, rfl, List.all_eq_true.1 rfl, rfl⟩
  | null => .keyword .nullWord "null" ⟨'n', ['u', 'l', 'l'], rfl, rfl, List.all_eq_true.1 rfl, rfl⟩

end Literal

/-- The place of a level in the order from the loosest to the tightest. -/
def Level.rank : Level → Nat
  | or => 0
  | and => 1
  | equality => 2
  | relation => 3
  | unary => 4
  | access => 5
  | primary => 6

/-- An expression as it is written: each literal as it is spelt, each name an identifier, a star behind a
point or in brackets, and a pair of redundant parentheses around any part. -/
inductive Writing where
  | literal (l : Literal)
  | root (n : Name)
  | property (base : Writing) (n : Name)
  | index (base : Writing) (position : Writing)
  | wildcard (base : Writing) (bracketed : Bool)
  | call (n : Name) (args : List Writing)
  | not (operand : Writing)
  | binary (op : Operator) (left right : Writing)
  | group (inner : Writing)

namespace Writing

mutual

/-- The expression that is written. -/
def expr : Writing → Expr
  | literal l => .literal l.value
  | root n => .root n.1
  | property base n => .property base.expr n.1
  | index base position => .index base.expr position.expr
  | wildcard base _ => .wildcard base.expr
  | call n args => .call n.1 (exprs args)
  | not operand => .not operand.expr
  | binary op left right => .binary op left.expr right.expr
  | group inner => inner.expr

/-- The expressions that are written. -/
def exprs : List Writing → List Expr
  | [] => []
  | w :: ws => w.expr :: exprs ws

end

mutual

/-- The same expression without redundant parentheses. -/
def bare : Writing → Writing
  | literal l => literal l
  | root n => root n
  | property base n => property base.bare n
  | index base position => index base.bare position.bare
  | wildcard base bracketed => wildcard base.bare bracketed
  | call n args => call n (bareEach args)
  | not operand => not operand.bare
  | binary op left right => binary op left.bare right.bare
  | group inner => inner.bare

/-- The same expressions without redundant parentheses. -/
def bareEach : List Writing → List Writing
  | [] => []
  | w :: ws => w.bare :: bareEach ws

end

/-- The level of the outermost part. -/
def level : Writing → Level
  | literal _ => .primary
  | root _ => .primary
  | property _ _ => .access
  | index _ _ => .access
  | wildcard _ _ => .access
  | call _ _ => .primary
  | not _ => .unary
  | binary op _ _ => op.level
  | group _ => .primary

/-- Words in parentheses. -/
def enclosed (ws : List Word) : List Word :=
  .openParen :: ws ++ [.closeParen]

/-- The words of an operand, in parentheses if it is looser than its place demands. -/
def fitted (demanded own : Level) (ws : List Word) : List Word :=
  if demanded.rank ≤ own.rank then ws else enclosed ws

mutual

/-- The words of a writing. -/
def words : Writing → List Word
  | literal l => [l.word]
  | root n => [.name n]
  | property base n => fitted .access base.level base.words ++ [.dot, .name n]
  | index base position =>
    fitted .access base.level base.words ++ .openBracket :: position.words ++ [.closeBracket]
  | wildcard base bracketed =>
    fitted .access base.level base.words ++
      if bracketed then [.openBracket, .star, .closeBracket] else [.dot, .star]
  | call n args => .name n :: .openParen :: [.comma].intercalate (wordsEach args) ++ [.closeParen]
  | not operand => .not :: fitted .unary operand.level operand.words
  | binary op left right =>
    fitted op.level left.level left.words ++
      .operator op :: fitted op.level.tighter right.level right.words
  | group inner => enclosed inner.words

/-- The words of each of some writings. -/
def wordsEach : List Writing → List (List Word)
  | [] => []
  | w :: ws => w.words :: wordsEach ws

end

/-- The text of a writing: its words with a space between each two. -/
def text (w : Writing) : String :=
  String.intercalate " " (w.words.map Word.text)

end Writing

end WorkflowExpr
