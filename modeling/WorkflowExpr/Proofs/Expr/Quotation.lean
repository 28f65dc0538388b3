import WorkflowExpr.Proofs.Expr.Spelling

/-!
# Texts as string literals

Every text can be written as a string literal with quotes of either kind: with a backslash before each of its
backslashes and each of its quotes of that kind it stands between two quotes as one token, and the literal is
read as that text.
-/

namespace WorkflowExpr

/-- A text with a backslash before each backslash and each quote of one kind. -/
def escaped (q : Char) (cs : List Char) : List Char :=
  cs.flatMap fun c => if c = '\\' ∨ c = q then ['\\', c] else [c]

/-- The string literal that writes a text with quotes of one kind. -/
def literalText (q : Char) (text : String) : String :=
  String.ofList (q :: (escaped q text.toList ++ [q]))

section Escapes

variable {q c : Char} {cs : List Char}

/-- A backslash or quote gets a backslash in front. -/
lemma escaped_special (h : c = '\\' ∨ c = q) : escaped q (c :: cs) = '\\' :: c :: escaped q cs := by
  rw [escaped, List.flatMap_cons, if_pos h]
  rfl

/-- Any other character stays as it is. -/
lemma escaped_plain (h : ¬ (c = '\\' ∨ c = q)) : escaped q (c :: cs) = c :: escaped q cs := by
  rw [escaped, List.flatMap_cons, if_neg h]
  rfl

/-- Without a backslash nothing is an escape. -/
lemma dropEscapes_plain (h : c ≠ '\\') : dropEscapes (c :: cs) = c :: dropEscapes cs := by
  rw [dropEscapes]
  exact fun _ _ e _ => h e

/-- Without its escapes an escaped text is what it was. -/
lemma dropEscapes_escaped (q : Char) (cs : List Char) : dropEscapes (escaped q cs) = cs := by
  induction cs with
  | nil => rfl
  | cons c cs ih =>
    by_cases special : c = '\\' ∨ c = q
    · rw [escaped_special special, dropEscapes, ih]
    · rw [escaped_plain special, dropEscapes_plain (not_or.1 special).1, ih]

/-- An escaped text and a closing quote stand behind an opening one. A backslash never takes a line feed along,
since it is one that was put before another character. -/
lemma quoted_escaped (hq : q ≠ '\n') (cs : List Char) : Lexeme.Quoted q (escaped q cs ++ [q]) := by
  induction cs with
  | nil => exact .quote
  | cons c cs ih =>
    by_cases special : c = '\\' ∨ c = q
    · have line : c ≠ '\n' := by
        rcases special with rfl | rfl
        · exact nofun
        · exact hq
      rw [escaped_special special]
      exact .escape line ih
    · obtain ⟨slash, quote⟩ := not_or.1 special
      rw [escaped_plain special]
      exact .plain quote slash ih

/-- The text in an escaped literal is the text that was escaped. -/
lemma unquote_literal (q : Char) (cs : List Char) : unquote (q :: (escaped q cs ++ [q])) = cs := by
  rw [unquote, List.drop_one, List.tail_cons, List.dropLast_concat, dropEscapes_escaped]

end Escapes

/-- An escaped literal is a string literal. -/
lemma isString_literalText {q : Char} (quote : Lexeme.isQuote q = true) (text : String) :
    Lexeme.IsString (literalText q text).toList := by
  rw [literalText, String.toList_ofList]
  rcases Lexeme.quote_cases quote with rfl | rfl
  · exact .single (quoted_escaped (by decide) text.toList)
  · exact .double (quoted_escaped (by decide) text.toList)

/-- A string literal is scanned as one token. -/
lemma scan_string {cs : List Char} (spelt : Lexeme.IsString cs) :
    scan cs = ⟨[⟨.string, cs, 0⟩], none⟩ := by
  have first := @scanFrom_first 0 cs [] .string (Lexeme.first_string spelt [])
  rwa [List.append_nil, scanFrom_nil] at first

/-- The string literal that writes a text is one token, and it is parsed into the text. -/
theorem parse_literalText (text : String) (q : Char) (quote : Lexeme.isQuote q = true) (limit : Int) :
    tokenize (literalText q text) =
        .ok [⟨.string, literalText q text, 0⟩, ⟨.eof, "", (literalText q text).length⟩] ∧
      parse (literalText q text) limit = .ok ⟨literalText q text, .literal (.string text)⟩ := by
  have spelt := isString_literalText quote text
  have scanned := scan_string spelt
  have bare : (unwrap (literalText q text).toList).1 = (literalText q text).toList := by
    rw [unwrap_eq_self spelt.head fun c hc => (spelt.last c hc).1]
  have token : (Token.mk .string (literalText q text).toList 0).listed = ⟨.string, literalText q text, 0⟩ := by
    rw [Token.listed, Token.text, String.ofList_toList]
    rfl
  constructor
  · rw [tokenize_eq_ok_iff, bare, scanned, List.map_singleton, token, String.length_toList]
    exact ⟨rfl, rfl⟩
  · have value : unquote (literalText q text).toList = text.toList := by
      rw [literalText, String.toList_ofList, unquote_literal]
    have derived : Derives .primary [⟨.string, literalText q text, 0⟩] (.literal (.string text)) := by
      have string := @Derives.string ⟨.string, literalText q text, 0⟩ rfl
      rwa [value, String.ofList_toList] at string
    rw [parse_eq_ok_iff, bare, String.ofList_toList, parseSource_eq_ok_iff, scanned, List.map_singleton, token]
    exact ⟨rfl, ⟨rfl, .toOr (.accessPass derived)⟩, rfl⟩

/-- A text with a quote, a backslash before a line feed, and the braces of a placeholder. -/
theorem parse_literalText_lines :
    Lexeme.isQuote '\'' = true ∧
      literalText '\'' "$\x7b\x7b'\\\n" = "'$\x7b\x7b\\'\\\\\n'" ∧
      tokenize "'$\x7b\x7b\\'\\\\\n'" = .ok [⟨.string, "'$\x7b\x7b\\'\\\\\n'", 0⟩, ⟨.eof, "", 10⟩] ∧
      parse "'$\x7b\x7b\\'\\\\\n'" 1 =
        .ok ⟨"'$\x7b\x7b\\'\\\\\n'", .literal (.string "$\x7b\x7b'\\\n")⟩ := by
  have written : literalText '\'' "$\x7b\x7b'\\\n" = "'$\x7b\x7b\\'\\\\\n'" := by decide +kernel
  have parsed := parse_literalText "$\x7b\x7b'\\\n" '\'' rfl 1
  rw [written] at parsed
  exact ⟨rfl, written, parsed⟩

end WorkflowExpr
