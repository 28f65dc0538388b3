import WorkflowExpr.Proofs.Expr.Writing

/-!
# Precedence and associativity

The text of a writing is parsed into the expression that is written: the listing of its words derives
the expression from the level of its outermost part, and the text is scanned into just these words.
-/

namespace WorkflowExpr

/-- Words as listed tokens, the first behind a number of characters. -/
def listing (position : Nat) : List Word → List ListedToken
  | [] => []
  | w :: ws => ⟨w.terminal.kind, w.text, position⟩ :: listing (position + w.text.length + 1) ws

/-- The number of characters of words, with a space behind each. -/
def width : List Word → Nat
  | [] => 0
  | w :: ws => w.text.length + 1 + width ws

/-- A listing of words is made of the listings of its parts. -/
lemma listing_append (position : Nat) (us vs : List Word) :
    listing position (us ++ vs) = listing position us ++ listing (position + width us) vs := by
  induction us generalizing position with
  | nil => rfl
  | cons w ws ih => simp only [List.cons_append, listing, width, ih, Nat.add_assoc]

/-- A word is listed as an instance of its terminal. -/
lemma Word.is_terminal (w : Word) (position : Nat) :
    (ListedToken.mk w.terminal.kind w.text position).Is w.terminal := by
  have first := w.scanned [] .nil
  rw [List.append_nil] at first
  have spelt : (Token.mk w.terminal w.text.toList position).Spelt := Token.spelt_first position first
  rwa [Token.Spelt, Token.listed, Token.text, String.ofList_toList] at spelt

/-- Levels with one rank are the same. -/
lemma Level.rank_injective {l l' : Level} (h : l.rank = l'.rank) : l = l' := by
  cases l <;> cases l' <;> first | rfl | cases h

/-- The next level in has the next rank, unless nothing is tighter. -/
lemma Level.rank_tighter {l l' : Level} (h : l.rank < l'.rank) : l.tighter.rank = l.rank + 1 := by
  cases l with
  | primary => cases l' <;> exact absurd h (by decide)
  | _ => rfl

namespace Derives

/-- What a tighter level derives is derived by every looser one. -/
lemma weaken {l l' : Level} {ts e} (d : Derives l ts e) (h : l'.rank ≤ l.rank) :
    Derives l' ts e := by
  -- By induction on how many levels lie between the two.
  generalize hn : l.rank - l'.rank = n
  induction n generalizing l' with
  | zero =>
    obtain rfl : l = l' := Level.rank_injective (by omega)
    exact d
  | succ n ih =>
    have next : l'.tighter.rank = l'.rank + 1 := @Level.rank_tighter l' l (by omega)
    exact (ih (by omega) (by omega)).looser

/-- Tokens of any level derive an expression. -/
lemma loosest {l : Level} {ts e} (d : Derives l ts e) : Derives .or ts e :=
  d.weaken (Nat.zero_le _)

end Derives

/-- A list of arguments grows at its front. -/
lemma Separated.cons {p ps ts c} (sep : Separated ps ts) (hc : c.Is .comma) :
    Separated (p :: ps) (p.1 ++ c :: ts) := by
  induction sep with
  | one => exact .more .one hc
  | @more ps p' ts c' _ hc' ih =>
    have longer := @Separated.more _ p' _ _ ih hc'
    rwa [List.append_assoc] at longer

namespace Writing

/-- Words in parentheses derive a primary. -/
lemma derives_enclosed {l : Level} {e : Expr} {ws : List Word}
    (h : ∀ position, Derives l (listing position ws) e) (position : Nat) :
    Derives .primary (listing position (enclosed ws)) e := by
  rw [enclosed, List.cons_append, listing, listing_append]
  exact .group (Word.openParen.is_terminal _) (h _).loosest (Word.closeParen.is_terminal _)

/-- An operand has the level that its place demands. -/
lemma derives_fitted {own : Level} {e : Expr} {ws : List Word} (demanded : Level)
    (h : ∀ position, Derives own (listing position ws) e) (position : Nat) :
    Derives demanded (listing position (fitted demanded own ws)) e := by
  unfold fitted
  split
  · next tight => exact (h position).weaken tight
  · exact (derives_enclosed h position).weaken (by cases demanded <;> decide)

/-- A literal derives a primary. -/
lemma derives_literal (l : Literal) (position : Nat) :
    Derives .primary (listing position [l.word]) (.literal l.value) := by
  have is := l.word.is_terminal position
  cases l with
  | string => exact .string is
  | number => exact .number is
  | boolean b =>
    cases b with
    | true => exact .trueWord is
    | false => exact .falseWord is
  | null => exact .nullWord is

mutual

/-- The words of a writing derive its expression from the level of its outermost part. -/
theorem derives : (w : Writing) → (position : Nat) →
    Derives w.level (listing position w.words) w.expr
  | literal l, position => derives_literal l position
  | root n, position => .root ((Word.name n).is_terminal position)
  | property base n, position => by
    rw [words, listing_append]
    exact .property (derives_fitted .access base.derives position) (Word.dot.is_terminal _)
      ((Word.name n).is_terminal _)
  | index base place, position => by
    rw [words, listing_append, listing_append, listing]
    exact .index (derives_fitted .access base.derives position) (Word.openBracket.is_terminal _)
      (place.derives _).loosest (Word.closeBracket.is_terminal _)
  | wildcard base bracketed, position => by
    rw [words, listing_append]
    cases bracketed with
    | true =>
      exact .bracketStar (derives_fitted .access base.derives position)
        (Word.openBracket.is_terminal _) (Word.star.is_terminal _) (Word.closeBracket.is_terminal _)
    | false =>
      exact .dotStar (derives_fitted .access base.derives position) (Word.dot.is_terminal _)
        (Word.star.is_terminal _)
  | call n [], position =>
    .callEmpty ((Word.name n).is_terminal _) (Word.openParen.is_terminal _)
      (Word.closeParen.is_terminal _)
  | call n (arg :: args), position => by
    rw [words, List.cons_append, List.cons_append, listing, listing, listing_append]
    obtain ⟨ps, sep, each, exprs⟩ := derivesEach (arg :: args) (List.cons_ne_nil arg args) _
    rw [expr, ← exprs]
    exact .call ((Word.name n).is_terminal _) (Word.openParen.is_terminal _) sep each
      (Word.closeParen.is_terminal _)
  | not operand, position => by
    rw [words, listing]
    exact .not (Word.not.is_terminal _) (derives_fitted .unary operand.derives _)
  | binary op left right, position => by
    -- Operators of one level group to the left, so the right operand has to bind tighter.
    rw [words, listing_append, listing]
    exact .binary (derives_fitted op.level left.derives position) ((Word.operator op).is_terminal _)
      (derives_fitted op.level.tighter right.derives _)
  | group inner, position => by
    rw [words, level, expr]
    exact derives_enclosed inner.derives position

/-- The words of arguments derive them between commas. -/
theorem derivesEach : (ws : List Writing) → ws ≠ [] → (position : Nat) →
    ∃ ps, Separated ps (listing position ([.comma].intercalate (wordsEach ws))) ∧
      (∀ p ∈ ps, Derives .or p.1 p.2) ∧ ps.map Prod.snd = exprs ws
  | [w], _, position => by
    rw [wordsEach, wordsEach, List.intercalate_singleton]
    refine ⟨[(listing position w.words, w.expr)], .one, ?_, rfl⟩
    intro p hp
    rw [List.mem_singleton.1 hp]
    exact (w.derives position).loosest
  | w :: w' :: ws, _, position => by
    rw [wordsEach, wordsEach, List.intercalate_cons_cons, ← wordsEach, List.append_assoc,
      listing_append]
    obtain ⟨ps, sep, each, exprs⟩ := derivesEach (w' :: ws) (List.cons_ne_nil w' ws) _
    refine ⟨(listing position w.words, w.expr) :: ps, sep.cons (Word.comma.is_terminal _), ?_, ?_⟩
    · exact List.forall_mem_cons.2 ⟨(w.derives position).loosest, each⟩
    · rw [List.map_cons, exprs]
      rfl

end

mutual

/-- Without its groups a writing has the same expression. -/
lemma expr_bare : (w : Writing) → w.bare.expr = w.expr
  | literal _ => rfl
  | root _ => rfl
  | property base n => congrArg (Expr.property · n.1) base.expr_bare
  | index base position => congrArg₂ Expr.index base.expr_bare position.expr_bare
  | wildcard base _ => congrArg Expr.wildcard base.expr_bare
  | call n args => congrArg (Expr.call n.1) (exprs_bareEach args)
  | not operand => congrArg Expr.not operand.expr_bare
  | binary op left right => congrArg₂ (Expr.binary op) left.expr_bare right.expr_bare
  | group inner => inner.expr_bare

/-- Without their groups writings have the same expressions. -/
lemma exprs_bareEach : (ws : List Writing) → exprs (bareEach ws) = exprs ws
  | [] => rfl
  | w :: ws => congrArg₂ List.cons w.expr_bare (exprs_bareEach ws)

end

end Writing

/-- Words with a space between each two. -/
def spaced (ws : List Word) : List Char :=
  [' '].intercalate (ws.map fun w => w.text.toList)

/-- Spaced words are the first one, a space and the others. -/
lemma spaced_cons_cons (w w' : Word) (ws : List Word) :
    spaced (w :: w' :: ws) = w.text.toList ++ ' ' :: spaced (w' :: ws) := by
  simp only [spaced, List.map_cons, List.intercalate_cons_cons, List.append_assoc,
    List.singleton_append]

/-- One word needs no space. -/
lemma spaced_singleton (w : Word) : spaced [w] = w.text.toList :=
  List.intercalate_singleton

/-- No word is empty. -/
lemma Word.text_ne_nil (w : Word) : w.text.toList ≠ [] :=
  Lexeme.first_ne_nil (w.scanned [] .nil)

/-- Spaced words are no empty text. -/
lemma spaced_ne_nil (w : Word) (ws : List Word) : spaced (w :: ws) ≠ [] := by
  cases ws with
  | nil =>
    rw [spaced_singleton]
    exact w.text_ne_nil
  | cons w' ws =>
    rw [spaced_cons_cons]
    exact List.append_ne_nil_of_left_ne_nil w.text_ne_nil _

/-- Spaced words start with a firm character. -/
lemma firm_head_spaced (ws : List Word) : ∀ c ∈ (spaced ws).head?, Lexeme.Firm c := by
  match ws with
  | [] => nofun
  | [w] =>
    rw [spaced_singleton]
    exact w.head
  | w :: w' :: ws =>
    have head := w.head
    obtain ⟨c, cs, e⟩ := List.exists_cons_of_ne_nil w.text_ne_nil
    rw [spaced_cons_cons, e]
    rwa [e] at head

/-- Spaced words end with a firm character. -/
lemma firm_last_spaced (ws : List Word) : ∀ c ∈ (spaced ws).getLast?, Lexeme.Firm c := by
  induction ws with
  | nil => nofun
  | cons w ws ih =>
    cases ws with
    | nil =>
      rw [spaced_singleton]
      exact w.last
    | cons w' ws =>
      have last := List.getLast?_eq_some_getLast (spaced_ne_nil w' ws)
      rw [spaced_cons_cons, List.getLast?_append, List.getLast?_cons, last, Option.getD_some,
        Option.some_or, ← last]
      exact ih

/-- The text of words is scanned into just these words. -/
lemma scanFrom_spaced (ws : List Word) (position : Nat) :
    (scanFrom position (spaced ws)).stuck = none ∧
      (scanFrom position (spaced ws)).tokens.map Token.listed = listing position ws := by
  induction ws generalizing position with
  | nil =>
    rw [spaced, List.map_nil, List.intercalate_nil, scanFrom_nil]
    exact ⟨rfl, rfl⟩
  | cons w ws ih =>
    have listed : (Token.mk w.terminal w.text.toList position).listed =
        ⟨w.terminal.kind, w.text, position⟩ := by
      rw [Token.listed, Token.text, String.ofList_toList]
    have length : w.text.toList.length = w.text.length := String.length_toList
    cases ws with
    | nil =>
      have first := @scanFrom_first position _ _ _ (w.scanned [] .nil)
      rw [List.append_nil, scanFrom_nil] at first
      rw [spaced_singleton, first, List.map_cons, listed]
      exact ⟨rfl, rfl⟩
    | cons w' ws =>
      have first := @scanFrom_first position _ _ _ (w.scanned _ (.space (spaced (w' :: ws))))
      rw [scanFrom_space rfl, length] at first
      obtain ⟨stuck, tokens⟩ := ih (position + w.text.length + 1)
      rw [spaced_cons_cons, first, List.map_cons, listed, tokens]
      exact ⟨stuck, rfl⟩

/-- The text of a writing is parsed into the expression that is written, with redundant parentheses and
without them. -/
theorem parse_writing (w : Writing) (limit : Int) (h : w.expr.depth ≤ limit) :
    (parse w.bare.text limit).map Parsed.root = .ok w.expr ∧
      (parse w.text limit).map Parsed.root = .ok w.expr := by
  have parsed (w : Writing) (h : w.expr.depth ≤ limit) :
      (parse w.text limit).map Parsed.root = .ok w.expr := by
    have chars : w.text.toList = spaced w.words := by
      rw [Writing.text, String.toList_intercalate, List.map_map]
      rfl
    have unwrapped : (unwrap w.text.toList).1 = spaced w.words := by
      rw [chars, unwrap_eq_self (firm_head_spaced _) fun c hc => (firm_last_spaced _ c hc).1]
    obtain ⟨stuck, tokens⟩ := scanFrom_spaced w.words 0
    have d : Derives .or ((scan (spaced w.words)).tokens.map Token.listed) w.expr := by
      rw [scan, tokens]
      exact (w.derives 0).loosest
    have fits : w.expr.fits limit = true := by
      rw [Expr.fits, Bool.or_eq_true, decide_eq_true_eq]
      exact .inr h
    have whole : parse w.text limit = .ok ⟨String.ofList (spaced w.words), w.expr⟩ :=
      parse_eq_ok_iff.2 (by
        rw [unwrapped]
        exact ⟨rfl, parseSource_eq_ok_iff.2 ⟨stuck, d⟩, fits⟩)
    rw [whole]
    rfl
  refine ⟨?_, parsed w h⟩
  rw [← w.expr_bare] at h ⊢
  exact parsed w.bare h

/-- A letter that may start a name is one. -/
lemma IsName.letter {c : Char} (h : Lexeme.isNameStart c = true) : IsName (String.ofList [c]) where
  spelling := ⟨c, [], String.toList_ofList, h, List.forall_mem_nil _⟩
  noKeyword := by simp [Lexeme.wordTerminal]

/-- The operand of a negation takes parentheses if it is looser, and further ones change nothing. -/
theorem parse_writing_negation :
    (Expr.binary .and (.not (.binary .or (.root "a") (.root "b")))
        (.index (.root "c") (.literal (.boolean true)))).depth ≤ (4 : Int) ∧
      (parse "! ( a || b ) && c [ true ]" 4).map Parsed.root =
        .ok (.binary .and (.not (.binary .or (.root "a") (.root "b")))
          (.index (.root "c") (.literal (.boolean true)))) ∧
      (parse "! ( a || b ) && ( ( c ) [ ( true ) ] )" 4).map Parsed.root =
        .ok (.binary .and (.not (.binary .or (.root "a") (.root "b")))
          (.index (.root "c") (.literal (.boolean true)))) := by
  have fit : (Expr.binary .and (.not (.binary .or (.root "a") (.root "b")))
      (.index (.root "c") (.literal (.boolean true)))).depth ≤ (4 : Int) := by decide
  have written : ∃ w : Writing, w.expr = .binary .and (.not (.binary .or (.root "a") (.root "b")))
        (.index (.root "c") (.literal (.boolean true))) ∧
      w.bare.text = "! ( a || b ) && c [ true ]" ∧
      w.text = "! ( a || b ) && ( ( c ) [ ( true ) ] )" :=
    ⟨.binary .and
      (.not (.binary .or (.root ⟨"a", .letter (c := 'a') rfl⟩) (.root ⟨"b", .letter (c := 'b') rfl⟩)))
      (.group (.index (.group (.root ⟨"c", .letter (c := 'c') rfl⟩)) (.group (.literal (.boolean true))))),
      rfl, by decide +kernel, by decide +kernel⟩
  obtain ⟨w, expr, bare, text⟩ := written
  rw [← expr] at fit
  have parsed := parse_writing w 4 fit
  rw [expr, bare, text] at parsed
  exact ⟨expr ▸ fit, parsed⟩

end WorkflowExpr
