import WorkflowExpr.Proofs.Expr.Spelling
import WorkflowExpr.Proofs.Template.Closing

/-!
# String literals in templates

The search for the end of a placeholder skips string literals, and an expression is scanned for them as
tokens. Both know the same literals up to one difference: only the former lets a backslash take a line
feed along.
-/

namespace WorkflowExpr

open Lexeme

/-- Whether a backslash takes a line feed along. -/
def joinsLines : List Char → Bool
  | '\\' :: c :: rest => c == '\n' || joinsLines rest
  | _ :: rest => joinsLines rest
  | [] => false

/-- A character that is no backslash takes nothing along. -/
lemma joinsLines_cons {c : Char} {rest : List Char} (h : c ≠ '\\') :
    joinsLines (c :: rest) = joinsLines rest := by
  rw [joinsLines]
  exact fun _ _ e _ => h e

/-- Among the literals that the search skips, those without a joined line are the tokens. -/
lemma afterQuote_filter {q : Char} (hq : q ≠ '\\') (cs : List Char) :
    afterQuote? false q cs = (afterQuote? true q cs).filter fun body => !joinsLines body := by
  fun_induction afterQuote? true q cs with
  | case1 => rfl
  | case2 => rfl
  | case3 c rest line => cases line.2
  | case4 c rest _ ih =>
    rw [afterQuote?, Option.filter_map]
    -- A line feed behind a backslash is refused in a token, and skipped by the search.
    by_cases line : c = '\n'
    · subst line
      rw [if_pos ⟨rfl, rfl⟩, eq_comm, Option.map_eq_none_iff, Option.filter_eq_none_iff]
      exact fun body _ => Bool.false_ne_true
    · have same : (fun body => !joinsLines body) =
          (fun body => !joinsLines body) ∘ fun body => '\\' :: c :: body := by
        funext body
        rw [Function.comp_apply, joinsLines, beq_false_of_ne line, Bool.false_or]
      rw [if_neg fun h => line h.1, ih, ← same]
  | case5 rest =>
    rw [afterQuote_cons hq, if_pos rfl, Option.filter_some_pos]
    rw [joinsLines_cons hq]
    rfl
  | case6 c rest alone escaping other ih =>
    have plain : c ≠ '\\' := ne_backslash alone escaping
    have same : (fun body => !joinsLines body) =
        (fun body => !joinsLines body) ∘ fun body => c :: body := by
      funext body
      rw [Function.comp_apply, joinsLines_cons plain]
    rw [afterQuote_cons plain, if_neg other, ih, Option.filter_map, ← same]

/-- A quote is no backslash. -/
lemma quote_ne_backslash {q : Char} (h : isQuote q = true) : q ≠ '\\' := by
  rintro rfl
  cases h

/-- The lexer finds the literals that are skipped, but for those that join lines. -/
lemma string_filter (cs : List Char) :
    string? false cs = (string? true cs).filter fun l => !joinsLines l := by
  unfold string?
  split
  · next q rest =>
    split
    · next quote =>
      have plain := quote_ne_backslash quote
      have same : (fun l => !joinsLines l) = (fun l => !joinsLines l) ∘ fun body => q :: body := by
        funext body
        rw [Function.comp_apply, joinsLines_cons plain]
      rw [afterQuote_filter plain, Option.filter_map, ← same]
    · rfl
  · rfl

/-- The search for the end of a placeholder goes on behind a string literal, and where none ends it takes
the next braces. -/
lemma closing_string {q : Char} (rest : List Char) (h : isQuote q = true) :
    closing? (q :: rest) = match string? true (q :: rest) with
      | some l => (closing? ((q :: rest).drop l.length)).map (· + l.length)
      | none => firstClosing? (q :: rest) := by
  rw [string?, if_pos h]
  cases literal : afterQuote? true q rest with
  | some body => exact closing_quote h literal
  | none =>
    rw [closing?, if_pos h]
    · simp only [literal]
      rfl
    · rintro _ rfl _
      cases h

/-- A text starts with a token exactly if that is scanned first. -/
lemma scanFrom_first_iff {position : Nat} {c : Char} {cs l : List Char} {k : Terminal}
    (h : isSpace c = false) :
    (∃ ts, (scanFrom position (c :: cs)).tokens = ⟨k, l, position⟩ :: ts) ↔
      first? (c :: cs) = some (k, l) := by
  cases hf : first? (c :: cs) with
  | none =>
    rw [scanFrom_stuck h hf]
    refine ⟨?_, nofun⟩
    rintro ⟨_, ⟨⟩⟩
  | some first =>
    obtain ⟨k', l'⟩ := first
    rw [scanFrom_token h hf]
    constructor
    · rintro ⟨_, ⟨⟩⟩
      rfl
    · rintro ⟨⟩
      exact ⟨_, rfl⟩

/-- At a quote the search for the end of a placeholder skips a string literal exactly if one is scanned
there, of the same length, unless a backslash takes a line feed along in it. -/
theorem skipped_iff_scanned (cs : List Char) (i : Nat) (q : Char) (here : cs[i]? = some q)
    (quote : isQuote q = true) :
    (closing? (cs.drop i) = match string? true (cs.drop i) with
      | some l => (closing? (cs.drop (i + l.length))).map (· + l.length)
      | none => firstClosing? (cs.drop i)) ∧
    ∀ l, (string? true (cs.drop i) = some l ∧ joinsLines l = false) ↔
      ∃ ts, (scanFrom i (cs.drop i)).tokens = ⟨.string, l, i⟩ :: ts := by
  obtain ⟨rest, behind⟩ := List.head?_eq_some_iff.1 (List.head?_drop.trans here)
  have space : isSpace q = false := by
    rcases quote_cases quote with rfl | rfl <;> rfl
  constructor
  · have search := closing_string rest quote
    rw [← behind] at search
    simpa only [List.drop_drop] using search
  · intro l
    rw [behind, scanFrom_first_iff space, first_quote quote, string_filter]
    simp only [Option.map_eq_some_iff, Option.filter_eq_some_iff, Bool.not_eq_true', Prod.mk.injEq,
      true_and, exists_eq_right]

/-- Braces inside a literal that is scanned do not end a placeholder. -/
theorem skipped_iff_scanned_braces :
    "'\x7d\x7d' \x7d\x7d".toList[0]? = some '\'' ∧ isQuote '\'' = true ∧
      closing? "'\x7d\x7d' \x7d\x7d".toList = some 7 ∧
      ∃ ts, (scanFrom 0 "'\x7d\x7d' \x7d\x7d".toList).tokens = ⟨.string, "'\x7d\x7d'".toList, 0⟩ :: ts := by
  obtain ⟨search, token⟩ := skipped_iff_scanned "'\x7d\x7d' \x7d\x7d".toList 0 '\'' rfl rfl
  have literal : string? true "'\x7d\x7d' \x7d\x7d".toList = some "'\x7d\x7d'".toList := rfl
  have behind : closing? " \x7d\x7d".toList = some 3 := by decide +kernel
  rw [List.drop_zero, literal] at search
  refine ⟨rfl, rfl, search.trans ?_, (token _).1 ⟨literal, rfl⟩⟩
  exact congrArg (Option.map (· + 4)) behind

/-- A literal in which a backslash takes a line feed along is skipped, and no token is scanned there. -/
theorem skipped_joined_line :
    string? true "'\\\n'".toList = some "'\\\n'".toList ∧
      closing? "'\\\n'\x7d\x7d".toList = some 6 ∧
      (scanFrom 0 "'\\\n'".toList).tokens = [] ∧
      tokenize "'\\\n'" = .error ⟨.unterminatedString, "'\\\n'", 0⟩ := by
  refine ⟨rfl, by decide +kernel, by decide +kernel, ?_⟩
  exact tokenize_eq_error_iff.2 ⟨"'\\\n'".toList, by decide +kernel, by decide +kernel⟩

end WorkflowExpr
