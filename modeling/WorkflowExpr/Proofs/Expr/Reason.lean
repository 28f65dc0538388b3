import Mathlib.Tactic.Lemma
import WorkflowExpr.Expr.Parser

/-!
# What reasons tell

The wording of a reason tells what it is about, and which token, so that a reason can be recognised by its
wording. Only the reason for a refused token is about a token.
-/

namespace WorkflowExpr

namespace SyntaxReason

/-- A character that tells what a reason is about: the twelfth one of its wording. -/
def mark : SyntaxReason → Char
  | emptyExpression => 's'
  | unterminatedString => 'd'
  | unexpectedCharacter _ => 'c'
  | unexpectedToken _ => 't'
  | unmatchedClosing _ => 'l'
  | missingClosing _ => 's'
  | unexpectedEnd => 'e'
  | tooDeep _ => 'i'

section Wording

variable {lead tail : String} {r : SyntaxReason} {token : String}

/-- The start of a wording does not depend on what is quoted in it. -/
lemma lead_getElem {i : Nat} (h : i < lead.toList.length) :
    (lead ++ token ++ tail).toList[i]? = lead.toList[i]? := by
  rw [String.toList_append, String.toList_append, List.append_assoc, List.getElem?_append_left h]

/-- The twelfth character of the wording of a reason is its mark. -/
lemma text_mark (r : SyntaxReason) : r.text.toList[11]? = some r.mark := by
  cases r with
  | emptyExpression | unterminatedString | unexpectedEnd => rfl
  | _ => exact lead_getElem (by decide)

/-- Wordings that are the same quote the same token. -/
lemma quoted_inj {token' : String} (h : lead ++ token ++ tail = lead ++ token' ++ tail) : token = token' :=
  (String.append_right_inj _).1 ((String.append_left_inj _).1 h)

/-- The wording tells an unterminated string. -/
lemma eq_unterminatedString (h : r.text = "Unterminated string literal") : r = .unterminatedString := by
  have mark := r.text_mark
  rw [h] at mark
  cases r with
  | unterminatedString => rfl
  | _ => cases mark

/-- The wording tells an unmatched bracket and which one it is. -/
lemma eq_unmatchedClosing (h : r.text = "Unmatched closing '" ++ token ++ "'") :
    r = .unmatchedClosing token := by
  have mark := r.text_mark
  rw [h, lead_getElem (by decide)] at mark
  cases r with
  | unmatchedClosing => rw [quoted_inj h]
  | _ => cases mark

/-- The wording tells an unexpected token and which one it is. -/
lemma eq_unexpectedToken (h : r.text = "Unexpected token '" ++ token ++ "'") : r = .unexpectedToken token := by
  have mark := r.text_mark
  rw [h, lead_getElem (by decide)] at mark
  cases r with
  | unexpectedToken => rw [quoted_inj h]
  | _ => cases mark

end Wording

/-- The token that a reason is about. -/
def token? : SyntaxReason → Option String
  | unexpectedToken token => some token
  | unmatchedClosing token => some token
  | _ => none

end SyntaxReason

/-- The reason for which a token is refused is about that token. -/
lemma refusedReason_token (t : Token) : (refusedReason t).token? = some t.text := by
  rw [refusedReason]
  split
  · rfl
  · rfl

/-- The reason for which a text is stuck is about no token. -/
lemma stuckReason_token (rest : List Char) : (stuckReason rest).token? = none := by
  cases rest with
  | nil => rfl
  | cons =>
    rw [stuckReason]
    split
    · rfl
    · rfl

/-- The reason at the end of a text is about no token. -/
lemma endReason_token (s : ParseState) : (endReason s).token? = none := by
  rw [endReason]
  split
  · rfl
  · rfl

/-- The reason at the place where scanning is stuck names a string literal exactly at a quote. -/
lemma stuckReason_text_iff (rest : List Char) :
    (stuckReason rest).text = "Unterminated string literal" ↔
      ∃ q, rest.head? = some q ∧ Lexeme.isQuote q = true := by
  cases rest with
  | nil =>
    refine ⟨fun h => absurd h (by decide), ?_⟩
    rintro ⟨_, ⟨⟩, _⟩
  | cons c ds =>
    cases hc : Lexeme.isQuote c with
    | true =>
      rw [stuckReason, if_pos hc]
      exact ⟨fun _ => ⟨c, rfl, hc⟩, fun _ => rfl⟩
    | false =>
      rw [stuckReason, if_neg (Bool.eq_false_iff.1 hc)]
      constructor
      · intro h
        cases SyntaxReason.eq_unterminatedString h
      · rintro ⟨_, ⟨⟩, quote⟩
        cases hc.symm.trans quote

end WorkflowExpr
