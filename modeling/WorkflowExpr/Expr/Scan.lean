import WorkflowExpr.Expr.Lexeme
import WorkflowExpr.Text.Blank

/-!
# Scanning

Scanning cuts a text into tokens from left to right, skipping the spacing between them, and stops at
the end of the text or at the first place where no token matches. Everything before that place is
spacing and tokens.
-/

namespace WorkflowExpr

/-- What scanning a text gives: the tokens, and how much of the text was left where no token
matched. -/
structure Scan where
  tokens : List Token
  stuck : Option (List Char)

/-- Scans a text that has `position` characters before it. -/
def scanFrom (position : Nat) (cs : List Char) : Scan :=
  match cs with
  | [] => ⟨[], none⟩
  | c :: rest =>
    if Lexeme.isSpace c then scanFrom (position + 1) rest
    else
      match _h : Lexeme.first? (c :: rest) with
      | none => ⟨[], some (c :: rest)⟩
      | some (terminal, chars) =>
        let scan := scanFrom (position + chars.length) ((c :: rest).drop chars.length)
        ⟨⟨terminal, chars, position⟩ :: scan.tokens, scan.stuck⟩
termination_by cs.length
decreasing_by
  · simp
  · have := List.length_pos_iff.2 (Lexeme.first_ne_nil _h)
    simp only [List.length_drop, List.length_cons]
    omega

/-- Scans a whole text. -/
def scan (cs : List Char) : Scan :=
  scanFrom 0 cs

/-- The text inside a placeholder, trimmed, and whether the given text was a placeholder. -/
def unwrap (cs : List Char) : List Char × Bool :=
  let stripped := Text.trim cs
  if ['$', '\x7b', '\x7b'].isPrefixOf stripped && ['\x7d', '\x7d'].isSuffixOf stripped then
    (Text.trim ((stripped.drop 3).take (stripped.length - 5)), true)
  else (stripped, false)

end WorkflowExpr
