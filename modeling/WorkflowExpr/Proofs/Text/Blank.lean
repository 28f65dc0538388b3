import Mathlib.Tactic.Lemma
import WorkflowExpr.Expr.Scan

/-!
# Trimming

What trimming leaves alone, and what unwrapping gives for a text with braces around it.
-/

namespace WorkflowExpr

namespace Text

/-- Nothing is dropped from a text that does not start with a blank. -/
lemma dropWhile_isBlank {cs : List Char} (h : ∀ c ∈ cs.head?, isBlank c = false) :
    cs.dropWhile isBlank = cs := by
  cases cs with
  | nil => rfl
  | cons c cs => rw [List.dropWhile_cons_of_neg (by simp [h c rfl])]

/-- A text without a blank at either end is trimmed already. -/
lemma trim_eq_self {cs : List Char} (h : ∀ c ∈ cs.head?, isBlank c = false)
    (h' : ∀ c ∈ cs.getLast?, isBlank c = false) : trim cs = cs := by
  have start : trimStart cs = cs := dropWhile_isBlank h
  have last : cs.reverse.dropWhile isBlank = cs.reverse :=
    dropWhile_isBlank (by rwa [List.head?_reverse])
  rw [trim, start, trimEnd, last, List.reverse_reverse]

/-- Trimming takes blanks off the two ends. -/
lemma exists_trim (cs : List Char) :
    ∃ before after, cs = before ++ trim cs ++ after ∧ (∀ c ∈ before, isBlank c = true) ∧
      ∀ c ∈ after, isBlank c = true := by
  let rest := cs.dropWhile isBlank
  refine ⟨cs.takeWhile isBlank, (rest.reverse.takeWhile isBlank).reverse, ?_, ?_, ?_⟩
  · have last : trim cs ++ (rest.reverse.takeWhile isBlank).reverse = rest := by
      change (rest.reverse.dropWhile isBlank).reverse ++ (rest.reverse.takeWhile isBlank).reverse = rest
      rw [← List.reverse_append, List.takeWhile_append_dropWhile, List.reverse_reverse]
    rw [List.append_assoc, last, List.takeWhile_append_dropWhile]
  · exact List.all_eq_true.1 List.all_takeWhile
  · intro c hc
    exact List.all_eq_true.1 List.all_takeWhile c (List.mem_reverse.1 hc)

/-- A trimmed text does not start with a blank. -/
lemma head_trim (cs : List Char) : ∀ c ∈ (trim cs).head?, isBlank c = false := by
  intro c hc
  have front : trim cs <+: cs.dropWhile isBlank := by
    have back := List.dropWhile_suffix isBlank (l := (cs.dropWhile isBlank).reverse)
    rwa [← List.reverse_prefix, List.reverse_reverse] at back
  obtain ⟨ds, e⟩ := List.head?_eq_some_iff.1 hc
  obtain ⟨rest, whole⟩ := front
  have none := List.head?_dropWhile_not isBlank cs
  rw [← whole, e] at none
  exact none

/-- The rows of code points in which the blanks stand. -/
def blankRows : List (Nat × Nat) :=
  [(0x9, 0xD), (0x1C, 0x20), (0x85, 0x85), (0xA0, 0xA0), (0x1680, 0x1680), (0x2000, 0x200A),
    (0x2028, 0x2029), (0x202F, 0x202F), (0x205F, 0x205F), (0x3000, 0x3000)]

/-- A blank stands in one of the rows. -/
lemma exists_blankRow {c : Char} (h : isBlank c = true) :
    ∃ row ∈ blankRows, row.1 ≤ c.toNat ∧ c.toNat ≤ row.2 := by
  simp only [isBlank, Bool.or_eq_true, Bool.and_eq_true, decide_eq_true_eq, beq_iff_eq] at h
  simp only [blankRows, List.mem_cons, List.not_mem_nil, or_false, exists_eq_or_imp, exists_eq_left]
  omega

/-- A digit belongs to one of the zeros. -/
lemma exists_zero {c : Char} (h : isDigit c = true) : ∃ z ∈ zeros, z ≤ c.toNat ∧ c.toNat < z + 10 := by
  obtain ⟨n, hn⟩ := Option.isSome_iff_exists.1 h
  obtain ⟨z, hz, hc⟩ := List.exists_of_findSome?_eq_some hn
  by_cases row : z ≤ c.toNat ∧ c.toNat < z + 10
  · exact ⟨z, hz, row⟩
  · rw [if_neg row] at hc
    cases hc

/-- The digits of no script are blank. -/
lemma not_isBlank_digit {c : Char} (h : isDigit c = true) : isBlank c = false := by
  have apart : ∀ z ∈ zeros, ∀ row ∈ blankRows, row.2 < z ∨ z + 10 ≤ row.1 := by decide
  rw [Bool.eq_false_iff]
  intro blank
  obtain ⟨z, hz, digit⟩ := exists_zero h
  obtain ⟨row, hrow, between⟩ := exists_blankRow blank
  have := apart z hz row hrow
  omega

end Text

/-- A text that neither starts nor ends with a blank, and does not start with a dollar sign, has no
braces around it. -/
lemma unwrap_eq_self {cs : List Char} (h : ∀ c ∈ cs.head?, Text.isBlank c = false ∧ c ≠ '$')
    (h' : ∀ c ∈ cs.getLast?, Text.isBlank c = false) : unwrap cs = (cs, false) := by
  have trimmed : Text.trim cs = cs := Text.trim_eq_self (fun c hc => (h c hc).1) h'
  have plain : ['$', '\x7b', '\x7b'].isPrefixOf cs = false := by
    cases cs with
    | nil => rfl
    | cons c cs =>
      have dollar : ('$' == c) = false := beq_eq_false_iff_ne.2 (h c rfl).2.symm
      rw [List.isPrefixOf, dollar, Bool.false_and]
  rw [unwrap, trimmed, plain]
  rfl

/-- Unwrapping trims a text that has no braces around it. -/
lemma unwrap_eq_trim {cs : List Char} (h : (unwrap cs).2 = false) : (unwrap cs).1 = Text.trim cs := by
  unfold unwrap at h ⊢
  dsimp only at h ⊢
  split at h
  · cases h
  · next plain => rw [if_neg plain]

/-- An unwrapped text does not start with a blank. -/
lemma head_unwrap (cs : List Char) : ∀ c ∈ (unwrap cs).1.head?, Text.isBlank c = false := by
  unfold unwrap
  dsimp only
  split
  · exact Text.head_trim _
  · exact Text.head_trim _

/-- Unwrapping takes the braces off and trims what stands between them. -/
lemma unwrap_placeholder (cs : List Char) :
    unwrap (['$', '\x7b', '\x7b'] ++ cs ++ ['\x7d', '\x7d']) = (Text.trim cs, true) := by
  have trimmed : Text.trim (['$', '\x7b', '\x7b'] ++ cs ++ ['\x7d', '\x7d']) =
      ['$', '\x7b', '\x7b'] ++ cs ++ ['\x7d', '\x7d'] := by
    apply Text.trim_eq_self
    · intro c hc
      obtain rfl : '$' = c := Option.some.inj hc
      decide
    · intro c hc
      rw [List.getLast?_append] at hc
      obtain rfl : '\x7d' = c := Option.some.inj hc
      decide
  have suffix : ['\x7d', '\x7d'].isSuffixOf (['$', '\x7b', '\x7b'] ++ cs ++ ['\x7d', '\x7d']) = true :=
    List.isSuffixOf_iff_suffix.2 (List.suffix_append ..)
  have inner : (((['$', '\x7b', '\x7b'] ++ cs ++ ['\x7d', '\x7d']).drop 3).take
      ((['$', '\x7b', '\x7b'] ++ cs ++ ['\x7d', '\x7d']).length - 5)) = cs := by
    have length : (['$', '\x7b', '\x7b'] ++ cs ++ ['\x7d', '\x7d']).length - 5 = cs.length := by
      simp only [List.length_append, List.length_cons, List.length_nil]
      omega
    rw [length]
    exact List.take_left
  rw [unwrap, trimmed, suffix, inner]
  rfl

end WorkflowExpr
