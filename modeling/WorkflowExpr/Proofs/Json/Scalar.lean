import WorkflowExpr.Json.Reader
import WorkflowExpr.Json.Writer
import WorkflowExpr.Proofs.Number.Shortest

/-!
# Reading written scalars

The reader takes a quoted string, a written decimal and each of the three words back from the start of a
text, and leaves what stands behind it.
-/

namespace WorkflowExpr.Json

section Strings

variable {cs : List Char}

/-- The digits that escape a control character are read back as its number. -/
lemma unit_digitChar :
    ∀ n < 0x20, unit? '0' '0' (Nat.digitChar (n / 16)) (Nat.digitChar (n % 16)) = some n := by
  decide +kernel

/-- The escape of a control character is read back as that character. -/
lemma readUnit_control {c : Char} (h : c.toNat < 0x20) (hcs : cs ≠ []) :
    readUnit ('0' :: '0' :: Nat.digitChar (c.toNat / 16) :: Nat.digitChar (c.toNat % 16) :: cs) =
      .ok (c, 4) := by
  obtain ⟨next, rest, rfl⟩ := List.exists_cons_of_ne_nil hcs
  have single : isHighHalf c.toNat = false := by
    rw [isHighHalf, decide_eq_false (by omega), Bool.false_and]
  have char : charOfUnit c.toNat = c := by
    rw [charOfUnit, if_neg (by omega), Char.ofNat_toNat]
  rw [readUnit, unit_digitChar _ h]
  simp only [single, char]

/-- A backslash and its letter are read as the character that the letter is for. -/
lemma readString_letter (opened : Nat) (taken : List Char) {letter c : Char}
    (h : unescape? letter = some c) :
    readString opened taken ('\\' :: letter :: cs) = readString opened (c :: taken) cs := by
  have letter_ne : letter ≠ 'u' := by
    rintro rfl
    cases h
  rw [readString, h]
  exact letter_ne

/-- An escaped character is read back. A text that ends behind an escape with digits is refused, so that
something has to stand behind the character. -/
lemma readString_escape (opened : Nat) (taken : List Char) (c : Char) (hcs : cs ≠ []) :
    readString opened taken (escape c ++ cs) = readString opened (c :: taken) cs := by
  unfold escape
  split_ifs with quote backslash newline feed tab backspace page control
  · subst quote
    exact readString_letter opened taken rfl
  · subst backslash
    exact readString_letter opened taken rfl
  · subst newline
    exact readString_letter opened taken rfl
  · subst feed
    exact readString_letter opened taken rfl
  · subst tab
    exact readString_letter opened taken rfl
  · subst backspace
    exact readString_letter opened taken rfl
  · subst page
    exact readString_letter opened taken rfl
  · simp only [List.cons_append, List.nil_append]
    rw [readString, readUnit_control control hcs]
    rfl
  · rw [List.singleton_append, readString]
    · exact if_neg control
    · exact quote
    · exact fun h => absurd h backslash
    · exact fun _ h => absurd h backslash
    · exact fun _ _ h => absurd h backslash

/-- Escaped characters are read back up to the quote behind them. -/
lemma readString_escaped (opened : Nat) (taken s rest : List Char) :
    readString opened taken (s.flatMap escape ++ '"' :: rest) = .ok (taken.reverse ++ s, rest) := by
  induction s generalizing taken with
  | nil =>
    rw [List.flatMap_nil, List.nil_append, readString, List.append_nil]
  | cons c s ih =>
    have behind : s.flatMap escape ++ '"' :: rest ≠ [] := by simp
    rw [List.flatMap_cons, List.append_assoc, readString_escape _ _ _ behind, ih, List.reverse_cons,
      List.append_assoc, List.singleton_append]

end Strings

section Numbers

/-- The sign at the start of a number. -/
def takeMinus : List Char → List Char × List Char
  | '-' :: rest => (['-'], rest)
  | rest => ([], rest)

/-- The whole part at the start of a number: a single zero or all the digits. -/
def takeWhole? : List Char → Option (List Char × List Char)
  | '0' :: rest => some (['0'], rest)
  | rest => if rest.takeWhile Char.isDigit = [] then none
    else some (rest.takeWhile Char.isDigit, rest.dropWhile Char.isDigit)

/-- The fraction behind the whole part. -/
def takeFraction (cs : List Char) : List Char × List Char :=
  match cs with
  | '.' :: rest => if rest.takeWhile Char.isDigit = [] then ([], cs)
    else ('.' :: rest.takeWhile Char.isDigit, rest.dropWhile Char.isDigit)
  | rest => ([], rest)

/-- The exponent behind the fraction. -/
def takeExponent (cs : List Char) : List Char × List Char :=
  match cs with
  | e :: tail =>
    let (plus, digits) := match tail with
      | '+' :: ds => (['+'], ds)
      | '-' :: ds => (['-'], ds)
      | ds => ([], ds)
    if (e = 'e' ∨ e = 'E') ∧ digits.takeWhile Char.isDigit ≠ [] then
      (e :: plus ++ digits.takeWhile Char.isDigit, digits.dropWhile Char.isDigit)
    else ([], cs)
  | [] => ([], [])

/-- A number is taken apart from its sign to its exponent. -/
lemma splitNumber_eq (cs : List Char) :
    splitNumber? cs = (takeWhole? (takeMinus cs).2).map fun (whole, afterWhole) =>
      let (fraction, afterFraction) := takeFraction afterWhole
      let (exponent, rest) := takeExponent afterFraction
      ((takeMinus cs).1 ++ whole ++ fraction ++ exponent, fraction.isEmpty && exponent.isEmpty, rest) :=
  rfl

variable (n : WrittenDecimal) {rest : List Char}

/-- What stands behind a value in a document: nothing, or the next part of it. -/
def Follows (rest : List Char) : Prop :=
  ∀ c ∈ rest.head?, c = ',' ∨ c = ']' ∨ c = '\x7d'

/-- What starts with the next part of a document follows a value. -/
lemma Follows.cons {c : Char} (rest : List Char) (h : c = ',' ∨ c = ']' ∨ c = '\x7d') :
    Follows (c :: rest) := by
  rintro _ ⟨⟩
  exact h

/-- What follows a value does not lengthen a number. -/
lemma Follows.head (h : Follows rest) :
    ∀ c ∈ rest.head?, c.isDigit = false ∧ c ≠ '.' ∧ c ≠ 'e' ∧ c ≠ 'E' := by
  intro c hc
  rcases h c hc with rfl | rfl | rfl
  all_goals decide

/-- The exponent, or what follows it, starts with neither a digit nor a point. -/
lemma head_powered_append (h : Follows rest) :
    ∀ c ∈ (n.powered ++ rest).head?, c.isDigit = false ∧ c ≠ '.' := by
  rw [WrittenDecimal.powered]
  cases n.exponent with
  | none => exact fun c hc => ⟨(h.head c hc).1, (h.head c hc).2.1⟩
  | some e =>
    rintro _ ⟨⟩
    decide

/-- What stands behind the whole part starts with no digit. -/
lemma head_pointed_append (h : Follows rest) :
    ∀ c ∈ (n.pointed ++ (n.powered ++ rest)).head?, c.isDigit = false := by
  rw [WrittenDecimal.pointed]
  split
  · exact fun c hc => (head_powered_append n h c hc).1
  · rintro _ ⟨⟩
    decide

/-- The sign of a decimal is taken off. -/
lemma takeMinus_chars :
    takeMinus (n.chars ++ rest) = (if n.negative then ['-'] else [], n.unsigned ++ rest) := by
  rw [WrittenDecimal.chars]
  cases n.negative with
  | true => rfl
  | false =>
    obtain ⟨c, cs, e, digit⟩ := n.exists_whole
    rw [WrittenDecimal.unsigned, e]
    unfold takeMinus
    split
    · next h =>
      cases h
      cases digit
    · rfl

/-- The whole part of a decimal is taken off. -/
lemma takeWhole_unsigned (h : Follows rest) :
    takeWhole? (n.unsigned ++ rest) = some (n.whole, n.pointed ++ (n.powered ++ rest)) := by
  rw [WrittenDecimal.unsigned, List.append_assoc, List.append_assoc]
  rcases n.leading with zero | leading
  · rw [zero]
    rfl
  · have front := takeWhile_front n.whole_digits (head_pointed_append n h)
    have back := dropWhile_front n.whole_digits (head_pointed_append n h)
    have unzero (tail : List Char) : n.whole ++ (n.pointed ++ (n.powered ++ rest)) ≠ '0' :: tail := by
      intro e
      obtain ⟨c, cs, hw, -⟩ := n.exists_whole
      rw [hw] at e leading
      cases e
      exact leading '0' rfl rfl
    rw [takeWhole?, front, back, if_neg n.whole_ne_nil]
    exact unzero

/-- The fraction of a decimal is taken off. -/
lemma takeFraction_pointed (h : Follows rest) :
    takeFraction (n.pointed ++ (n.powered ++ rest)) = (n.pointed, n.powered ++ rest) := by
  have behind := head_powered_append n h
  have front := takeWhile_front n.fraction_digits fun c hc => (behind c hc).1
  have back := dropWhile_front n.fraction_digits fun c hc => (behind c hc).1
  rw [WrittenDecimal.pointed]
  split
  · rw [List.nil_append]
    unfold takeFraction
    split
    · next e => exact absurd rfl (behind '.' (by rw [e]; rfl)).2
    · rfl
  · next fraction => rw [List.cons_append, takeFraction, front, back, if_neg fraction]

/-- The exponent of a decimal is taken off. -/
lemma takeExponent_powered (h : Follows rest) :
    takeExponent (n.powered ++ rest) = (n.powered, rest) := by
  have digits := n.exponent_digits
  rw [WrittenDecimal.powered]
  cases he : n.exponent with
  | none =>
    rw [List.nil_append]
    cases rest with
    | nil => rfl
    | cons c rest =>
      obtain ⟨-, -, lower, upper⟩ := h.head c rfl
      unfold takeExponent
      simp only [lower, upper, or_self, false_and, if_false]
  | some e =>
    obtain ⟨negative, ds⟩ := e
    obtain ⟨nonempty, all⟩ := digits _ he
    have front := takeWhile_front all fun c hc => (h.head c hc).1
    have back := dropWhile_front all fun c hc => (h.head c hc).1
    cases negative with
    | _ => simp [takeExponent, front, back, nonempty]

/-- A written decimal is split off as it stands. -/
theorem splitNumber_chars (h : Follows rest) :
    splitNumber? (n.chars ++ rest) =
      some (n.chars, n.pointed.isEmpty && n.powered.isEmpty, rest) := by
  rw [splitNumber_eq, takeMinus_chars]
  simp only [takeWhole_unsigned n h, Option.map_some, takeFraction_pointed n h, takeExponent_powered n h]
  rw [WrittenDecimal.chars, WrittenDecimal.unsigned, List.append_assoc, List.append_assoc]

end Numbers

section Scalars

/-- What `read` makes of the digits of an integer. -/
def nearest (digits : List Char) : Json :=
  .real (Double.ofText digits)

variable {rest : List Char}

/-- A decimal is read as a number, in front of what may follow a value. -/
lemma readScalar_number (n : WrittenDecimal) (h : Follows rest) :
    readScalar nearest (n.chars ++ rest) = .ok (nearest n.chars, rest) := by
  have parts := splitNumber_chars n h
  obtain ⟨c, cs, e, digit⟩ := n.exists_whole
  have start : n.chars ++ rest = (if n.negative then ['-'] else []) ++
      c :: (cs ++ (n.pointed ++ n.powered) ++ rest) := by
    rw [WrittenDecimal.chars, WrittenDecimal.unsigned, e]
    simp
  have letters (w : Char) (hw : w.isDigit = false) : w ≠ c := by
    rintro rfl
    cases hw.symm.trans digit
  rw [start] at parts ⊢
  unfold readScalar
  split
  · next word =>
    cases negative : n.negative with
    | false => simp [words, after?, letters, negative] at word
    | true => simp [words, after?, negative] at word
  · split
    · -- Minus infinity starts like a number, but not with a digit behind the minus.
      next refused =>
      cases negative : n.negative with
      | false => simp [refusedWords, after?, letters, negative] at refused
      | true => simp [refusedWords, after?, letters, negative] at refused
    · rw [parts]
      cases n.pointed.isEmpty && n.powered.isEmpty with
      | _ => rfl

/-- Each of the three words is read as what it stands for. -/
lemma readScalar_word {word : String × Json} (h : word ∈ words) (rest : List Char) :
    readScalar nearest (word.1.toList ++ rest) = .ok (word.2, rest) := by
  simp only [words, List.mem_cons, List.not_mem_nil, or_false] at h
  rcases h with rfl | rfl | rfl
  all_goals rfl

end Scalars

end WorkflowExpr.Json
