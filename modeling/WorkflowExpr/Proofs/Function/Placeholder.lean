import WorkflowExpr.Proofs.Function.Format

/-!
# What a placeholder stands for

A placeholder of a format template stands for the value at the position that its digits denote, however many
zeros they start with, and for itself if there is none. It is too long to be looked up only if a zero of a script
other than ASCII stands among those at the front.
-/

namespace WorkflowExpr

/-- A value with a kind other than array and object. -/
def Value.IsScalar (v : Value) : Prop :=
  ∃ kind, v.kind? = some kind ∧ kind ≠ .array ∧ kind ≠ .object

/-- Every scalar has a text. -/
lemma Value.IsScalar.exists_text {v : Value} (h : v.IsScalar) : ∃ text, v.toText = .ok text := by
  obtain ⟨kind, known, noArray, noObject⟩ := h
  cases v with
  | array =>
    cases known
    exact absurd rfl noArray
  | object =>
    cases known
    exact absurd rfl noObject
  | foreign => cases known
  | _ => exact ⟨_, rfl⟩

namespace Format

variable {values : List Value} {digits : List Char}

/-- A placeholder that names no value stays as it is. -/
lemma replacement_unnamed (unnamed : named? values digits = none) :
    replacement values digits = .ok (placeholder digits).toList := by
  rw [replacement, unnamed, placeholder, String.toList_ofList]
  rfl

/-- Digits that denote a number below a billion are more than nine, zeros `0` at the front aside, only if they
start with another zero. -/
lemma exists_zero_of_long (numeric : Numeric digits) (small : Text.natOfDigits digits < 10 ^ 9)
    (long : isShort digits = false) :
    ∃ zero rest, digits.dropWhile (· == '0') = zero :: rest ∧ zero ≠ '0' ∧ Text.digit? zero = some 0 := by
  rw [isShort, decide_eq_false_iff_not, Nat.not_le] at long
  cases split : digits.dropWhile (· == '0') with
  | nil =>
    rw [split] at long
    cases long
  | cons c rest =>
    have mem : c ∈ digits :=
      (List.dropWhile_suffix (· == '0')).subset (split ▸ List.mem_cons_self ..)
    have nonzero : c ≠ '0' := by
      have head := List.head?_dropWhile_not (· == '0') digits
      rw [split] at head
      simpa using head
    obtain ⟨d, digit⟩ := Option.isSome_iff_exists.1 (numeric.digit c mem)
    -- A greater first digit with nine more behind it would make a billion at least.
    have zero : d = 0 := by
      by_contra positive
      have bound : 10 ^ rest.length ≤ Text.natOfDigits digits := by
        rw [← Text.natOfDigits_dropWhile_zero, split]
        exact Text.pow_le_natOfDigits digit positive rest
      have long' : 9 ≤ rest.length := by
        rw [split] at long
        exact Nat.le_of_lt_succ long
      have : 10 ^ 9 ≤ 10 ^ rest.length := Nat.pow_le_pow_right (by decide) long'
      omega
    subst zero
    exact ⟨c, rest, rfl, nonzero, digit⟩

end Format

namespace Standard

/-- A template of one placeholder is formatted to what replaces the placeholder. -/
lemma format_placeholder_text {values : List Value} {digits : List Char} (numeric : Format.Numeric digits)
    {text : String} (replaced : Format.replacement values digits = .ok text.toList) :
    format (.string (Format.placeholder digits)) values = .ok (.string text) := by
  rw [format_text, Format.placeholder, String.toList_ofList, Format.substitute_placeholder numeric, replaced,
    Format.substitute]
  exact congrArg Except.ok (List.append_nil _)

/-- A template that is a placeholder gives the text of the value at the position that its digits denote, and
itself if there are not as many values. Only where more than nine digits follow the zeros `0` at the front it
gives itself in any case; then, if it does name a value, these digits start with a zero of another script. Apart
from that, placeholders that name the same value give the same. -/
theorem format_placeholder {digits : List Char} (numeric : Format.Numeric digits) {values : List Value}
    (few : values.length ≤ 10 ^ 9) (scalars : ∀ v ∈ values, v.IsScalar) :
    let i := Text.natOfDigits digits
    let result := format (.string (Format.placeholder digits)) values
    (values.length ≤ i → result = .ok (.string (Format.placeholder digits))) ∧
      (∀ v, values[i]? = some v → ∃ text, v.toText = .ok text ∧
        result = .ok (.string (if Format.isShort digits then text else Format.placeholder digits))) ∧
      (i < values.length → Format.isShort digits = false →
        ∃ zero rest, digits.dropWhile (· == '0') = zero :: rest ∧ zero ≠ '0' ∧ Text.digit? zero = some 0) ∧
      (∀ others, Format.Numeric others → Text.natOfDigits others = i → i < values.length →
        Format.isShort digits → Format.isShort others →
          format (.string (Format.placeholder others)) values = result) := by
  intro i result
  have named {digits : List Char} (numeric : Format.Numeric digits) {v : Value}
      (found : values[Text.natOfDigits digits]? = some v) : ∃ text, v.toText = .ok text ∧
        format (.string (Format.placeholder digits)) values =
          .ok (.string (if Format.isShort digits then text else Format.placeholder digits)) := by
    obtain ⟨text, written⟩ := (scalars v (List.mem_of_getElem? found)).exists_text
    refine ⟨text, written, format_placeholder_text numeric ?_⟩
    split
    · next short => exact Format.replacement_named short found written
    · next long =>
      apply Format.replacement_unnamed
      rw [Format.named_eq, if_neg long]
  refine ⟨fun beyond => ?_, fun v found => named numeric found, fun within long => ?_, ?_⟩
  · apply format_placeholder_text numeric
    apply Format.replacement_unnamed
    rw [Format.named_eq, List.getElem?_eq_none beyond, ite_self]
  · exact Format.exists_zero_of_long numeric (Nat.lt_of_lt_of_le within few) long
  · intro others numeric' same within short short'
    have found : values[i]? = some values[i] := List.getElem?_eq_getElem within
    obtain ⟨text, written, first⟩ := named numeric found
    obtain ⟨text', written', second⟩ := named numeric' ((congrArg (values[·]?) same).trans found)
    rw [if_pos short] at first
    rw [if_pos short'] at second
    obtain rfl := Except.ok.inj (written.symm.trans written')
    exact second.trans first.symm

/-- Zeros at the front do not count, and digits may be of any script. -/
theorem format_placeholder_padded :
    let digits := List.replicate 20 '0' ++ ['١']
    let values : List Value := [.null, .string "\x7b0\x7d"]
    Format.Numeric digits ∧ values.length ≤ 10 ^ 9 ∧ (∀ v ∈ values, v.IsScalar) ∧
      format (.string (Format.placeholder digits)) values = .ok (.string "\x7b0\x7d") := by
  intro digits values
  have numeric : Format.Numeric digits :=
    ⟨by decide, List.forall_mem_append.2 ⟨List.forall_mem_replicate.2 (.inr (by decide)),
      List.forall_mem_singleton.2 (by decide)⟩⟩
  have scalars : ∀ v ∈ values, v.IsScalar :=
    List.forall_mem_cons.2 ⟨⟨.null, rfl, by decide⟩, List.forall_mem_singleton.2 ⟨.string, rfl, by decide⟩⟩
  obtain ⟨text, ⟨⟩, result⟩ := (format_placeholder numeric (by decide) scalars).2.1 (.string "\x7b0\x7d") rfl
  exact ⟨numeric, by decide, scalars, result⟩

/-- Ten zeros of another script name the first value as one of them does, and yet it is not looked up. -/
theorem format_placeholder_kept :
    let digits := List.replicate 10 '٠'
    Format.Numeric digits ∧ Text.natOfDigits digits = 0 ∧
      format (.string (Format.placeholder digits)) [.string "x"] = .ok (.string (Format.placeholder digits)) ∧
      Format.Numeric ['٠'] ∧ Text.natOfDigits ['٠'] = 0 ∧
      format (.string (Format.placeholder ['٠'])) [.string "x"] = .ok (.string "x") := by
  have many : Format.Numeric (List.replicate 10 '٠') :=
    ⟨by decide, List.forall_mem_replicate.2 (.inr (by decide))⟩
  have one : Format.Numeric ['٠'] := ⟨by decide, List.forall_mem_singleton.2 (by decide)⟩
  exact ⟨many, by decide, by cbv, one, by decide, by cbv⟩

end Standard

end WorkflowExpr
