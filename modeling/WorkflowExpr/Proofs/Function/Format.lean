import WorkflowExpr.Function.Standard
import WorkflowExpr.Proofs.Evaluation.Order
import WorkflowExpr.Proofs.Result
import WorkflowExpr.Proofs.Text.Digit

/-!
# Format templates

A template is cut into characters that stay and placeholders, and each piece is replaced on its own. So the
parts of a template can be filled apart from each other wherever no placeholder is cut in two, what is inserted
is never looked at again, and values that no placeholder looks up make no difference.
-/

namespace WorkflowExpr

/-- A value in the model that has no text is an error of type. -/
lemma Value.InModel.toText_error {v : Value} {cause : Failure} (h : v.InModel)
    (fails : v.toText = .error cause) : cause.IsTypeError := by
  cases h with
  | array =>
    cases fails
    exact ⟨rfl, nofun⟩
  | object =>
    cases fails
    exact ⟨rfl, nofun⟩
  | _ => cases fails

namespace Format

/-- The digits between the braces of a placeholder. -/
structure Numeric (digits : List Char) : Prop where
  nonempty : digits ≠ []
  digit : ∀ c ∈ digits, Text.isDigit c = true

/-- The template has a placeholder with these digits. -/
def Holds (template digits : List Char) : Prop :=
  Numeric digits ∧ ∃ before after, template = before ++ '\x7b' :: (digits ++ '\x7d' :: after)

/-- The text of the placeholder with these digits. -/
def placeholder (digits : List Char) : String :=
  String.ofList ('\x7b' :: (digits ++ ['\x7d']))

/-- A placeholder starts in one text and ends in the next one. -/
def Straddles (front back : List Char) : Prop :=
  ∃ before left right after, front = before ++ '\x7b' :: left ∧ back = right ++ '\x7d' :: after ∧
    Numeric (left ++ right)

/-- Some placeholder of the template names the value at a position: that is the number which its digits
denote. -/
def Names (template : String) (i : Nat) : Prop :=
  ∃ digits, Holds template.toList digits ∧ Text.natOfDigits digits = i

/-- Whether the digits of a placeholder are looked at: no more than nine follow the zeros `0` at the front. -/
def isShort (digits : List Char) : Bool :=
  (digits.dropWhile (· == '0')).length ≤ 9

/-- Some placeholder of the template names the value at a position, and its digits are looked at. -/
def LooksUp (template : String) (i : Nat) : Prop :=
  ∃ digits, Holds template.toList digits ∧ Text.natOfDigits digits = i ∧ isShort digits = true

/-- A piece of a template. -/
inductive Piece where
  | char (c : Char)
  | placeholder (digits : List Char)

/-- The digits of the placeholder that a character and what follows it start with. -/
def opened? (c : Char) (rest : List Char) : Option (List Char) :=
  if c = '\x7b' then digits? rest else none

/-- The pieces of a template. -/
def pieces (cs : List Char) : List Piece :=
  match cs with
  | [] => []
  | c :: rest =>
    match opened? c rest with
    | some digits => .placeholder digits :: pieces (rest.drop (digits.length + 1))
    | none => .char c :: pieces rest
termination_by cs.length

/-- What takes the place of a piece. -/
def Piece.fill (values : List Value) : Piece → Except Failure (List Char)
  | char c => .ok [c]
  | placeholder digits => replacement values digits

/-- Braces are no digits. -/
lemma not_isDigit_brace {c : Char} (h : c = '\x7b' ∨ c = '\x7d') : Text.isDigit c = false := by
  rcases h with rfl | rfl
  · exact Text.not_isDigit_ascii (by decide) rfl
  · exact Text.not_isDigit_ascii (by decide) rfl

section Cutting

variable {cs rest digits front back : List Char}

/-- Digits are found when they stand in front of a closing brace. -/
lemma digits_eq_some :
    digits? cs = some digits ↔ Numeric digits ∧ ∃ rest, cs = digits ++ '\x7d' :: rest := by
  constructor
  · intro h
    simp only [digits?] at h
    split at h
    · next tail behind =>
      split at h
      · cases h
      · next nonempty =>
        cases h
        refine ⟨⟨nonempty, fun c hc => List.mem_takeWhile_imp hc⟩, tail, ?_⟩
        rw [← behind]
        exact (List.prefix_iff_eq_append.1 (List.takeWhile_prefix Text.isDigit)).symm
    · cases h
  · rintro ⟨h, rest, rfl⟩
    have taken : (digits ++ '\x7d' :: rest).takeWhile Text.isDigit = digits := by
      apply takeWhile_front h.digit
      rintro _ ⟨⟩
      exact not_isDigit_brace (.inr rfl)
    simp only [digits?]
    rw [taken, List.drop_left]
    simp only [if_neg h.nonempty]

/-- A placeholder is opened by a brace with digits and a closing brace behind it. -/
lemma opened_eq_some {c : Char} :
    opened? c rest = some digits ↔
      c = '\x7b' ∧ Numeric digits ∧ ∃ tail, rest = digits ++ '\x7d' :: tail := by
  rw [opened?]
  split
  · next brace => rw [digits_eq_some, and_iff_right brace]
  · next brace => exact ⟨nofun, fun h => absurd h.1 brace⟩

/-- What is left behind a placeholder is what follows its closing brace. -/
lemma drop_placeholder (digits tail : List Char) :
    (digits ++ '\x7d' :: tail).drop (digits.length + 1) = tail := by
  rw [← List.drop_drop, List.drop_left, List.drop_succ_cons, List.drop_zero]

/-- A placeholder in front is the first piece. -/
lemma pieces_placeholder (h : Numeric digits) (rest : List Char) :
    pieces ('\x7b' :: (digits ++ '\x7d' :: rest)) = .placeholder digits :: pieces rest := by
  rw [pieces, opened_eq_some.2 ⟨rfl, h, rest, rfl⟩]
  simp only [drop_placeholder]

/-- Where no placeholder is cut in two, the pieces of a text are those of its parts. By induction on the first
part: a placeholder that starts in it either ends in it or straddles the boundary. -/
lemma pieces_append (h : ¬ Straddles front back) : pieces (front ++ back) = pieces front ++ pieces back := by
  fun_induction pieces front with
  | case1 => rfl
  | case2 c rest digits found ih =>
    obtain ⟨rfl, numeric, tail, rfl⟩ := opened_eq_some.1 found
    rw [drop_placeholder] at ih ⊢
    have later : ¬ Straddles tail back := by
      rintro ⟨before, left, right, after, rfl, split, numeric'⟩
      refine h ⟨'\x7b' :: (digits ++ '\x7d' :: before), left, right, after, ?_, split, numeric'⟩
      simp only [List.cons_append, List.append_assoc]
    rw [List.cons_append, List.append_assoc, List.cons_append, pieces_placeholder numeric, ih later,
      List.cons_append]
  | case3 c rest plain ih =>
    have later : ¬ Straddles rest back := by
      rintro ⟨before, left, right, after, rfl, split, numeric⟩
      exact h ⟨c :: before, left, right, after, rfl, split, numeric⟩
    -- A placeholder that opens here and ends behind the boundary would straddle it.
    have stays : opened? c (rest ++ back) = none := by
      rw [Option.eq_none_iff_forall_ne_some]
      intro digits found
      obtain ⟨rfl, numeric, after, split⟩ := opened_eq_some.1 found
      rcases List.append_eq_append_iff.1 split with ⟨right, rfl, behind⟩ | ⟨tail, rfl, behind⟩
      · exact h ⟨[], rest, right, after, rfl, behind, numeric⟩
      · cases tail with
        | nil => exact h ⟨[], digits, [], after, by simp, behind.symm, by simpa using numeric⟩
        | cons _ tail =>
          cases behind
          cases plain.symm.trans (opened_eq_some.2 ⟨rfl, numeric, tail, rfl⟩)
    rw [List.cons_append, pieces, stays, ih later, List.cons_append]

/-- No placeholder goes on behind an opening brace. -/
lemma not_straddles_opening (front rest : List Char) : ¬ Straddles front ('\x7b' :: rest) := by
  rintro ⟨before, left, right, after, -, split, numeric⟩
  cases right with
  | nil => cases split
  | cons c right =>
    cases split
    have digit := numeric.digit '\x7b' (List.mem_append_right left (List.mem_cons_self ..))
    cases digit.symm.trans (not_isDigit_brace (.inl rfl))

/-- A placeholder is a piece wherever it stands. -/
lemma pieces_around (before : List Char) (h : Numeric digits) (after : List Char) :
    pieces (before ++ '\x7b' :: (digits ++ '\x7d' :: after)) =
      pieces before ++ .placeholder digits :: pieces after := by
  rw [pieces_append (not_straddles_opening before _), pieces_placeholder h]

/-- The placeholders among the pieces are those that the template has. -/
lemma mem_pieces : .placeholder digits ∈ pieces cs ↔ Holds cs digits := by
  constructor
  · intro h
    fun_induction pieces cs with
    | case1 => cases h
    | case2 c rest first found ih =>
      obtain ⟨rfl, numeric, tail, rfl⟩ := opened_eq_some.1 found
      rw [drop_placeholder] at ih h
      cases h with
      | head => exact ⟨numeric, [], tail, rfl⟩
      | tail _ h =>
        obtain ⟨numeric', before, after, rfl⟩ := ih h
        refine ⟨numeric', '\x7b' :: (first ++ '\x7d' :: before), after, ?_⟩
        simp only [List.cons_append, List.append_assoc]
    | case3 c rest plain ih =>
      cases h with
      | tail _ h =>
        obtain ⟨numeric, before, after, rfl⟩ := ih h
        exact ⟨numeric, c :: before, after, rfl⟩
  · rintro ⟨numeric, before, after, rfl⟩
    rw [pieces_around before numeric]
    exact List.mem_append_right _ (List.mem_cons_self ..)

end Cutting

section Filling

variable {values others : List Value} {cs front back digits : List Char} {cause : Failure}

/-- A template is filled piece by piece, in one pass. -/
lemma substitute_pieces (values : List Value) (cs : List Char) :
    substitute values cs = ((pieces cs).mapM (Piece.fill values)).map List.flatten := by
  have start (c : Char) (rest : List Char) :
      substitute values (c :: rest) =
        match opened? c rest with
        | some digits => do
          let inserted ← replacement values digits
          return inserted ++ (← substitute values (rest.drop (digits.length + 1)))
        | none => do return c :: (← substitute values rest) := by
    rw [substitute]
    rfl
  fun_induction pieces cs with
  | case1 =>
    rw [substitute]
    rfl
  | case2 c rest digits found ih =>
    rw [start, found, map_mapM_cons]
    simp only [ih]
    refine congrArg (replacement values digits >>= ·) (funext fun inserted => ?_)
    cases (pieces (rest.drop (digits.length + 1))).mapM (Piece.fill values) with
    | error => rfl
    | ok => rfl
  | case3 c rest plain ih =>
    rw [start, plain, map_mapM_cons]
    simp only [ih]
    cases (pieces rest).mapM (Piece.fill values) with
    | error => rfl
    | ok => rfl

/-- Where no placeholder is cut in two, a template is filled part by part. -/
lemma substitute_append (h : ¬ Straddles front back) :
    substitute values (front ++ back) = do
      let left ← substitute values front
      let right ← substitute values back
      return left ++ right := by
  simp only [substitute_pieces, pieces_append h, List.mapM_append]
  cases (pieces front).mapM (Piece.fill values) with
  | error => rfl
  | ok left =>
    cases (pieces back).mapM (Piece.fill values) with
    | error => rfl
    | ok right => exact congrArg Except.ok List.flatten_append

/-- Digits that are looked at name the value at the position that they denote. -/
lemma named_eq (values : List Value) (digits : List Char) :
    named? values digits = if isShort digits then values[Text.natOfDigits digits]? else none := by
  simp only [named?, Text.natOfDigits_dropWhile_zero, isShort, decide_eq_true_eq, ← Nat.not_lt, ite_not]

/-- A placeholder whose digits are looked at is replaced by the text of the value that it names. -/
lemma replacement_named {v : Value} {text : String} (short : isShort digits = true)
    (found : values[Text.natOfDigits digits]? = some v) (written : v.toText = .ok text) :
    replacement values digits = .ok text.toList := by
  simp only [replacement, named_eq, if_pos short, found, written]
  rfl

/-- A placeholder in front is replaced, and what follows it is substituted on its own. -/
lemma substitute_placeholder (h : Numeric digits) (rest : List Char) :
    substitute values ('\x7b' :: (digits ++ '\x7d' :: rest)) = do
      let inserted ← replacement values digits
      let right ← substitute values rest
      return inserted ++ right := by
  rw [substitute_pieces, pieces_placeholder h, map_mapM_cons, substitute_pieces]
  refine congrArg (replacement values digits >>= ·) (funext fun inserted => ?_)
  cases (pieces rest).mapM (Piece.fill values) with
  | error => rfl
  | ok => rfl

/-- A template is filled alike from values that are the same where it looks them up. -/
lemma substitute_congr {template : String} (same : ∀ i, LooksUp template i → others[i]? = values[i]?) :
    substitute others template.toList = substitute values template.toList := by
  rw [substitute_pieces, substitute_pieces]
  refine congrArg _ (mapM_congr fun piece mem => ?_)
  cases piece with
  | char => rfl
  | placeholder digits =>
    have named : named? others digits = named? values digits := by
      rw [named_eq, named_eq]
      split
      · next short => exact same _ ⟨digits, mem_pieces.1 mem, rfl, short⟩
      · rfl
    rw [Piece.fill, Piece.fill, replacement, replacement, named]

/-- Filling fails only where a value of the language has no text. -/
lemma substitute_error (model : ∀ v ∈ values, v.InModel) (h : substitute values cs = .error cause) :
    cause.IsTypeError := by
  rw [substitute_pieces, map_eq_error, mapM_eq_error] at h
  obtain ⟨-, piece, -, -, -, fails⟩ := h
  cases piece with
  | char => cases fails
  | placeholder digits =>
    simp only [Piece.fill, replacement, named_eq] at fails
    split at fails
    · next v found =>
      split at found
      · exact (model v (List.mem_of_getElem? found)).toText_error (map_eq_error.1 fails)
      · cases found
    · cases fails

/-- A value without text that is looked up lets filling fail. -/
lemma exists_substitute_error {template : String} {i : Nat} {v : Value} (looked : LooksUp template i)
    (found : values[i]? = some v) (fails : v.toText = .error cause) :
    ∃ cause, substitute values template.toList = .error cause := by
  obtain ⟨digits, holds, rfl, short⟩ := looked
  cases filled : substitute values template.toList with
  | error cause => exact ⟨cause, rfl⟩
  | ok =>
    rw [substitute_pieces, map_eq_ok] at filled
    obtain ⟨parts, filled, -⟩ := filled
    obtain ⟨part, filled⟩ := exists_ok_of_mapM filled (mem_pieces.2 holds)
    simp only [Piece.fill, replacement, named_eq, if_pos short, found, fails] at filled
    cases filled

end Filling

end Format

namespace Standard

variable {values : List Value} {template : String}

/-- The function `format` of a text template is the substitution in its characters. -/
lemma format_string (values : List Value) (template : String) :
    format (.string template) values =
      (Format.substitute values template.toList).map fun cs => Value.string (String.ofList cs) := by
  show (do return Value.string (String.ofList (← Format.substitute values template.toList))) = _
  cases Format.substitute values template.toList with
  | error => rfl
  | ok => rfl

/-- It has a value when the substitution has one. -/
lemma format_eq_ok {v : Value} :
    format (.string template) values = .ok v ↔
      ∃ cs, Format.substitute values template.toList = .ok cs ∧ Value.string (String.ofList cs) = v := by
  rw [format_string, map_eq_ok]

/-- It fails as the substitution does. -/
lemma format_eq_error {cause : Failure} :
    format (.string template) values = .error cause ↔
      Format.substitute values template.toList = .error cause := by
  rw [format_string, map_eq_error]

/-- It gives a text when the substitution gives the characters of that text. -/
lemma format_text {values : List Value} {template text : String} :
    format (.string template) values = .ok (.string text) ↔
      Format.substitute values template.toList = .ok text.toList := by
  rw [format_eq_ok]
  constructor
  · rintro ⟨cs, filled, ⟨⟩⟩
    rw [filled, String.toList_ofList]
  · intro filled
    exact ⟨_, filled, congrArg Value.string String.ofList_toList⟩

/-- A format template is filled in one pass. Two templates in a row fail when one of them does and else give
their results in a row, unless a placeholder straddles the boundary. The text of a value stands in the place of
its placeholder whatever it is. Values that no placeholder names make no difference. An array or object that is
named is an error of type if it is looked up, and makes no difference otherwise. -/
theorem format_compositional {values : List Value} (model : ∀ v ∈ values, v.InModel) :
    (∀ front back : String, ¬ Format.Straddles front.toList back.toList →
      ((∃ e, format (.string (front ++ back)) values = .error e) ↔
        (∃ e, format (.string front) values = .error e) ∨ ∃ e, format (.string back) values = .error e) ∧
      ∀ v w, format (.string front) values = .ok v → format (.string back) values = .ok w →
        ∃ left right, v = .string left ∧ w = .string right ∧
          format (.string (front ++ back)) values = .ok (.string (left ++ right))) ∧
    (∀ front back left right : String, ∀ digits v text, Format.Numeric digits →
      Format.isShort digits → values[Text.natOfDigits digits]? = some v → v.toText = .ok text →
      format (.string front) values = .ok (.string left) →
      format (.string back) values = .ok (.string right) →
        format (.string (front ++ (Format.placeholder digits ++ back))) values =
          .ok (.string (left ++ (text ++ right)))) ∧
    (∀ template others, (∀ i, Format.Names template i → others[i]? = values[i]?) →
      format (.string template) others = format (.string template) values) ∧
    ∀ template i v, Format.Names template i → values[i]? = some v →
      (v.kind? = some .array ∨ v.kind? = some .object) →
        (Format.LooksUp template i ∧
          ∃ cause, format (.string template) values = .error cause ∧ cause.IsTypeError) ∨
        (¬ Format.LooksUp template i ∧
          ∀ w, format (.string template) (values.set i w) = format (.string template) values) := by
  refine ⟨fun front back whole => ?_, ?_, fun template others same => ?_, ?_⟩
  · have parts : Format.substitute values (front ++ back).toList = _ :=
      String.toList_append ▸ Format.substitute_append whole
    constructor
    · simp only [format_eq_error, parts]
      cases Format.substitute values front.toList with
      | error cause => exact ⟨fun _ => .inl ⟨cause, rfl⟩, fun _ => ⟨cause, rfl⟩⟩
      | ok left =>
        cases Format.substitute values back.toList with
        | error cause => exact ⟨fun _ => .inr ⟨cause, rfl⟩, fun _ => ⟨cause, rfl⟩⟩
        | ok right => exact ⟨nofun, nofun⟩
    · intro v w hv hw
      obtain ⟨left, filled, rfl⟩ := format_eq_ok.1 hv
      obtain ⟨right, filled', rfl⟩ := format_eq_ok.1 hw
      refine ⟨_, _, rfl, rfl, ?_⟩
      rw [format_text, parts, filled, filled', String.toList_append, String.toList_ofList,
        String.toList_ofList]
      rfl
  · intro front back left right digits v text numeric short found written filled filled'
    rw [format_text] at filled filled' ⊢
    have split : (front ++ (Format.placeholder digits ++ back)).toList =
        front.toList ++ '\x7b' :: (digits ++ '\x7d' :: back.toList) := by
      simp [Format.placeholder]
    rw [split, Format.substitute_append (Format.not_straddles_opening _ _), filled,
      Format.substitute_placeholder numeric, Format.replacement_named short found written, filled',
      String.toList_append, String.toList_append]
    rfl
  · rw [format_string, format_string, Format.substitute_congr]
    rintro i ⟨digits, holds, rfl, -⟩
    exact same _ ⟨digits, holds, rfl⟩
  · intro template i v named found compound
    -- Neither an array nor an object has a text.
    have fails : ∃ cause, v.toText = .error cause := by
      cases v with
      | array => exact ⟨_, rfl⟩
      | object => exact ⟨_, rfl⟩
      | _ => simp [Value.kind?] at compound
    obtain ⟨cause, fails⟩ := fails
    by_cases looked : Format.LooksUp template i
    · obtain ⟨cause, failed⟩ := Format.exists_substitute_error looked found fails
      exact .inl ⟨looked, cause, format_eq_error.2 failed, Format.substitute_error model failed⟩
    · refine .inr ⟨looked, fun w => ?_⟩
      -- Its digits are never looked at, so any other value in its place gives the same.
      rw [format_string, format_string, Format.substitute_congr]
      intro j looked'
      have other : i ≠ j := by
        rintro rfl
        exact looked looked'
      exact List.getElem?_set_ne other

/-- The braces around a placeholder make no placeholder of the text that is inserted. -/
theorem format_compositional_braces :
    let values : List Value := [.string "\x7b1\x7d", .array []]
    (∀ v ∈ values, v.InModel) ∧
      format (.string ("\x7b" ++ "\x7b0\x7d\x7d\x7b2\x7d")) values =
        .ok (.string ("\x7b" ++ "\x7b1\x7d\x7d\x7b2\x7d")) := by
  intro values
  have model : ∀ v ∈ values, v.InModel :=
    List.forall_mem_cons.2 ⟨.string, List.forall_mem_singleton.2 (.array (List.forall_mem_nil _))⟩
  have front : format (.string "\x7b") values = .ok (.string "\x7b") := by cbv
  have back : format (.string "\x7b0\x7d\x7d\x7b2\x7d") values = .ok (.string "\x7b1\x7d\x7d\x7b2\x7d") := by cbv
  obtain ⟨_, _, ⟨⟩, ⟨⟩, filled⟩ :=
    ((format_compositional model).1 _ _ (Format.not_straddles_opening _ _)).2 _ _ front back
  exact ⟨model, filled⟩

/-- The array that ten zeros of another script name is not looked up, and so it is no error. -/
theorem format_array_kept :
    let template := Format.placeholder (List.replicate 10 '٠')
    Format.Names template 0 ∧ format (.string template) [.array []] = .ok (.string template) := by
  have numeric : Format.Numeric (List.replicate 10 '٠') :=
    ⟨by decide, List.forall_mem_replicate.2 (.inr (by decide))⟩
  exact ⟨⟨List.replicate 10 '٠', ⟨numeric, [], [], by cbv⟩, by decide⟩, by cbv⟩

end Standard

end WorkflowExpr
