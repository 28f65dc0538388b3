import WorkflowExpr.Proofs.Result
import WorkflowExpr.Yaml.Scalar

/-!
# Misfits of scalars

Which misfits a text can have under a tag. Only truth values, integers, real numbers and timestamps can be
written wrongly; a text under any other tag of scalars is read or malformed.
-/

namespace WorkflowExpr.Yaml

/-- A document is malformed, or it has one of certain misfits. -/
inductive Fault.Of (R : Misfit → Prop) : Fault → Prop where
  | malformed :
    Of R .malformed
  | misfit {cause} :
    R cause →
    Of R (.misfit cause)

/-- The misfits that a node can have under a tag. -/
inductive Tag.Rejects : Tag → Misfit → Prop where
  | word {text} :
    Rejects .boolean (.word text)
  | integer {base text} :
    Rejects .integer (.integer base text)
  | digits {count} :
    digitLimit < count →
    Rejects .integer (.digits count)
  | noInteger :
    Rejects .integer .empty
  | real {text} :
    Rejects .real (.real text)
  | sixties :
    Rejects .real .sixties
  | noReal :
    Rejects .real .empty
  | year :
    Rejects .timestamp (.year 0)
  | month :
    Rejects .timestamp .month
  | day :
    Rejects .timestamp .day
  | hour :
    Rejects .timestamp .hour
  | minute :
    Rejects .timestamp .minute
  | second :
    Rejects .timestamp .second
  | offset {minutes} :
    1440 ≤ minutes.natAbs →
    Rejects .timestamp (.offset minutes)
  | timestamp :
    Rejects .timestamp .timestamp
  | notText :
    Rejects .timestamp .notText

/-- If something cannot be read, its tag rejects it. -/
abbrev Fits {α : Type} (tag : Tag) (x : Except Misfit α) : Prop :=
  Yields (fun _ => True) tag.Rejects x

/-- An integer in a base is read, or the tag of integers rejects it. -/
lemma fits_integerIn (base : Nat) (cs : List Char) : Fits .integer (integerIn base cs) := by
  unfold integerIn
  dsimp only
  split
  · next many => exact .error (.digits many.2)
  · split
    · exact .error .integer
    · exact .ok trivial

/-- An integer without sign is read, or the tag of integers rejects it. -/
lemma fits_unsignedInteger (cs : List Char) : Fits .integer (unsignedInteger cs) := by
  unfold unsignedInteger
  split
  · exact .error .noInteger
  · exact .ok trivial
  · exact fits_integerIn ..
  · exact fits_integerIn ..
  · exact fits_integerIn ..
  · split
    · apply (Yields.mapM (fits_integerIn 10) _).bind
      intro _ _
      exact .ok trivial
    · exact fits_integerIn ..

/-- An integer is read, or its tag rejects it. -/
lemma fits_integer (text : String) : Fits .integer (integer text) := by
  unfold integer
  split
  · exact .error .noInteger
  · apply (fits_unsignedInteger _).bind
    intro _ _
    exact .ok trivial
  · exact fits_unsignedInteger _
  · exact fits_unsignedInteger _

/-- The digits of a number are read, or the tag of numbers rejects them. -/
lemma fits_realOf (cs : List Char) : Fits .real (realOf cs) := by
  unfold realOf
  dsimp only
  split
  · exact .ok trivial
  · split
    · exact .ok trivial
    · split
      · exact .ok trivial
      · exact .error .real

/-- Sixties are added up without a misfit. -/
lemma fits_sixties (total : Double) (unit : Nat) (parts : List Double) :
    Fits .real (sixties total unit parts) := by
  induction parts generalizing total unit with
  | nil => exact .ok trivial
  | cons part parts ih =>
    unfold Yaml.sixties
    dsimp only
    split
    · exact ih _ _
    · exact .error .sixties

/-- A number without sign is read, or the tag of numbers rejects it. -/
lemma fits_unsignedReal (cs : List Char) : Fits .real (unsignedReal cs) := by
  unfold unsignedReal
  split
  · exact .ok trivial
  · split
    · exact .ok trivial
    · split
      · apply (Yields.mapM fits_realOf _).bind
        intro _ _
        exact fits_sixties ..
      · exact fits_realOf cs

/-- A number is read, or its tag rejects it. -/
lemma fits_real (origin : Nat) (text : String) : Fits .real (real origin text) := by
  unfold real
  dsimp only
  split
  · exact .error .noReal
  · apply (fits_unsignedReal _).bind
    intro _ _
    split
    · exact .ok trivial
    · exact .ok trivial

/-- A truth value is read, or its tag rejects it. -/
lemma fits_truth (text : String) : Fits .boolean (truth text) := by
  unfold truth
  split
  · exact .ok trivial
  · exact .error .word

/-- A date that does not exist is rejected by the tag of time stamps. -/
lemma rejects_dateMisfit {d : Date} {cause : Misfit} (h : Stamp.dateMisfit? d = some cause) :
    Tag.timestamp.Rejects cause := by
  unfold Stamp.dateMisfit? at h
  split at h
  · cases h
    exact .year
  · split at h
    · cases h
      exact .month
    · split at h
      · cases h
        exact .day
      · cases h

/-- A time that does not exist is rejected by the tag of time stamps. -/
lemma rejects_timeMisfit {t : WrittenTime} {cause : Misfit} (h : Stamp.timeMisfit? t = some cause) :
    Tag.timestamp.Rejects cause := by
  unfold Stamp.timeMisfit? at h
  split at h
  · cases h
    exact .hour
  · split at h
    · cases h
      exact .minute
    · split at h
      · cases h
        exact .second
      · cases h

/-- An offset that does not exist is rejected by the tag of time stamps. -/
lemma rejects_offsetMisfit {t : WrittenTime} {cause : Misfit}
    (h : Stamp.offsetMisfit? t = some cause) : Tag.timestamp.Rejects cause := by
  obtain ⟨minutes, -, h⟩ := Option.bind_eq_some_iff.1 h
  split at h
  · next days =>
    cases h
    exact .offset days
  · cases h

/-- A written time stamp has a value, or its tag rejects it. -/
lemma fits_stamp (s : Stamp) : Fits .timestamp s.value := by
  unfold Stamp.value
  split
  · split
    · next misfit => exact .error (rejects_dateMisfit misfit)
    · exact .ok trivial
  · split
    · next misfit =>
      apply Yields.error
      rcases Option.or_eq_some_iff.1 misfit with misfit | ⟨-, misfit⟩
      · exact rejects_offsetMisfit misfit
      · rcases Option.or_eq_some_iff.1 misfit with misfit | ⟨-, misfit⟩
        · exact rejects_dateMisfit misfit
        · exact rejects_timeMisfit misfit
    · exact .ok trivial

/-- A time stamp is read, or its tag rejects it. -/
lemma fits_timestamp (text : String) : Fits .timestamp (timestamp text) := by
  unfold timestamp
  split
  · exact fits_stamp _
  · exact .error .timestamp

/-- The key of a reading that fits fits. -/
lemma fitted_rejects {α : Type} {tag : Tag} {read : Except Misfit α} (h : Fits tag read)
    (wrap : α → Key) : Yields (fun _ => True) (Fault.Of tag.Rejects) (fitted read wrap) := by
  cases h with
  | ok => exact .ok trivial
  | error h => exact .error (.misfit h)

/-- Binary data is read, or the document is malformed. -/
lemma binary_malformed {R : Misfit → Prop} (text : String) :
    Yields (fun _ => True) (Fault.Of R) (binary text) := by
  unfold binary
  split
  · exact .error .malformed
  · split
    · exact .ok trivial
    · exact .error .malformed

/-- A text is read under a tag, or it is malformed, or the tag rejects it. -/
theorem scalarKey_rejects (origin : Nat) (tag : Tag) (text : String) :
    Yields (fun _ => True) (Fault.Of tag.Rejects) (scalarKey origin tag text) := by
  cases tag with
  | null => exact .ok trivial
  | boolean => exact fitted_rejects (fits_truth text) _
  | integer => exact fitted_rejects (fits_integer text) _
  | real => exact fitted_rejects (fits_real origin text) _
  | timestamp => exact fitted_rejects (fits_timestamp text) _
  | binary =>
    apply (binary_malformed text).bind
    intro _ _
    exact .ok trivial
  | string => exact .ok trivial
  | _ => exact .error .malformed

/-- A misfit of a scalar is one that its tag rejects. -/
lemma rejects_of_scalarKey {origin : Nat} {tag : Tag} {text : String} {cause : Misfit}
    (h : scalarKey origin tag text = .error (.misfit cause)) : tag.Rejects cause := by
  have fits := scalarKey_rejects origin tag text
  rw [h] at fits
  cases fits with
  | error fault =>
    cases fault with
    | misfit rejects => exact rejects

end WorkflowExpr.Yaml
