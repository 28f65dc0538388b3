import Mathlib.Data.String.Basic
import WorkflowExpr.Proofs.Text.Digit
import WorkflowExpr.Workspace.Glob

/-!
# Texts of patterns

What the parts of a pattern are read as: names without wildcards as themselves, the pattern for everything below a
directory as the names of the directory, any depth, and any name, and a run of stars within a part as one star.
-/

namespace WorkflowExpr

namespace Path

variable {cs part : List Char} {text name : String}

/-- A text has one part at least between its slashes. -/
lemma exists_slashParts (cs : List Char) : ∃ part parts, slashParts cs = part :: parts := by
  induction cs with
  | nil => exact ⟨[], [], rfl⟩
  | cons c cs ih =>
    obtain ⟨part, parts, split⟩ := ih
    rw [slashParts, split]
    dsimp only
    split
    · exact ⟨_, _, rfl⟩
    · exact ⟨_, _, rfl⟩

/-- A slash in front puts an empty part in front. -/
lemma slashParts_slash (cs : List Char) : slashParts ('/' :: cs) = [] :: slashParts cs := by
  obtain ⟨part, parts, split⟩ := exists_slashParts cs
  rw [slashParts, split]
  exact if_pos rfl

/-- Any other character in front belongs to the first part. -/
lemma slashParts_char {c : Char} {parts : List (List Char)} (h : c ≠ '/')
    (split : slashParts cs = part :: parts) : slashParts (c :: cs) = (c :: part) :: parts := by
  rw [slashParts, split]
  exact if_neg h

/-- A slash between two texts parts them. -/
lemma slashParts_append (front back : List Char) :
    slashParts (front ++ '/' :: back) = slashParts front ++ slashParts back := by
  induction front with
  | nil => exact slashParts_slash back
  | cons c front ih =>
    by_cases h : c = '/'
    · subst h
      rw [List.cons_append, slashParts_slash, slashParts_slash, ih, List.cons_append]
    · obtain ⟨part, parts, split⟩ := exists_slashParts front
      rw [split, List.cons_append] at ih
      rw [List.cons_append, slashParts_char h ih, slashParts_char h split, List.cons_append]

/-- A text is absolute when nothing stands before its first slash. -/
lemma isAbsolute_iff : isAbsolute text = true ↔ ∃ part parts, steps text = "" :: part :: parts := by
  rw [isAbsolute, decide_eq_true_iff, steps]
  cases text.toList with
  | nil => exact ⟨nofun, nofun⟩
  | cons c cs =>
    obtain ⟨part, parts, split⟩ := exists_slashParts cs
    by_cases slash : c = '/'
    · subst slash
      rw [slashParts_slash, split]
      exact iff_of_true rfl ⟨_, _, rfl⟩
    · rw [slashParts_char slash split]
      refine iff_of_false (fun head => slash (Option.some.inj head)) ?_
      rintro ⟨_, _, same⟩
      cases String.ofList_eq_empty_iff.1 (List.cons.inj same).1

/-- The characters of a part are among those of the text. -/
lemma subset_of_mem_slashParts (h : part ∈ slashParts cs) : part ⊆ cs := by
  induction cs generalizing part with
  | nil =>
    rw [List.mem_singleton.1 h]
    exact List.Subset.refl _
  | cons c cs ih =>
    by_cases slash : c = '/'
    · subst slash
      rw [slashParts_slash] at h
      rcases List.mem_cons.1 h with rfl | h
      · exact List.nil_subset _
      · exact List.subset_cons_of_subset _ (ih h)
    · obtain ⟨first, parts, split⟩ := exists_slashParts cs
      rw [split] at ih
      rw [slashParts_char slash split] at h
      rcases List.mem_cons.1 h with rfl | h
      · exact List.cons_subset_cons _ (ih (List.mem_cons_self ..))
      · exact List.subset_cons_of_subset _ (ih (List.mem_cons_of_mem first h))

/-- The characters of a name are among those of the text of its path. -/
lemma subset_of_mem_ofText (h : name ∈ ofText text) : name.toList ⊆ text.toList := by
  obtain ⟨part, mem, rfl⟩ := List.mem_map.1 (List.mem_filter.1 h).1
  rw [String.toList_ofList]
  exact subset_of_mem_slashParts mem

/-- A text written behind another one with a slash between them goes on from there. -/
lemma ofText_append (front back : String) : ofText (front ++ "/" ++ back) = ofText front ++ ofText back := by
  have split : (front ++ "/" ++ back).toList = front.toList ++ '/' :: back.toList := by simp
  rw [ofText, steps, split, slashParts_append, List.map_append, List.filter_append]
  rfl

end Path

namespace Glob

/-- The pattern for all that is below the directory with the given text. -/
def below (d : String) : String :=
  if d = "" then "**" else d ++ "/" ++ "**"

/-- The names of the pattern are those of the directory and two stars. -/
lemma ofText_below (d : String) : Path.ofText (below d) = Path.ofText d ++ ["**"] := by
  have stars : Path.ofText "**" = ["**"] := rfl
  rw [below]
  split
  · next empty =>
    subst empty
    rw [stars]
    rfl
  · rw [Path.ofText_append, stars]

/-- The pattern is absolute when the directory is. -/
lemma isAbsolute_below (d : String) : Path.isAbsolute (below d) = Path.isAbsolute d := by
  rw [below]
  split
  · next empty =>
    subst empty
    rfl
  · next nonempty =>
    rw [Path.isAbsolute, Path.isAbsolute, String.toList_append, String.toList_append]
    cases written : d.toList with
    | nil => exact absurd (String.toList_eq_nil_iff.1 written) nonempty
    | cons => rfl

section Stars

variable {cs : List Char}

/-- A star in front of another one is left out, and any other character stays. -/
lemma foldStars_cons (c : Char) (cs : List Char) :
    foldStars (c :: cs) = if c = '*' ∧ cs.head? = some '*' then foldStars cs else c :: foldStars cs := by
  split
  · next stars =>
    obtain ⟨rfl, head⟩ := stars
    obtain ⟨rest, rfl⟩ := List.head?_eq_some_iff.1 head
    rw [foldStars]
  · next other =>
    rw [foldStars]
    rintro rest rfl rfl
    exact other ⟨rfl, rfl⟩

/-- Folding leaves a star where there were some. -/
lemma star_mem_foldStars : '*' ∈ foldStars cs ↔ '*' ∈ cs := by
  induction cs with
  | nil => rfl
  | cons c cs ih =>
    rw [foldStars_cons]
    split
    · next stars =>
      rw [ih]
      exact iff_of_true (List.mem_of_head? stars.2) (stars.1 ▸ List.mem_cons_self ..)
    · rw [List.mem_cons, List.mem_cons, ih]

/-- A text without stars has none to fold. -/
lemma foldStars_of_not_mem (h : '*' ∉ cs) : foldStars cs = cs := by
  induction cs with
  | nil => rfl
  | cons c cs ih =>
    rw [List.mem_cons, not_or] at h
    rw [foldStars_cons, if_neg (fun stars => h.1 stars.1.symm), ih h.2]

/-- A run of stars is as good as one. -/
lemma foldStars_run (front back : List Char) (count : Nat) :
    foldStars (front ++ (List.replicate (count + 1) '*' ++ back)) = foldStars (front ++ '*' :: back) := by
  induction front with
  | nil =>
    induction count with
    | zero => rfl
    | succ count ih =>
      rw [List.replicate_succ, List.nil_append, List.cons_append, foldStars_cons, if_pos ⟨rfl, rfl⟩]
      exact ih
  | cons c front ih =>
    have heads : (front ++ (List.replicate (count + 1) '*' ++ back)).head? = (front ++ '*' :: back).head? := by
      cases front with
      | nil => rfl
      | cons => rfl
    rw [List.cons_append, List.cons_append, foldStars_cons, foldStars_cons, ih, heads]

end Stars

/-- Whether the character makes a pattern of a name. -/
def isWild (c : Char) : Bool :=
  c = '*' ∨ c = '?' ∨ c = '['

/-- A star stands for any name. -/
lemma ofText_star : Step.ofText "*" = .fitting [.any] := by
  rw [Step.ofText, if_neg (by decide)]
  simp [foldStars, wildcards]

section Steps

variable {text name : String}

/-- A name without wildcards is a pattern for itself. -/
lemma step_literal (h : ∀ c ∈ name.toList, isWild c = false) : Step.ofText name = .name name := by
  have noStar : '*' ∉ name.toList := fun star => Bool.false_ne_true (h '*' star).symm
  rw [Step.ofText]
  split
  · next stars =>
    subst stars
    exact absurd (by decide) noStar
  · have plain : (foldStars name.toList).any isWild = false := by
      rw [foldStars_of_not_mem noStar]
      exact List.any_eq_false.2 fun c hc => Bool.eq_false_iff.1 (h c hc)
    show (if (foldStars name.toList).any isWild = true then _ else _) = _
    rw [if_neg (Bool.eq_false_iff.1 plain), foldStars_of_not_mem noStar, String.ofList_toList]

/-- A part of a pattern that is a name is the name itself. -/
lemma name_of_step (h : Step.ofText text = .name name) : name = text := by
  rw [Step.ofText] at h
  split at h
  · cases h
  · change (if (foldStars text.toList).any isWild = true then _ else _) = _ at h
    split at h
    · cases h
    · next plain =>
      cases h
      have noStar : '*' ∉ text.toList := fun star =>
        plain (List.any_eq_true.2 ⟨'*', star_mem_foldStars.2 star, rfl⟩)
      rw [foldStars_of_not_mem noStar, String.ofList_toList]

end Steps

/-- The text of a relative path that, as a pattern, means what it names. -/
structure IsLiteral (d : String) : Prop where
  relative : Path.isAbsolute d = false
  inside : ".." ∉ Path.ofText d
  plain : ∀ c ∈ d.toList, isWild c = false

/-- The steps of the pattern for all that is below a directory. -/
lemma ofText_below_eq {d : String} (h : IsLiteral d) :
    ofText? (below d) = some ((Path.ofText d).map .name ++ [.anyDepth, .fitting [.any]]) := by
  have outside : ".." ∉ Path.ofText d ++ ["**"] := by
    simpa using h.inside
  have stars : Step.ofText "**" = .anyDepth := if_pos rfl
  have names : (Path.ofText d).map Step.ofText = (Path.ofText d).map .name :=
    List.map_congr_left fun name mem =>
      step_literal fun c hc => h.plain c (Path.subset_of_mem_ofText mem hc)
  rw [ofText?, ofText_below, isAbsolute_below, h.relative]
  simp [outside, names, ofText_star, stars]

/-- One text is the other with a single star in the place of a run of stars within one of its parts, where that
part is not made of two stars alone. -/
def FoldsRun (text folded : String) : Prop :=
  ∃ before after front count back,
    Path.steps text = before ++ String.ofList (front ++ (List.replicate (count + 2) '*' ++ back)) :: after ∧
    Path.steps folded = before ++ String.ofList (front ++ '*' :: back) :: after ∧
    front.getLast? ≠ some '*' ∧ back.head? ≠ some '*' ∧
    front ++ (List.replicate (count + 2) '*' ++ back) ≠ ['*', '*']

/-- A part of a pattern with a wildcard in it. -/
structure WildPart (part : String) : Prop where
  star : '*' ∈ part.toList
  shallow : part ≠ "**"

/-- A part with a wildcard is no text without stars. -/
lemma WildPart.ne {part : String} (h : WildPart part) (other : String) (plain : '*' ∉ other.toList) :
    part ≠ other := by
  rintro rfl
  exact plain h.star

/-- A pattern means the same with a part in the place of another one that means the same. -/
lemma ofText_congr {text other part part' : String} {before after : Path}
    (steps : Path.steps text = before ++ part :: after) (steps' : Path.steps other = before ++ part' :: after)
    (wild : WildPart part) (wild' : WildPart part') (same : Step.ofText part = Step.ofText part') :
    ofText? text = ofText? other := by
  have absolute : Path.isAbsolute text = Path.isAbsolute other := by
    rw [Bool.eq_iff_iff, Path.isAbsolute_iff, Path.isAbsolute_iff, steps, steps']
    cases before with
    | nil =>
      have nonempty := wild.ne "" (by decide)
      have nonempty' := wild'.ne "" (by decide)
      simp [nonempty, nonempty']
    | cons first before => cases before <;> simp
  have names {text part : String} (steps : Path.steps text = before ++ part :: after) (wild : WildPart part) :
      Path.ofText text = (before.filter fun name => name ≠ "" ∧ name ≠ ".") ++
        part :: after.filter fun name => name ≠ "" ∧ name ≠ "." := by
    rw [Path.ofText, steps, List.filter_append, List.filter_cons_of_pos]
    exact decide_eq_true ⟨wild.ne "" (by decide), wild.ne "." (by decide)⟩
  have up := wild.ne ".." (by decide)
  have up' := wild'.ne ".." (by decide)
  simp only [ofText?, names steps wild, names steps' wild', absolute, List.map_append, List.map_cons, same,
    List.mem_append, List.mem_cons, List.append_eq_nil_iff, List.cons_ne_nil, and_false, up.symm, up'.symm, false_or]
  cases (after.filter fun name => name ≠ "" ∧ name ≠ ".") with
  | nil => simp [wild.shallow, wild'.shallow]
  | cons last back => simp

/-- A run of stars within a part means what a single star means. -/
lemma FoldsRun.ofText_eq {text folded : String} (h : FoldsRun text folded) : ofText? text = ofText? folded := by
  obtain ⟨before, after, front, count, back, steps, steps', front', back', deep⟩ := h
  have wild : WildPart (String.ofList (front ++ (List.replicate (count + 2) '*' ++ back))) := by
    refine ⟨by simp, fun stars => deep ?_⟩
    rw [← String.toList_ofList (l := front ++ _), stars]
    rfl
  have wild' : WildPart (String.ofList (front ++ '*' :: back)) := by
    refine ⟨by simp, fun stars => ?_⟩
    have stars : front ++ '*' :: back = ['*', '*'] := by
      rw [← String.toList_ofList (l := front ++ '*' :: back), stars]
      rfl
    cases front with
    | nil =>
      cases stars
      exact back' rfl
    | cons c front =>
      cases front with
      | nil =>
        cases stars
        exact front' rfl
      | cons d front => simp at stars
  refine ofText_congr steps steps' wild wild' ?_
  have folds := foldStars_run front back (count + 1)
  simp only [Step.ofText, if_neg wild.shallow, if_neg wild'.shallow, String.toList_ofList, folds]

end Glob

end WorkflowExpr
