import Mathlib
import WorkflowExpr.Proofs.Workspace.Confinement

/-!
# The last match wins

A list of patterns is read from left to right, and each pattern overrules the ones before it on the paths that it
matches. So a path is selected if the last pattern that matches it, if there is one, is no exclusion. Which paths
these are does not change when neighbours of one sign are put into another order or repeated.
-/

namespace WorkflowExpr

namespace Glob

/-- Whether a pattern takes its matches out. -/
def isExclusion (pattern : String) : Bool :=
  pattern.toList.head? = some '!'

/-- What a pattern is matched by: all of it, or all but the sign of an exclusion. -/
def remainder (pattern : String) : String :=
  if isExclusion pattern then String.ofList (pattern.toList.drop 1) else pattern

/-- The patterns all take matches out, or none of them does. -/
def SameSign (patterns : List String) : Prop :=
  (∀ pattern ∈ patterns, isExclusion pattern = true) ∨ ∀ pattern ∈ patterns, isExclusion pattern = false

end Glob

namespace Workspace

/-- The files that one pattern of a list matches, or why they cannot be told. -/
def matched (w : Workspace) (pattern : String) : Except NameTooLong (List Path) :=
  w.files (Glob.remainder pattern)

/-- The pattern matches the path. -/
def Matches (w : Workspace) (pattern : String) (p : Path) : Prop :=
  ∃ found, w.matched pattern = .ok found ∧ p ∈ found

/-- Some pattern matches the path, and the last one that does is no exclusion. -/
def Included (w : Workspace) (patterns : List String) (p : Path) : Prop :=
  ∃ before pattern after, patterns = before ++ pattern :: after ∧ w.Matches pattern p ∧
    Glob.isExclusion pattern = false ∧ ∀ later ∈ after, ¬ w.Matches later p

variable {w : Workspace}

section Included

variable {pattern : String} {patterns these those : List String} {p : Path}

/-- No pattern includes nothing. -/
lemma not_included_nil : ¬ w.Included [] p := by
  rintro ⟨before, pattern, after, split, -⟩
  exact absurd split.symm (List.append_ne_nil_of_right_ne_nil before (List.cons_ne_nil pattern after))

/-- A path is included by the later patterns, or by the first one if no later one matches it. -/
lemma included_cons :
    w.Included (pattern :: patterns) p ↔ w.Included patterns p ∨
      (w.Matches pattern p ∧ Glob.isExclusion pattern = false ∧ ∀ later ∈ patterns, ¬ w.Matches later p) := by
  constructor
  · rintro ⟨before, last, after, split, matched, sign, final⟩
    cases before with
    | nil =>
      cases split
      exact .inr ⟨matched, sign, final⟩
    | cons _ before =>
      cases split
      exact .inl ⟨before, last, after, rfl, matched, sign, final⟩
  · rintro (⟨before, last, after, rfl, matched, sign, final⟩ | ⟨matched, sign, final⟩)
    · exact ⟨pattern :: before, last, after, rfl, matched, sign, final⟩
    · exact ⟨[], pattern, patterns, rfl, matched, sign, final⟩

/-- Later patterns overrule earlier ones. -/
lemma included_append :
    w.Included (these ++ those) p ↔
      w.Included those p ∨ (w.Included these p ∧ ∀ later ∈ those, ¬ w.Matches later p) := by
  induction these with
  | nil => simp [not_included_nil]
  | cons pattern these ih =>
    rw [List.cons_append, included_cons, ih, included_cons, List.forall_mem_append]
    tauto

/-- Where no pattern is an exclusion, each includes its matches. -/
lemma included_of_inclusions (sign : ∀ pattern ∈ patterns, Glob.isExclusion pattern = false) :
    w.Included patterns p ↔ ∃ pattern ∈ patterns, w.Matches pattern p := by
  induction patterns with
  | nil => simp [not_included_nil]
  | cons pattern patterns ih =>
    obtain ⟨first, rest⟩ := List.forall_mem_cons.1 sign
    rw [included_cons, ih rest, List.exists_mem_cons_iff]
    constructor
    · rintro (later | ⟨matched, -⟩)
      · exact .inr later
      · exact .inl matched
    · intro some_
      by_cases later : ∃ pattern ∈ patterns, w.Matches pattern p
      · exact .inl later
      · exact .inr ⟨some_.resolve_right later, first, fun q hq matched => later ⟨q, hq, matched⟩⟩

/-- Exclusions alone include nothing. -/
lemma not_included_of_exclusions (sign : ∀ pattern ∈ patterns, Glob.isExclusion pattern = true) :
    ¬ w.Included patterns p := by
  rintro ⟨before, pattern, after, rfl, -, inclusion, -⟩
  cases (sign pattern (by simp)).symm.trans inclusion

/-- In a row of patterns of one sign only their matches count, not their order and number. -/
lemma included_congr (sign : Glob.SameSign these) (same : ∀ pattern, pattern ∈ these ↔ pattern ∈ those)
    (before after : List String) :
    w.Included (before ++ these ++ after) p ↔ w.Included (before ++ those ++ after) p := by
  have row : w.Included these p ↔ w.Included those p := by
    rcases sign with sign | sign
    · exact iff_of_false (not_included_of_exclusions sign)
        (not_included_of_exclusions fun q hq => sign q ((same q).2 hq))
    · rw [included_of_inclusions sign, included_of_inclusions fun q hq => sign q ((same q).2 hq)]
      simp only [same]
  simp only [included_append, row, same]

end Included

section Run

variable {pattern : String} {patterns : List String} {selected next : List Path} {p : Path}

/-- One more pattern takes its matches out or puts those that are new behind the others. -/
lemma refine_eq (selected : List Path) (pattern : String) :
    w.refine selected pattern = (w.matched pattern).map fun found =>
      if Glob.isExclusion pattern then selected.removeAll found
      else selected ++ found.removeAll selected := by
  unfold refine matched Glob.remainder
  split
  · next rest written =>
    have sign : Glob.isExclusion pattern = true := by simp [Glob.isExclusion, written]
    simp only [sign, if_true, written, List.drop_succ_cons, List.drop_zero]
    cases w.files (String.ofList rest) with
    | error => rfl
    | ok => rfl
  · next other =>
    have sign : Glob.isExclusion pattern = false := by
      rw [Glob.isExclusion, decide_eq_false_iff_not, List.head?_eq_some_iff]
      rintro ⟨rest, written⟩
      exact other rest written
    simp only [sign, Bool.false_eq_true, if_false]
    cases w.files pattern with
    | error => rfl
    | ok => rfl

/-- What one more pattern does to a selection. -/
lemma mem_refine (h : w.refine selected pattern = .ok next) :
    p ∈ next ↔ (w.Matches pattern p ∧ Glob.isExclusion pattern = false) ∨
      (p ∈ selected ∧ ¬ w.Matches pattern p) := by
  rw [refine_eq, map_eq_ok] at h
  obtain ⟨found, matched, rfl⟩ := h
  have hits : w.Matches pattern p ↔ p ∈ found := by
    simp only [Matches, matched, Except.ok.injEq, exists_eq_left']
  rw [hits]
  cases Glob.isExclusion pattern with
  | true => simp [mem_removeAll]
  | false =>
    rw [if_neg Bool.false_ne_true, List.mem_append, mem_removeAll]
    tauto

/-- What a list of patterns does to a selection. By induction on the list, for any selection to start with. -/
lemma mem_refineAll (h : patterns.foldlM w.refine selected = .ok next) :
    p ∈ next ↔ w.Included patterns p ∨ (p ∈ selected ∧ ∀ pattern ∈ patterns, ¬ w.Matches pattern p) := by
  induction patterns generalizing selected with
  | nil =>
    cases h
    simp [not_included_nil]
  | cons pattern patterns ih =>
    rw [List.foldlM_cons] at h
    obtain ⟨middle, refined, h⟩ := bind_eq_ok.1 h
    rw [ih h, mem_refine refined, included_cons, List.forall_mem_cons]
    tauto

/-- A list of patterns is read to its end when each of them can be matched. -/
lemma exists_refineAll :
    (∃ next, patterns.foldlM w.refine selected = .ok next) ↔
      ∀ pattern ∈ patterns, ∃ found, w.matched pattern = .ok found := by
  induction patterns generalizing selected with
  | nil => exact iff_of_true ⟨selected, rfl⟩ (List.forall_mem_nil _)
  | cons pattern patterns ih =>
    rw [List.forall_mem_cons, List.foldlM_cons]
    cases matched : w.matched pattern with
    | error e =>
      have failed : w.refine selected pattern = .error e := by rw [refine_eq, matched]; rfl
      rw [failed]
      exact iff_of_false (fun ⟨_, h⟩ => nomatch h) fun h => nomatch h.1
    | ok found =>
      obtain ⟨middle, refined⟩ : ∃ middle, w.refine selected pattern = .ok middle := by
        rw [refine_eq, matched]
        exact ⟨_, rfl⟩
      rw [refined, and_iff_right ⟨found, rfl⟩]
      exact ih

end Run

section Selection

variable {patterns others : List String} {selected : List Path} {p : Path}

/-- A selection is what a list of patterns does to nothing, without repetitions and in order. -/
lemma select_eq_ok :
    w.select patterns = .ok selected ↔
      ∃ found, patterns.foldlM w.refine [] = .ok found ∧ found.eraseDups.mergeSort notAfter = selected := by
  rw [select, bind_eq_ok]
  simp only [pure, Except.pure, Except.ok.injEq]

/-- There is a selection when each pattern can be matched. -/
lemma exists_select :
    (∃ selected, w.select patterns = .ok selected) ↔
      ∀ pattern ∈ patterns, ∃ found, w.matched pattern = .ok found := by
  constructor
  · rintro ⟨selected, h⟩
    obtain ⟨found, refined, -⟩ := select_eq_ok.1 h
    exact exists_refineAll.1 ⟨found, refined⟩
  · intro readable
    obtain ⟨found, refined⟩ := exists_refineAll.2 readable
    exact ⟨_, select_eq_ok.2 ⟨found, refined, rfl⟩⟩

/-- A path is selected when the patterns include it. -/
lemma mem_select (h : w.select patterns = .ok selected) : p ∈ selected ↔ w.Included patterns p := by
  obtain ⟨found, refined, rfl⟩ := select_eq_ok.1 h
  rw [List.mem_mergeSort, List.mem_eraseDups, mem_refineAll refined]
  exact or_iff_left fun none => absurd none.1 List.not_mem_nil

/-- Selected paths are in order, and each stands there once. -/
lemma pairwise_select (h : w.select patterns = .ok selected) : selected.Pairwise (· < ·) := by
  obtain ⟨found, -, rfl⟩ := select_eq_ok.1 h
  have ordered := List.pairwise_mergeSort notAfter_trans notAfter_total found.eraseDups
  have distinct := (List.mergeSort_perm found.eraseDups notAfter).nodup_iff.2 (nodup_eraseDups found)
  exact (ordered.and distinct).imp fun ⟨notAfter, other⟩ => lt_of_le_of_ne (notAfter_iff.1 notAfter) other

/-- Selections of the same paths are one and the same. -/
lemma select_congr (h : w.select patterns = .ok selected)
    (readable : ∀ pattern ∈ others, ∃ found, w.matched pattern = .ok found)
    (same : ∀ p, w.Included others p ↔ w.Included patterns p) : w.select others = .ok selected := by
  obtain ⟨found, refined, rfl⟩ := select_eq_ok.1 h
  obtain ⟨found', refined'⟩ := exists_refineAll.2 readable
  refine select_eq_ok.2 ⟨found', refined', sorted_congr fun p => ?_⟩
  rw [mem_refineAll refined', mem_refineAll refined, same]
  simp only [List.not_mem_nil, false_and]

/-- The digest of a selection is empty or the hash of the hashes of its files. -/
lemma digest_eq (present : w.isDirectory [] = true) (h : w.select patterns = .ok selected) :
    w.digest? patterns = .ok (some (if selected = [] then ""
      else Sha256.hexText (Sha256.digest (selected.flatMap fun p =>
        Sha256.digest ((w.contents? p).getD []))))) := by
  simp only [digest?, present, if_true, h]
  cases selected with
  | nil => rfl
  | cons => rfl

/-- The text of a digest has digits. -/
lemma hexText_digest_ne_empty (bytes : List UInt8) : Sha256.hexText (Sha256.digest bytes) ≠ "" := by
  have length (s : Sha256.State) : s.bytes.length = 32 := by
    simp [Sha256.State.bytes, Sha256.bigEndian]
  intro empty
  cases bytes' : Sha256.digest bytes with
  | nil =>
    rw [Sha256.digest] at bytes'
    cases (congrArg List.length bytes').symm.trans (length _)
  | cons byte rest =>
    rw [bytes', Sha256.hexText] at empty
    cases String.ofList_eq_empty_iff.1 empty

end Selection

/-- A path to a file is selected if some pattern of the list matches it and the last pattern that does is no
exclusion. The digest is made of the contents of the selected files, each once and in the order of their paths,
and it is empty only if there are none. To repeat a pattern next to itself, or to put neighbours of one sign into
another order, makes no difference to it. -/
theorem digest_last_match (present : w.isDirectory [] = true) {patterns : List String}
    (readable : ∀ pattern ∈ patterns, ∃ found, w.matched pattern = .ok found) :
    ∃ selected, w.select patterns = .ok selected ∧
      (∀ p, p ∈ selected ↔ w.Included patterns p) ∧
      (∀ p ∈ selected, ∃ bytes, w.contents? p = some bytes) ∧
      selected.Pairwise (· < ·) ∧
      w.digest? patterns = .ok (some (if selected = [] then ""
        else Sha256.hexText (Sha256.digest (selected.flatMap fun p =>
          Sha256.digest ((w.contents? p).getD []))))) ∧
      (w.digest? patterns = .ok (some "") ↔ ∀ p, ¬ w.Included patterns p) ∧
      (∀ before pattern after, patterns = before ++ pattern :: after →
        w.digest? (before ++ pattern :: pattern :: after) = w.digest? patterns) ∧
      (∀ before these those after, patterns = before ++ these ++ after → these.Perm those →
        Glob.SameSign these → w.digest? (before ++ those ++ after) = w.digest? patterns) := by
  obtain ⟨selected, h⟩ := exists_select.2 readable
  have digest := digest_eq present h
  -- The digest depends on the list by what it includes alone, once all its patterns can be read.
  have congr {others : List String} (same : ∀ pattern, pattern ∈ others ↔ pattern ∈ patterns)
      (included : ∀ p, w.Included others p ↔ w.Included patterns p) :
      w.digest? others = w.digest? patterns := by
    have h' := select_congr h (fun pattern mem => readable pattern ((same pattern).1 mem)) included
    rw [digest, digest_eq present h']
  refine ⟨selected, h, fun p => mem_select h, fun p hp => ?_, pairwise_select h, digest, ?_, ?_, ?_⟩
  · exact Option.isSome_iff_exists.1 (select_contents h p hp)
  · simp only [digest, ← mem_select h, ← List.eq_nil_iff_forall_not_mem]
    split
    · next none => exact iff_of_true rfl none
    · next some_ =>
      exact iff_of_false (fun empty => hexText_digest_ne_empty _ (Option.some.inj (Except.ok.inj empty))) some_
  · rintro before pattern after rfl
    apply congr
    · simp
    · intro p
      have sign : Glob.SameSign [pattern] := by
        cases written : Glob.isExclusion pattern with
        | true => exact .inl (List.forall_mem_singleton.2 written)
        | false => exact .inr (List.forall_mem_singleton.2 written)
      have row : w.Included (before ++ [pattern] ++ after) p ↔
          w.Included (before ++ [pattern, pattern] ++ after) p :=
        included_congr sign (by simp) before after
      simpa using row.symm
  · rintro before these those after rfl perm sign
    apply congr
    · intro q
      simp only [List.mem_append, perm.mem_iff]
    · intro p
      exact (included_congr sign (fun q => perm.mem_iff) before after).symm

/-- A file that is taken out stays selected under the name of a link to it, also when it is taken out twice. -/
theorem digest_last_match_link :
    let w : Workspace :=
      ⟨⟨[(["ws", "a"], .file [1]), (["ws", "b"], .file [2]), (["ws", "c"], .link "a")]⟩, ["ws"]⟩
    let patterns := ["!b", "*", "!a"]
    w.isDirectory [] = true ∧ (∀ pattern ∈ patterns, ∃ found, w.matched pattern = .ok found) ∧
      w.select patterns = .ok [["b"], ["c"]] ∧ w.Included patterns ["c"] ∧
      w.digest? ["!b", "*", "!a", "!a"] = w.digest? patterns := by
  intro w patterns
  have present : w.isDirectory [] = true := by cbv
  have readable : ∀ pattern ∈ patterns, ∃ found, w.matched pattern = .ok found :=
    List.forall_mem_cons.2 ⟨⟨[["b"]], by cbv⟩, List.forall_mem_cons.2 ⟨⟨[["a"], ["b"], ["c"]], by cbv⟩,
      List.forall_mem_singleton.2 ⟨[["a"]], by cbv⟩⟩⟩
  have found : w.select patterns = .ok [["b"], ["c"]] := by cbv
  obtain ⟨selected, selects, included, -, -, -, -, repeated, -⟩ := digest_last_match present readable
  obtain rfl := Except.ok.inj (selects.symm.trans found)
  exact ⟨present, readable, found, (included ["c"]).1 (by decide), repeated ["!b", "*"] "!a" [] rfl⟩

end Workspace

end WorkflowExpr
