import WorkflowExpr.Proofs.Workspace.LastMatch
import WorkflowExpr.Proofs.Workspace.Linkless
import WorkflowExpr.Proofs.Workspace.Pattern

/-!
# Everything below a directory

The pattern for everything below a directory goes down to the directory by its names, on to any directory at or
below it, and on to any name there. In a workspace without links it matches the files strictly below the
directory, at every depth, and as an exclusion it takes these files out of any selection.
-/

namespace WorkflowExpr

/-- Whether one path goes on from another one. -/
def Path.isBelow (d p : Path) : Bool :=
  d.isPrefixOf p && p != d

/-- A path is below another one when it goes on with one name at least. -/
lemma Path.isBelow_iff {d p : Path} : d.isBelow p = true ↔ ∃ way, way ≠ [] ∧ p = d ++ way := by
  rw [isBelow, Bool.and_eq_true, List.isPrefixOf_iff_prefix, bne_iff_ne]
  constructor
  · rintro ⟨⟨way, rfl⟩, other⟩
    exact ⟨way, fun top => other (by rw [top, List.append_nil]), rfl⟩
  · rintro ⟨way, below, rfl⟩
    exact ⟨List.prefix_append d way, fun same => below (List.append_right_eq_self.1 same)⟩

/-- The names of a path that stays inside are steps down. -/
lemma Path.down_of_mem {text name : String} (inside : ".." ∉ ofText text) (mem : name ∈ ofText text) :
    StepsDown name := by
  have names := of_decide_eq_true (List.mem_filter.1 mem).2
  refine ⟨names.1, names.2, ?_⟩
  rintro rfl
  exact inside mem

namespace Glob

/-- Any name fits a star. -/
lemma fits_any (cs : List Char) : fits [.any] cs = true := by
  have tail : someTail (fits []) cs = true := by
    induction cs with
    | nil => rfl
    | cons c cs ih => rw [someTail, ih, Bool.or_true]
  exact tail

/-- The names that a pattern looks up as they are written are steps down. -/
lemma down_of_ofText {text name : String} {steps : List Step} (h : ofText? text = some steps)
    (mem : .name name ∈ steps) : StepsDown name := by
  rw [ofText?] at h
  split at h
  · cases h
  · next relative =>
    cases h
    obtain ⟨part, mem, step⟩ : ∃ part ∈ Path.ofText text, Step.ofText part = .name name := by
      split at mem
      · simpa [ofText_star] using mem
      · simpa using mem
    obtain rfl := name_of_step step
    exact Path.down_of_mem (fun outside => relative (.inr (.inr outside))) mem

/-- The names of a literal path are steps down. -/
lemma IsLiteral.down {d : String} (h : IsLiteral d) : ∀ name ∈ Path.ofText d, StepsDown name :=
  fun _ => Path.down_of_mem h.inside

end Glob

namespace Workspace

variable {w : Workspace} {here p : Path} {d : String}

/-- What is listed for a path is listed for a place. -/
lemma exists_place {α : Type} (list : Path → List α) {x : α}
    (h : x ∈ (w.reach? here).elim [] fun found => list found.1) : ∃ place, x ∈ list place := by
  cases reached : w.reach? here with
  | none =>
    rw [reached] at h
    cases h
  | some found =>
    rw [reached] at h
    exact ⟨found.1, h⟩

/-- A pattern goes through the names of a directory to the directory. -/
lemma paths_names {names : Path} (accepted : ∀ front, front <+: names → w.refuses (here ++ front) = false)
    (through : ∀ front, front <+: names → w.isDirectory (here ++ front) = true) {rest : List Glob.Step}
    (more : rest ≠ []) : w.paths (names.map .name ++ rest) here = w.paths rest (here ++ names) := by
  induction names generalizing here with
  | nil => rw [List.map_nil, List.nil_append, List.append_nil]
  | cons name names ih =>
    have first := accepted [name] (List.prefix_append [name] names)
    have further : (names.map Glob.Step.name ++ rest).isEmpty = false := by simp [more]
    have enter : w.continues (here ++ [name]) (names.map .name ++ rest) = true := by
      rw [continues, further]
      exact through [name] (List.prefix_append [name] names)
    have behind {P : Path → Prop} (all : ∀ front, front <+: name :: names → P (here ++ front)) :
        ∀ front, front <+: names → P (here ++ [name] ++ front) := by
      intro front before
      rw [List.append_assoc]
      exact all (name :: front) ((List.prefix_cons_inj name).2 before)
    rw [List.map_cons, List.cons_append, paths, if_neg (Bool.eq_false_iff.1 first), if_pos enter,
      ih (behind (P := fun p => w.refuses p = false) accepted) (behind (P := fun p => w.isDirectory p = true) through),
      List.append_assoc, List.singleton_append]

/-- The pattern for everything below a directory, as an exclusion, takes out what it matches. -/
lemma exclude_below (d : String) :
    Glob.isExclusion ("!" ++ Glob.below d) = true ∧ w.matched ("!" ++ Glob.below d) = w.files (Glob.below d) := by
  have written : ("!" ++ Glob.below d).toList = '!' :: (Glob.below d).toList := by
    rw [String.toList_append]
    rfl
  have sign : Glob.isExclusion ("!" ++ Glob.below d) = true := by
    rw [Glob.isExclusion, written]
    rfl
  refine ⟨sign, ?_⟩
  rw [matched, Glob.remainder, if_pos sign, written, List.drop_succ_cons, List.drop_zero, String.ofList_toList]

/-- The pattern for everything below a directory is an inclusion when the text of the directory has no sign. -/
lemma include_below {d : String} (unsigned : Glob.isExclusion d = false) :
    Glob.isExclusion (Glob.below d) = false := by
  rw [Glob.below]
  split
  · rfl
  · next nonempty =>
    rw [Glob.isExclusion] at unsigned ⊢
    rw [String.toList_append, String.toList_append]
    cases written : d.toList with
    | nil => exact absurd (String.toList_eq_nil_iff.1 written) nonempty
    | cons =>
      rw [written] at unsigned
      exact unsigned

section Down

variable (named : w.tree.WellNamed)

include named

/-- The names on the way to something in the workspace are steps down. -/
lemma down_of_at {entry : Entry} (stands : w.tree.at? (w.root ++ p) = some entry) :
    ∀ name ∈ p, StepsDown name :=
  fun name mem => (named.of_at stands name (List.mem_append_right w.root mem)).toStepsDown

/-- The steps of a pattern lead down when the names that it looks up do. -/
lemma paths_down {steps : List Glob.Step} (looked : ∀ name, .name name ∈ steps → StepsDown name) {ps : List Path}
    (down : ∀ name ∈ here, StepsDown name) (h : w.paths steps here = .ok ps) :
    ∀ p ∈ ps, ∀ name ∈ p, StepsDown name := by
  induction steps generalizing here ps with
  | nil =>
    cases h
    exact List.forall_mem_singleton.2 down
  | cons step rest ih =>
    -- Each step goes on with the names that it adds to the way.
    have on {way : Path} {ps : List Path} (further : ∀ name ∈ way, StepsDown name)
        (h : w.paths rest (here ++ way) = .ok ps) : ∀ p ∈ ps, ∀ name ∈ p, StepsDown name :=
      ih (fun name mem => looked name (List.mem_cons_of_mem step mem))
        (List.forall_mem_append.2 ⟨down, further⟩) h
    cases step with
    | name name =>
      rw [paths] at h
      split at h
      · cases h
      · split at h
        · exact on (List.forall_mem_singleton.2 (looked name (List.mem_cons_self ..))) h
        · cases h
          exact List.forall_mem_nil _
    | fitting pattern =>
      rw [paths] at h
      intro p mem
      obtain ⟨name, listed, qs, found, mem⟩ := (mem_gathered h).1 mem
      split at found
      · cases found
      · split at found
        · obtain ⟨place, listed⟩ := exists_place w.tree.names listed
          exact on (List.forall_mem_singleton.2 (named.of_mem_names listed).toStepsDown) found p mem
        · cases found
          cases mem
    | anyDepth =>
      rw [paths] at h
      intro p mem
      obtain ⟨way, listed, qs, found, mem⟩ := (mem_gathered h).1 mem
      obtain ⟨place, listed⟩ := exists_place w.tree.directoriesBelow listed
      have names := named.of_at (FileTree.mem_directoriesBelow.1 listed)
      exact on (fun name mem => (names name (List.mem_append_right place mem)).toStepsDown) found p mem

/-- What a pattern of a list matches is below the workspace. -/
lemma down_of_matches {pattern : String} (h : w.Matches pattern p) : ∀ name ∈ p, StepsDown name := by
  obtain ⟨found, files, mem⟩ := h
  rw [matched, Workspace.files] at files
  split at files
  · cases files
    cases mem
  · next steps read =>
    obtain ⟨ps, paths, among⟩ := bind_eq_ok.1 files
    obtain ⟨-, rfl⟩ := filesAmong_eq_ok.1 among
    exact paths_down named (fun name => Glob.down_of_ofText read) (List.forall_mem_nil _) paths p
      (List.mem_filter.1 mem).1

end Down

section Linkless

variable (named : w.tree.WellNamed) (linkless : w.tree.Linkless w.root)

include named linkless

/-- What a directory is reached as. -/
lemma reach_directory (dir : w.tree.at? (w.root ++ here) = some .directory) :
    w.reach? here = some (w.root ++ here, .directory) := by
  rw [reach?, linkless.reach (down_of_at named dir), dir]
  rfl

/-- A star at the end of a pattern stands for each name in a directory. -/
lemma paths_anyName (dir : w.tree.at? (w.root ++ here) = some .directory) :
    ∃ ps, w.paths [.fitting [.any]] here = .ok ps ∧
      ∀ p, p ∈ ps ↔ ∃ name ∈ w.tree.names (w.root ++ here), p = here ++ [name] := by
  simp only [paths, reach_directory named linkless dir, Option.elim_some, Glob.fits_any, List.isEmpty_nil,
    true_or, and_self, if_true]
  obtain ⟨ps, found⟩ := exists_gathered (f := fun name => .ok [here ++ [name]])
    fun name (_ : name ∈ w.tree.names (w.root ++ here)) => ⟨_, rfl⟩
  refine ⟨ps, found, fun p => ?_⟩
  rw [mem_gathered found]
  simp

/-- Two stars and one at the end of a pattern stand for each name in each directory below. -/
lemma paths_anyDepth (dir : w.tree.at? (w.root ++ here) = some .directory) :
    ∃ ps, w.paths [.anyDepth, .fitting [.any]] here = .ok ps ∧
      ∀ p, p ∈ ps ↔ ∃ way, w.tree.at? (w.root ++ (here ++ way)) = some .directory ∧
        ∃ name ∈ w.tree.names (w.root ++ (here ++ way)), p = here ++ way ++ [name] := by
  have below {way : Path} : way ∈ w.tree.directoriesBelow (w.root ++ here) ↔
      w.tree.at? (w.root ++ (here ++ way)) = some .directory := by
    rw [FileTree.mem_directoriesBelow, List.append_assoc]
  rw [paths, reach_directory named linkless dir, Option.elim_some]
  obtain ⟨ps, found⟩ := exists_gathered (f := fun way => w.paths [.fitting [.any]] (here ++ way))
    fun way (mem : way ∈ w.tree.directoriesBelow (w.root ++ here)) =>
      (paths_anyName named linkless (below.1 mem)).imp fun _ => And.left
  refine ⟨ps, found, fun p => ?_⟩
  rw [mem_gathered found]
  constructor
  · rintro ⟨way, mem, qs, hqs, hp⟩
    obtain ⟨qs', hqs', members⟩ := paths_anyName named linkless (below.1 mem)
    obtain rfl := Except.ok.inj (hqs.symm.trans hqs')
    exact ⟨way, below.1 mem, (members p).1 hp⟩
  · rintro ⟨way, dir', inside⟩
    obtain ⟨qs, hqs, members⟩ := paths_anyName named linkless dir'
    exact ⟨way, below.2 dir', qs, hqs, (members p).2 inside⟩

/-- The pattern for everything below a directory finds the files strictly below it. -/
lemma files_below (literal : Glob.IsLiteral d) (dir : w.isDirectory (Path.ofText d) = true) :
    ∃ found, w.files (Glob.below d) = .ok found ∧
      ∀ p, p ∈ found ↔ (Path.ofText d).isBelow p = true ∧
        ∃ bytes, w.tree.at? (w.root ++ p) = some (.file bytes) := by
  have place := (isDirectory_iff linkless literal.down).1 dir
  have accepted : ∀ front, front <+: Path.ofText d → w.refuses ([] ++ front) = false := by
    intro front before
    rw [List.nil_append]
    exact refuses_eq_false linkless fun name mem =>
      named.of_at place name (List.mem_append_right w.root (before.subset mem))
  have through : ∀ front, front <+: Path.ofText d → w.isDirectory ([] ++ front) = true := by
    intro front before
    rw [List.nil_append]
    exact isDirectory_above linkless before literal.down dir
  obtain ⟨ps, found, members⟩ := paths_anyDepth named linkless place
  -- All that the pattern comes to is listed in some directory, so it has file names only.
  have filed : ∀ p ∈ ps, ∀ name ∈ p, IsFileName name := by
    intro p mem
    obtain ⟨way, dir', name, listed, rfl⟩ := (members p).1 mem
    exact List.forall_mem_append.2
      ⟨fun n mem => named.of_at dir' n (List.mem_append_right w.root mem),
        List.forall_mem_singleton.2 (named.of_mem_names listed)⟩
  refine ⟨ps.filter fun p => (w.contents? p).isSome, ?_, fun p => ?_⟩
  · rw [files, Glob.ofText_below_eq literal]
    dsimp only
    rw [paths_names accepted through (List.cons_ne_nil _ _), List.nil_append, found]
    exact filesAmong_eq_ok.2 ⟨fun p mem => refuses_eq_false linkless (filed p mem), rfl⟩
  · rw [List.mem_filter, Path.isBelow_iff]
    constructor
    · rintro ⟨mem, file⟩
      refine ⟨?_, (contents_iff linkless fun name mem' => (filed p mem name mem').toStepsDown).1 file⟩
      obtain ⟨way, -, name, -, rfl⟩ := (members p).1 mem
      exact ⟨way ++ [name], by simp, List.append_assoc ..⟩
    · rintro ⟨⟨way, below, rfl⟩, bytes, stands⟩
      refine ⟨(members _).2 ?_, (contents_iff linkless (down_of_at named stands)).2 ⟨bytes, stands⟩⟩
      obtain rfl | ⟨front, name, rfl⟩ := List.eq_nil_or_concat' way
      · exact absurd rfl below
      · -- The directory that the file stands in is listed among those at any depth.
        have split : w.root ++ (Path.ofText d ++ (front ++ [name])) =
            w.root ++ (Path.ofText d ++ front) ++ [name] := by
          simp
        rw [split] at stands
        exact ⟨front, FileTree.at_above stands (List.cons_ne_nil name []), name, FileTree.mem_names_of_at stands,
          (List.append_assoc ..).symm⟩

/-- A last pattern that excludes everything below a directory takes the files there out of the selection. -/
lemma select_exclude_below (literal : Glob.IsLiteral d) (dir : w.isDirectory (Path.ofText d) = true)
    (patterns : List String) :
    w.select (patterns ++ ["!" ++ Glob.below d]) =
      (w.select patterns).map (List.filter fun p => !(Path.ofText d).isBelow p) := by
  obtain ⟨gone, found, members⟩ := files_below named linkless literal dir
  obtain ⟨sign, matched⟩ := exclude_below (w := w) d
  rw [← matched] at found
  cases selects : w.select patterns with
  | error e =>
    rw [select] at selects ⊢
    rw [List.foldlM_append]
    obtain failed | ⟨_, -, ⟨⟩⟩ := bind_eq_error.1 selects
    rw [failed]
    rfl
  | ok selected =>
    have readable : ∀ pattern ∈ patterns ++ ["!" ++ Glob.below d], ∃ found, w.matched pattern = .ok found :=
      List.forall_mem_append.2
        ⟨exists_select.1 ⟨selected, selects⟩, List.forall_mem_singleton.2 ⟨gone, found⟩⟩
    obtain ⟨left, selects'⟩ := exists_select.2 readable
    have ordered := (pairwise_select selects).filter fun p => !(Path.ofText d).isBelow p
    rw [selects']
    refine congrArg Except.ok (List.Pairwise.eq_of_mem_iff (pairwise_select selects') ordered fun p => ?_)
    have none : ¬ w.Included ["!" ++ Glob.below d] p :=
      not_included_of_exclusions (List.forall_mem_singleton.2 sign)
    rw [List.mem_filter, Bool.not_eq_true', mem_select selects', included_append, or_iff_right none,
      ← mem_select selects, List.forall_mem_singleton]
    refine and_congr_right fun mem => ?_
    -- What earlier patterns select is a file at its place, so below the directory it is matched.
    have file : ∃ bytes, w.tree.at? (w.root ++ p) = some (.file bytes) := by
      obtain ⟨_, pattern, _, -, matches_, -⟩ := (mem_select selects).1 mem
      exact (contents_iff linkless (down_of_matches named matches_)).1 (select_contents selects p mem)
    have hits : w.Matches ("!" ++ Glob.below d) p ↔ (Path.ofText d).isBelow p = true := by
      simp only [Matches, found, Except.ok.injEq, exists_eq_left', members, file, and_true]
    rw [hits, Bool.not_eq_true]

end Linkless

/-- Where there are no links, two stars behind a directory match the files strictly below it, at every depth, and
as an exclusion they take these files out of what the patterns before them select, and no others. Within a name a
run of stars matches what a single star does. -/
theorem trailing_stars (w : Workspace) :
    (w.tree.WellNamed → w.tree.Linkless w.root → ∀ d, Glob.IsLiteral d → Glob.isExclusion d = false →
      w.isDirectory (Path.ofText d) = true →
        (∃ found, w.matched (Glob.below d) = .ok found ∧
          ∀ p, p ∈ found ↔ (Path.ofText d).isBelow p = true ∧
            ∃ bytes, w.tree.at? (w.root ++ p) = some (.file bytes)) ∧
        ∀ patterns, w.select (patterns ++ ["!" ++ Glob.below d]) =
          (w.select patterns).map (List.filter fun p => !(Path.ofText d).isBelow p)) ∧
      ∀ text folded, Glob.FoldsRun text folded → w.files text = w.files folded := by
  constructor
  · intro named linkless d literal unsigned dir
    constructor
    · have inclusion : w.matched (Glob.below d) = w.files (Glob.below d) := by
        rw [matched, Glob.remainder, if_neg (Bool.eq_false_iff.1 (include_below unsigned))]
      rw [inclusion]
      exact files_below named linkless literal dir
    · exact select_exclude_below named linkless literal dir
  · intro text folded folds
    rw [files, files, folds.ofText_eq]

/-- The files below a directory are taken out at every depth, and one beside it stays. -/
theorem trailing_stars_directory :
    let w : Workspace :=
      ⟨⟨[(["ws", "a", "b", "x"], .file [1]), (["ws", "a", "y"], .file [2]), (["ws", "c"], .file [3])]⟩, ["ws"]⟩
    w.tree.WellNamed ∧ w.tree.Linkless w.root ∧ Glob.IsLiteral "a" ∧ Glob.isExclusion "a" = false ∧
      w.isDirectory (Path.ofText "a") = true ∧ Glob.FoldsRun "**/x**" "**/x*" ∧
      w.select (["**"] ++ ["!a/**"]) = .ok [["c"]] ∧ w.files "**/x**" = w.files "**/x*" := by
  intro w
  have named : w.tree.WellNamed := by decide
  have linkless : w.tree.Linkless w.root := FileTree.linkless_of_entries (by simp [w]) w.root
  have literal : Glob.IsLiteral "a" := ⟨rfl, by decide, by simp [Glob.isWild]⟩
  have unsigned : Glob.isExclusion "a" = false := rfl
  have dir : w.isDirectory (Path.ofText "a") = true := by cbv
  have folds : Glob.FoldsRun "**/x**" "**/x*" :=
    ⟨["**"], [], ['x'], 0, [], by decide, by decide, by decide, by decide, by decide⟩
  have all : w.select ["**"] = .ok [["a", "b", "x"], ["a", "y"], ["c"]] := by cbv
  obtain ⟨below, runs⟩ := trailing_stars w
  have left := (below named linkless "a" literal unsigned dir).2 ["**"]
  rw [all] at left
  exact ⟨named, linkless, literal, unsigned, dir, folds, left, runs _ _ folds⟩

end Workspace

end WorkflowExpr
