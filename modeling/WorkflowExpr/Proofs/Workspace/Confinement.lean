import WorkflowExpr.Proofs.Distinct
import WorkflowExpr.Proofs.Result
import WorkflowExpr.Workspace.Selection
import Mathlib.Data.String.Basic

/-!
# Confinement to the workspace

Two worlds may differ in what the files outside of a workspace hold, as long as all names, directories
and links are the same. Then links lead to the same places, patterns match the same paths, and a path is
selected in both worlds or in none, for what is selected really stands in the workspace. So every list of
patterns has the same digest in both.
-/

namespace WorkflowExpr

/-- What two trees hold at a place: the same, or two files outside of a directory. -/
inductive Entry.Alike (root place : Path) : Option Entry → Option Entry → Prop where
  | same {x} :
    Alike root place x x
  | outside {a b} :
    ¬ root.isPrefixOf place →
    Alike root place (some (.file a)) (some (.file b))

namespace Entry.Alike

variable {root place : Path} {x y : Option Entry}

/-- Alike entries are directories at the same places. -/
lemma directory (h : Alike root place x y) : x = some .directory ↔ y = some .directory := by
  cases h with
  | same => exact Iff.rfl
  | outside => exact ⟨nofun, nofun⟩

/-- Alike entries are the same links. -/
lemma link (h : Alike root place x y) {target : String} :
    x = some (.link target) ↔ y = some (.link target) := by
  cases h with
  | same => exact Iff.rfl
  | outside => exact ⟨nofun, nofun⟩

/-- Where one of two alike entries is missing, so is the other one. -/
lemma nothing (h : Alike root place x y) : x = none ↔ y = none := by
  cases h with
  | same => exact Iff.rfl
  | outside => exact ⟨nofun, nofun⟩

/-- Beside something that is no link there is something that is none. -/
lemma passable {e : Entry} (h : Alike root place (some e) y) (noLink : ∀ target, e ≠ .link target) :
    ∃ f, y = some f ∧ ∀ target, f ≠ .link target := by
  cases h with
  | same => exact ⟨e, rfl, noLink⟩
  | @outside _ b => exact ⟨.file b, rfl, nofun⟩

/-- Alike entries stay alike when the same is put in the place of missing ones. -/
lemma or (h : Alike root place x y) (z : Option Entry) : Alike root place (x.or z) (y.or z) := by
  cases h with
  | same => exact .same
  | outside out => exact .outside out

end Entry.Alike

namespace FileTree

/-- Two trees with the same names, directories and links everywhere, and the same files in and below a
directory. -/
structure Alike (root : Path) (t₁ t₂ : FileTree) : Prop where
  names : ∀ place name, name ∈ t₁.names place ↔ name ∈ t₂.names place
  entries : ∀ place, Entry.Alike root place (t₁.at? place) (t₂.at? place)

/-- Where something stands, the tree has an entry at or below the place, if it is not the top. -/
lemma exists_entry {t : FileTree} {place : Path} {entry : Entry} (h : t.at? place = some entry) :
    place = [] ∨ ∃ p e, (p, e) ∈ t.entries ∧ place.isPrefixOf p := by
  unfold at? at h
  split at h
  · cases h
  · split at h
    · next p e found =>
      have mem := List.mem_of_find?_eq_some found
      have same : p = place := by simpa using List.find?_some found
      exact .inr ⟨p, e, mem, by simp [same]⟩
    · split at h
      · next some_ =>
        obtain top | below := some_
        · exact .inl top
        · obtain ⟨⟨p, e⟩, mem, below⟩ := List.any_eq_true.1 below
          exact .inr ⟨p, e, mem, below⟩
      · cases h

/-- The directories below a place are all those that there are. -/
lemma mem_directoriesBelow {t : FileTree} {place way : Path} :
    way ∈ t.directoriesBelow place ↔ t.at? (place ++ way) = some .directory := by
  have directory (x : Option Entry) : x.any Entry.isDirectory = true ↔ x = some .directory := by
    cases x with
    | none => exact ⟨nofun, nofun⟩
    | some entry => cases entry <;> simp [Entry.isDirectory]
  rw [directoriesBelow, List.mem_filter, List.mem_eraseDups, directory]
  constructor
  · exact And.right
  · intro h
    refine ⟨?_, h⟩
    cases exists_entry h with
    | inl top =>
      rw [(List.append_eq_nil_iff.1 top).2]
      exact List.mem_cons_self ..
    | inr below =>
      obtain ⟨p, e, mem, below⟩ := below
      obtain ⟨rest, rfl⟩ := List.isPrefixOf_iff_prefix.1 below
      apply List.mem_cons_of_mem
      refine List.mem_flatMap.2 ⟨_, mem, ?_⟩
      dsimp only
      rw [if_pos (List.isPrefixOf_iff_prefix.2 ⟨way ++ rest, (List.append_assoc ..).symm⟩)]
      refine List.mem_map.2 ⟨way.length, ?_, by simp⟩
      simp only [List.mem_range, List.length_append]
      omega

variable {root : Path} {t₁ t₂ : FileTree}

/-- Two entries at one place of which each may take the place of the other. -/
def Interchangeable (root : Path) (e f : Path × Entry) : Prop :=
  e.1 = f.1 ∧ Entry.Alike root e.1 (some e.2) (some f.2)

section Entries

variable {es fs : List (Path × Entry)}

/-- Interchangeable entries block the same places. -/
lemma isBlocked_congr (h : List.Forall₂ (Interchangeable root) es fs) (place : Path) :
    isBlocked ⟨es⟩ place = isBlocked ⟨fs⟩ place := by
  unfold isBlocked
  induction h with
  | nil => rfl
  | @cons e f _ _ first _ ih =>
    obtain ⟨p, e⟩ := e
    obtain ⟨q, f⟩ := f
    obtain ⟨rfl, alike⟩ := first
    have kind : e.isDirectory = f.isDirectory := by
      cases alike with
      | same => rfl
      | outside => rfl
    simp only [List.any_cons, kind]
    exact congrArg _ ih

/-- Interchangeable entries are found at the same places. -/
lemma find_alike (h : List.Forall₂ (Interchangeable root) es fs) (place : Path) :
    Entry.Alike root place ((es.find? fun e => e.1 == place).map (·.2))
      ((fs.find? fun e => e.1 == place).map (·.2)) := by
  induction h with
  | nil => exact .same
  | @cons e f _ _ first _ ih =>
    obtain ⟨p, e⟩ := e
    obtain ⟨q, f⟩ := f
    obtain ⟨rfl, alike⟩ := first
    by_cases here : p = place
    · subst here
      simpa using alike
    · simpa [here] using ih

/-- Trees are alike when their entries are, one by one. -/
lemma Alike.of_entries (h : List.Forall₂ (Interchangeable root) es fs) : Alike root ⟨es⟩ ⟨fs⟩ := by
  -- Entries that are alike have the same paths, which tell the names and the directories in between.
  have paths : es.map Prod.fst = fs.map Prod.fst := by
    induction h with
    | nil => rfl
    | cons first _ ih => rw [List.map_cons, List.map_cons, first.1, ih]
  constructor
  · intro place name
    have names_eq (es : List (Path × Entry)) :
        FileTree.names ⟨es⟩ place = ((es.map Prod.fst).filterMap fun p =>
          if place.isPrefixOf p then (p.drop place.length).head? else none).eraseDups := by
      rw [List.filterMap_map]
      rfl
    rw [names_eq, names_eq, paths]
  · intro place
    have any_eq (es : List (Path × Entry)) :
        (es.any fun entry => place.isPrefixOf entry.1) = (es.map Prod.fst).any place.isPrefixOf := by
      rw [List.any_map]
      rfl
    have at_eq (es : List (Path × Entry)) :
        at? ⟨es⟩ place =
          if isBlocked ⟨es⟩ place then none
          else ((es.find? fun e => e.1 == place).map (·.2)).or
            (if place = [] ∨ (es.map Prod.fst).any place.isPrefixOf then some .directory else none) := by
      unfold at?
      rw [← any_eq]
      split
      · rfl
      · cases es.find? fun e => e.1 == place <;> rfl
    rw [at_eq, at_eq, isBlocked_congr h, paths]
    split
    · exact .same
    · exact (find_alike h place).or _

end Entries

/-- By induction on the names and links that are left: files are all the same to a way that goes on. -/
lemma Alike.follow (h : Alike root t₁ t₂) (links : Nat) (place : Path) (names : Path) :
    t₁.follow links place names = t₂.follow links place names := by
  fun_induction FileTree.follow t₁ links place names with
  -- The cases are those of the walk through the first tree; the second finds the same at each place.
  | case1 => rw [FileTree.follow]
  | case2 links place name rest dir stays ih =>
    rw [FileTree.follow, (h.entries _).directory.1 dir, ih]
    simp only [if_pos stays]
  | case3 links place rest dir stays ih =>
    rw [FileTree.follow, (h.entries _).directory.1 dir, ih]
    simp only [if_neg stays, if_true]
  | case4 place name rest dir stays up target link =>
    rw [FileTree.follow, (h.entries _).directory.1 dir]
    simp only [if_neg stays, if_neg up, (h.entries _).link.1 link]
  | case5 place name rest dir stays up target link links start ih =>
    rw [FileTree.follow, (h.entries _).directory.1 dir, ih]
    simp only [if_neg stays, if_neg up, (h.entries _).link.1 link]
    rfl
  | case6 links place name rest dir stays up entry noLink found ih =>
    obtain ⟨other, found', noLink'⟩ := (found ▸ h.entries (place ++ [name])).passable noLink
    rw [FileTree.follow, (h.entries _).directory.1 dir, ih]
    simp only [if_neg stays, if_neg up, found']
  | case7 links place name rest dir stays up nothing =>
    rw [FileTree.follow, (h.entries _).directory.1 dir]
    simp only [if_neg stays, if_neg up, (h.entries _).nothing.1 nothing]
  | case8 links place name rest noDir =>
    rw [FileTree.follow]
    split
    · next dir => exact absurd ((h.entries _).directory.2 dir) noDir
    · rfl

/-- A way meets a name that is too long in both trees or in none, for it takes the same links. -/
lemma Alike.meetsOverlong (h : Alike root t₁ t₂) (links : Nat) (place : Path) (names : Path) :
    t₁.meetsOverlong links place names = t₂.meetsOverlong links place names := by
  fun_induction FileTree.meetsOverlong t₁ links place names with
  | case1 => rw [FileTree.meetsOverlong]
  | case2 links place name rest dir stays ih =>
    rw [FileTree.meetsOverlong, (h.entries _).directory.1 dir, ih]
    simp only [if_pos stays]
  | case3 links place rest dir stays ih =>
    rw [FileTree.meetsOverlong, (h.entries _).directory.1 dir, ih]
    simp only [if_neg stays, if_true]
  | case4 links place name rest dir stays up long =>
    rw [FileTree.meetsOverlong, (h.entries _).directory.1 dir]
    simp only [if_neg stays, if_neg up, if_pos long]
  | case5 place name rest dir stays up short target link =>
    rw [FileTree.meetsOverlong, (h.entries _).directory.1 dir]
    simp only [if_neg stays, if_neg up, if_neg short, (h.entries _).link.1 link]
  | case6 place name rest dir stays up short target link links start ih =>
    rw [FileTree.meetsOverlong, (h.entries _).directory.1 dir, ih]
    simp only [if_neg stays, if_neg up, if_neg short, (h.entries _).link.1 link]
    rfl
  | case7 links place name rest dir stays up short entry noLink found ih =>
    obtain ⟨other, found', noLink'⟩ := (found ▸ h.entries (place ++ [name])).passable noLink
    rw [FileTree.meetsOverlong, (h.entries _).directory.1 dir, ih]
    simp only [if_neg stays, if_neg up, if_neg short, found']
  | case8 links place name rest dir stays up short nothing =>
    rw [FileTree.meetsOverlong, (h.entries _).directory.1 dir]
    simp only [if_neg stays, if_neg up, if_neg short, (h.entries _).nothing.1 nothing]
  | case9 links place name rest noDir =>
    rw [FileTree.meetsOverlong]
    split
    · next dir => exact absurd ((h.entries _).directory.2 dir) noDir
    · rfl

/-- A path is refused in both trees or in none. -/
lemma Alike.refuses (h : Alike root t₁ t₂) (place : Path) (text : String) :
    t₁.refuses place text = t₂.refuses place text := by
  rw [FileTree.refuses, FileTree.refuses, h.meetsOverlong]

/-- Names lead to the same, or to two files outside. -/
lemma Alike.reach (h : Alike root t₁ t₂) (place : Path) (names : Path) :
    t₁.reach? place names = t₂.reach? place names ∨ ∃ found a b, ¬ root.isPrefixOf found ∧
      t₁.reach? place names = some (found, .file a) ∧
      t₂.reach? place names = some (found, .file b) := by
  rw [reach?, reach?, h.follow]
  cases t₂.follow linkLimit place names with
  | none => exact .inl rfl
  | some found =>
    simp only [Option.bind_some]
    have alike := h.entries found
    generalize t₁.at? found = x at alike
    generalize t₂.at? found = y at alike
    cases alike with
    | same => exact .inl rfl
    | @outside a b out => exact .inr ⟨found, a, b, out, rfl, rfl⟩

end FileTree

/-- The paths that two searches find are the same, in any order and any number, or both fail. -/
inductive SamePaths : Except NameTooLong (List Path) → Except NameTooLong (List Path) → Prop where
  | failed {e f} :
    SamePaths (.error e) (.error f)
  | found {ps qs} :
    (∀ p, p ∈ ps ↔ p ∈ qs) →
    SamePaths (.ok ps) (.ok qs)

/-- What a search in several directions comes to. -/
inductive Gathered {α : Type} (xs : List α) (f : α → Except NameTooLong (List Path)) :
    Except NameTooLong (List Path) → Prop where
  | failed {x e e'} :
    x ∈ xs →
    f x = .error e →
    Gathered xs f (.error e')
  | found {ps} :
    (∀ x ∈ xs, ∃ qs, f x = .ok qs) →
    (∀ p, p ∈ ps ↔ ∃ x ∈ xs, ∃ qs, f x = .ok qs ∧ p ∈ qs) →
    Gathered xs f (.ok ps)

/-- A search in several directions fails in one of them or finds what is found in each. -/
lemma gathered {α : Type} (xs : List α) (f : α → Except NameTooLong (List Path)) :
    Gathered xs f (do let found ← xs.mapM f; return found.flatten) := by
  induction xs with
  | nil =>
    apply Gathered.found
    · exact List.forall_mem_nil _
    · simp
  | cons x xs ih =>
    rw [List.mapM_cons]
    cases hx : f x with
    | error e => exact .failed (List.mem_cons_self ..) hx
    | ok qs =>
      cases hxs : xs.mapM f with
      | error e =>
        rw [hxs] at ih
        cases ih with
        | failed hy fails => exact .failed (List.mem_cons_of_mem _ hy) fails
      | ok found =>
        rw [hxs] at ih
        cases ih with
        | found all members =>
          apply Gathered.found
          · exact List.forall_mem_cons.2 ⟨⟨qs, hx⟩, all⟩
          · intro p
            rw [List.flatten_cons, List.mem_append, members]
            simp [hx]

section Search

variable {α : Type} {xs : List α} {f : α → Except NameTooLong (List Path)}

/-- A search in several directions comes to an end when each of them does. -/
lemma exists_gathered (h : ∀ x ∈ xs, ∃ ps, f x = .ok ps) :
    ∃ ps, (do let found ← xs.mapM f; return found.flatten) = .ok ps := by
  have search := gathered xs f
  generalize (do let found ← xs.mapM f; return found.flatten) = r at search
  cases search with
  | failed mem fails =>
    obtain ⟨ps, found⟩ := h _ mem
    cases found.symm.trans fails
  | @found ps => exact ⟨ps, rfl⟩

/-- What a search in several directions finds is found in one of them. -/
lemma mem_gathered {ps : List Path} (h : (do let found ← xs.mapM f; return found.flatten) = .ok ps) {p : Path} :
    p ∈ ps ↔ ∃ x ∈ xs, ∃ qs, f x = .ok qs ∧ p ∈ qs := by
  have search := gathered xs f
  rw [h] at search
  cases search with
  | found _ members => exact members p

end Search

namespace SamePaths

variable {r s : Except NameTooLong (List Path)}

/-- Two searches may be told in either order. -/
lemma symm (h : SamePaths r s) : SamePaths s r := by
  cases h with
  | failed => exact .failed
  | found same => exact .found fun p => (same p).symm

/-- What one search finds, the other one finds, too. -/
lemma exists_ok (h : SamePaths r s) {ps : List Path} (hr : r = .ok ps) :
    ∃ qs, s = .ok qs ∧ ∀ p, p ∈ ps ↔ p ∈ qs := by
  cases h with
  | failed => cases hr
  | found same =>
    cases hr
    exact ⟨_, rfl, same⟩

variable {α : Type} {xs ys : List α} {f g : α → Except NameTooLong (List Path)}

/-- What is found in one of some directions is found by the other search among as many or more. -/
lemma exists_member (same : ∀ x, x ∈ xs → x ∈ ys) (h : ∀ x, SamePaths (f x) (g x)) {p : Path}
    (found : ∃ x ∈ xs, ∃ ps, f x = .ok ps ∧ p ∈ ps) : ∃ x ∈ ys, ∃ ps, g x = .ok ps ∧ p ∈ ps := by
  obtain ⟨x, hx, ps, hf, hp⟩ := found
  obtain ⟨qs, hg, members⟩ := (h x).exists_ok hf
  exact ⟨x, same x hx, qs, hg, (members p).1 hp⟩

/-- It makes no difference in which order directions are searched. -/
lemma gather (same : ∀ x, x ∈ xs ↔ x ∈ ys) (h : ∀ x, SamePaths (f x) (g x)) :
    SamePaths (do let found ← xs.mapM f; return found.flatten)
      (do let found ← ys.mapM g; return found.flatten) := by
  have left := gathered xs f
  have right := gathered ys g
  -- A search fails if it does at some item, and the items are the same on both sides.
  generalize (do let found ← xs.mapM f; return found.flatten) = r at left
  generalize (do let found ← ys.mapM g; return found.flatten) = s at right
  cases left with
  | @failed x _ _ hx fails =>
    cases right with
    | failed => exact .failed
    | found all _ =>
      obtain ⟨qs, hg⟩ := all x ((same x).1 hx)
      obtain ⟨ps, hf, -⟩ := (h x).symm.exists_ok hg
      cases fails.symm.trans hf
  | found all members =>
    cases right with
    | @failed x _ _ hx fails =>
      obtain ⟨ps, hf⟩ := all x ((same x).2 hx)
      obtain ⟨qs, hg, -⟩ := (h x).exists_ok hf
      cases fails.symm.trans hg
    | found _ members' =>
      apply SamePaths.found
      intro p
      rw [members, members']
      constructor
      · exact exists_member (fun x => (same x).1) h
      · exact exists_member (fun x => (same x).2) fun x => (h x).symm

end SamePaths

namespace Workspace

/-- Paths are sorted out when none of them is refused. -/
lemma filesAmong_eq_ok {w : Workspace} {paths found : List Path} :
    w.filesAmong paths = .ok found ↔
      (∀ p ∈ paths, w.refuses p = false) ∧ paths.filter (fun p => (w.contents? p).isSome) = found := by
  rw [filesAmong]
  cases first : paths.find? w.refuses with
  | some path =>
    refine iff_of_false nofun fun accepted => ?_
    have refused := accepted.1 path (List.mem_of_find?_eq_some first)
    cases refused.symm.trans (List.find?_some first)
  | none =>
    have accepted : ∀ p ∈ paths, w.refuses p = false := by
      simpa only [List.find?_eq_none, Bool.not_eq_true] using first
    rw [Except.ok.injEq, and_iff_right accepted]

/-- Two worlds around one workspace that differ in the contents of files outside of it at most. -/
structure Alike (w₁ w₂ : Workspace) : Prop where
  root : w₁.root = w₂.root
  tree : w₁.tree.Alike w₁.root w₂.tree

namespace Alike

variable {w₁ w₂ : Workspace}

/-- A path leads to the same in both worlds, or to two files outside of the workspace. -/
lemma reach (h : w₁.Alike w₂) (path : Path) :
    w₁.reach? path = w₂.reach? path ∨ ∃ found a b, ¬ w₁.root.isPrefixOf found ∧
      w₁.reach? path = some (found, .file a) ∧ w₂.reach? path = some (found, .file b) := by
  rw [reach?, reach?, ← h.root]
  exact h.tree.reach w₁.root path

/-- A path is refused in both worlds or in none. -/
lemma refuses (h : w₁.Alike w₂) (path : Path) : w₁.refuses path = w₂.refuses path := by
  rw [Workspace.refuses, Workspace.refuses, ← h.root, h.tree.meetsOverlong]

/-- A path leads to a directory in both worlds or in none. -/
lemma isDirectory (h : w₁.Alike w₂) (path : Path) : w₁.isDirectory path = w₂.isDirectory path := by
  show (w₁.reach? path).any _ = (w₂.reach? path).any _
  obtain same | ⟨found, a, b, -, first, second⟩ := h.reach path
  · rw [same]
  · rw [first, second]
    rfl

/-- A step of a pattern may end at a path in both worlds or in none. -/
lemma continues (h : w₁.Alike w₂) (path : Path) (rest : List Glob.Step) :
    w₁.continues path rest = w₂.continues path rest := by
  have reached : (w₁.reach? path).isSome = (w₂.reach? path).isSome := by
    obtain same | ⟨found, a, b, -, first, second⟩ := h.reach path
    · rw [same]
    · rw [first, second]
      rfl
  rw [Workspace.continues, Workspace.continues, reached, h.isDirectory]

/-- What really stands in the workspace has the same contents, and nothing else has any. -/
lemma contents (h : w₁.Alike w₂) (path : Path) : w₁.contents? path = w₂.contents? path := by
  rw [contents?, contents?, ← h.root]
  obtain same | ⟨found, a, b, out, first, second⟩ := h.reach path
  · rw [same]
  · rw [first, second]
    simp only [if_neg out]

/-- What is listed at the place that a path leads to is the same if it is at every place. -/
lemma listed (h : w₁.Alike w₂) {α : Type} {list₁ list₂ : Path → List α}
    (same : ∀ place x, x ∈ list₁ place ↔ x ∈ list₂ place) (path : Path) (x : α) :
    x ∈ ((w₁.reach? path).elim [] fun (place, _) => list₁ place) ↔
      x ∈ ((w₂.reach? path).elim [] fun (place, _) => list₂ place) := by
  obtain reached | ⟨found, a, b, -, first, second⟩ := h.reach path
  · rw [reached]
    cases w₂.reach? path with
    | none => exact Iff.rfl
    | some found => exact same found.1 x
  · rw [first, second]
    exact same found x

/-- The directories below a place are the same in both worlds. -/
lemma directories (h : w₁.Alike w₂) (place way : Path) :
    way ∈ w₁.tree.directoriesBelow place ↔ way ∈ w₂.tree.directoriesBelow place := by
  rw [FileTree.mem_directoriesBelow, FileTree.mem_directoriesBelow, (h.tree.entries _).directory]

/-- By induction on the steps of a pattern. -/
lemma paths (h : w₁.Alike w₂) (steps : List Glob.Step) (here : Path) :
    SamePaths (w₁.paths steps here) (w₂.paths steps here) := by
  induction steps generalizing here with
  | nil => exact .found fun _ => Iff.rfl
  | cons step rest ih =>
    cases step with
    | name name =>
      rw [Workspace.paths, Workspace.paths, h.refuses, h.continues]
      split
      · exact .failed
      · split
        · exact ih (here ++ [name])
        · exact .found fun _ => Iff.rfl
    | fitting pattern =>
      rw [Workspace.paths, Workspace.paths]
      apply SamePaths.gather (h.listed h.tree.names here)
      intro name
      rw [h.refuses, h.isDirectory]
      split
      · exact .failed
      · split
        · exact ih (here ++ [name])
        · exact .found fun _ => Iff.rfl
    | anyDepth =>
      rw [Workspace.paths, Workspace.paths]
      apply SamePaths.gather (h.listed h.directories here)
      intro way
      exact ih (here ++ way)

/-- The files among paths are the same in both worlds, or some path is refused in both. -/
lemma filesAmong (h : w₁.Alike w₂) {ps qs : List Path} (same : ∀ p, p ∈ ps ↔ p ∈ qs) :
    SamePaths (w₁.filesAmong ps) (w₂.filesAmong qs) := by
  cases left : w₁.filesAmong ps with
  | ok found =>
    obtain ⟨accepted, rfl⟩ := filesAmong_eq_ok.1 left
    have right : w₂.filesAmong qs = .ok _ :=
      filesAmong_eq_ok.2 ⟨fun p hp => h.refuses p ▸ accepted p ((same p).2 hp), rfl⟩
    rw [right]
    apply SamePaths.found
    intro p
    rw [List.mem_filter, List.mem_filter, same, h.contents]
  | error =>
    cases right : w₂.filesAmong qs with
    | error => exact .failed
    | ok found =>
      obtain ⟨accepted, rfl⟩ := filesAmong_eq_ok.1 right
      have left' : w₁.filesAmong ps = .ok _ :=
        filesAmong_eq_ok.2 ⟨fun p hp => h.refuses p ▸ accepted p ((same p).1 hp), rfl⟩
      cases left.symm.trans left'

/-- A pattern matches the same files in both worlds, or fails in both. -/
lemma files (h : w₁.Alike w₂) (pattern : String) :
    SamePaths (w₁.files pattern) (w₂.files pattern) := by
  unfold Workspace.files
  cases Glob.ofText? pattern with
  | none => exact .found fun _ => Iff.rfl
  | some steps =>
    dsimp only
    have found := h.paths steps []
    generalize w₁.paths steps [] = r at found
    generalize w₂.paths steps [] = s at found
    cases found with
    | failed => exact .failed
    | found same => exact h.filesAmong same

/-- One more pattern keeps selections the same. -/
lemma refine (h : w₁.Alike w₂) {ps qs : List Path} (same : ∀ p, p ∈ ps ↔ p ∈ qs) (pattern : String) :
    SamePaths (w₁.refine ps pattern) (w₂.refine qs pattern) := by
  unfold Workspace.refine
  split
  · next rest _ =>
    have found := h.files (String.ofList rest)
    generalize w₁.files (String.ofList rest) = r at found
    generalize w₂.files (String.ofList rest) = s at found
    cases found with
    | failed => exact .failed
    | found same' =>
      apply SamePaths.found
      intro p
      rw [mem_removeAll, mem_removeAll, same, same']
  · have found := h.files pattern
    generalize w₁.files pattern = r at found
    generalize w₂.files pattern = s at found
    cases found with
    | failed => exact .failed
    | found same' =>
      apply SamePaths.found
      intro p
      rw [List.mem_append, List.mem_append, mem_removeAll, mem_removeAll, same, same']

/-- A list of patterns keeps selections the same, by induction on the list. -/
lemma refineAll (h : w₁.Alike w₂) (patterns : List String) {ps qs : List Path}
    (same : ∀ p, p ∈ ps ↔ p ∈ qs) :
    SamePaths (patterns.foldlM w₁.refine ps) (patterns.foldlM w₂.refine qs) := by
  induction patterns generalizing ps qs with
  | nil => exact .found same
  | cons pattern patterns ih =>
    rw [List.foldlM_cons, List.foldlM_cons]
    have found := h.refine same pattern
    generalize w₁.refine ps pattern = r at found
    generalize w₂.refine qs pattern = s at found
    cases found with
    | failed => exact .failed
    | found same' => exact ih same'

end Alike

/-- One path is not after another one when it is at most that one. -/
lemma notAfter_iff {p q : Path} : notAfter p q = true ↔ p ≤ q := by
  rw [notAfter, Bool.not_eq_true', decide_eq_false_iff_not, not_lt]

/-- The order of paths is transitive. -/
lemma notAfter_trans (p q r : Path) (hp : notAfter p q = true) (hq : notAfter q r = true) :
    notAfter p r = true :=
  notAfter_iff.2 (le_trans (notAfter_iff.1 hp) (notAfter_iff.1 hq))

/-- Any two paths are in order, one way or the other. -/
lemma notAfter_total (p q : Path) : (notAfter p q || notAfter q p) = true := by
  rw [Bool.or_eq_true, notAfter_iff, notAfter_iff]
  exact le_total p q

/-- The paths of two lists are the same in order when they have the same members. -/
lemma sorted_congr {ps qs : List Path} (same : ∀ p, p ∈ ps ↔ p ∈ qs) :
    ps.eraseDups.mergeSort notAfter = qs.eraseDups.mergeSort notAfter := by
  apply mergeSort_eraseDups_congr _ notAfter_trans notAfter_total same
  intro p q hp hq
  exact le_antisymm (notAfter_iff.1 hp) (notAfter_iff.1 hq)

/-- Selections in alike worlds are one and the same, or there is none in both. -/
lemma Alike.select {w₁ w₂ : Workspace} (h : w₁.Alike w₂) (patterns : List String) :
    (w₁.select patterns).toOption = (w₂.select patterns).toOption := by
  have selected : SamePaths (patterns.foldlM w₁.refine []) (patterns.foldlM w₂.refine []) :=
    h.refineAll patterns fun _ => Iff.rfl
  rw [Workspace.select, Workspace.select]
  generalize patterns.foldlM w₁.refine [] = r at selected
  generalize patterns.foldlM w₂.refine [] = s at selected
  cases selected with
  | failed => rfl
  | found same => exact congrArg some (sorted_congr same)

section Selected

variable {w : Workspace}

/-- The files that a pattern matches have contents. -/
lemma files_contents {pattern : String} {ps : List Path} (h : w.files pattern = .ok ps) :
    ∀ p ∈ ps, (w.contents? p).isSome := by
  unfold files at h
  split at h
  · cases h
    exact List.forall_mem_nil _
  · obtain ⟨found, -, among⟩ := bind_eq_ok.1 h
    obtain ⟨-, rfl⟩ := filesAmong_eq_ok.1 among
    intro p hp
    exact (List.mem_filter.1 hp).2

/-- A pattern adds only paths to files in the workspace. -/
lemma refine_contents {selected ps : List Path} {pattern : String}
    (inside : ∀ p ∈ selected, (w.contents? p).isSome) (h : w.refine selected pattern = .ok ps) :
    ∀ p ∈ ps, (w.contents? p).isSome := by
  unfold refine at h
  split at h
  · obtain ⟨found, -, ⟨⟩⟩ := bind_eq_ok.1 h
    intro p hp
    exact inside p (mem_removeAll.1 hp).1
  · obtain ⟨found, hf, ⟨⟩⟩ := bind_eq_ok.1 h
    intro p hp
    rcases List.mem_append.1 hp with hp | hp
    · exact inside p hp
    · exact files_contents hf p (mem_removeAll.1 hp).1

/-- All that is selected has contents. -/
lemma select_contents {patterns : List String} {ps : List Path} (h : w.select patterns = .ok ps) :
    ∀ p ∈ ps, (w.contents? p).isSome := by
  have refined (patterns : List String) : ∀ selected found : List Path,
      (∀ p ∈ selected, (w.contents? p).isSome) → patterns.foldlM w.refine selected = .ok found →
        ∀ p ∈ found, (w.contents? p).isSome := by
    induction patterns with
    | nil =>
      rintro selected _ inside ⟨⟩
      exact inside
    | cons pattern patterns ih =>
      intro selected found inside h
      rw [List.foldlM_cons] at h
      obtain ⟨next, hn, h⟩ := bind_eq_ok.1 h
      exact ih next found (refine_contents inside hn) h
  obtain ⟨found, hf, ⟨⟩⟩ := bind_eq_ok.1 h
  intro p hp
  exact refined patterns [] found (List.forall_mem_nil _) hf p
    (List.mem_eraseDups.1 (List.mem_mergeSort.1 hp))

/-- A path has contents when it leads to a file in or below the workspace. -/
lemma contents_isSome {p : Path} :
    (w.contents? p).isSome ↔ ∃ place bytes, w.reach? p = some (place, .file bytes) ∧
      w.root.isPrefixOf place := by
  unfold contents?
  split
  · next place bytes reached =>
    simp only [reached]
    split
    · next inside => simpa using List.isPrefixOf_iff_prefix.1 inside
    · next outside => simpa using outside
  · next noFile =>
    constructor
    · nofun
    · rintro ⟨place, bytes, reached, -⟩
      exact absurd reached (noFile place bytes)

end Selected

/-- The digest of a list of patterns does not depend on what files outside of the workspace hold,
whatever links and patterns lead there: every file that is selected really stands in the workspace. -/
theorem digest_confined {w₁ w₂ : Workspace} (h : w₁.Alike w₂) (patterns : List String) :
    w₁.digest? patterns = w₂.digest? patterns ∧
      ∀ ps, w₁.select patterns = .ok ps → ∀ p ∈ ps,
        ∃ place bytes, w₁.reach? p = some (place, .file bytes) ∧ w₁.root.isPrefixOf place := by
  constructor
  · have selected := h.select patterns
    have contents : w₁.contents? = w₂.contents? := funext h.contents
    have rootText : w₁.rootText = w₂.rootText := by rw [Workspace.rootText, Workspace.rootText, h.root]
    rw [digest?, digest?, h.isDirectory, contents, rootText, h.tree.refuses]
    generalize w₁.select patterns = r at selected
    generalize w₂.select patterns = s at selected
    cases r with
    | error =>
      cases s with
      | error => rfl
      | ok => cases selected
    | ok =>
      cases s with
      | error => cases selected
      | ok =>
        cases selected
        rfl
  · intro ps selected p hp
    exact contents_isSome.1 (select_contents selected p hp)

/-- What stands behind a link that leads out of the workspace can be any file. -/
theorem digest_confined_link :
    let world (key : List UInt8) : Workspace :=
      ⟨⟨[(["ws", "a"], .file [1]), (["ws", "out"], .link "../secret"), (["secret", "key"], .file key)]⟩,
        ["ws"]⟩
    (world [2]).Alike (world [3]) ∧
      (world [2]).digest? ["**", "out/*", "!b"] = (world [3]).digest? ["**", "out/*", "!b"] := by
  intro world
  have alike : (world [2]).Alike (world [3]) := by
    refine ⟨rfl, .of_entries ?_⟩
    refine .cons ⟨rfl, .same⟩ (.cons ⟨rfl, .same⟩ (.cons ⟨rfl, .outside ?_⟩ .nil))
    decide
  exact ⟨alike, (digest_confined alike _).1⟩

end Workspace

end WorkflowExpr
