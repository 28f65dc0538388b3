import WorkflowExpr.Proofs.Workspace.Confinement

/-!
# Trees without links

Where no link stands in a workspace, a path leads to what stands at its place, provided that its names are steps
down. The names in a tree that a file system holds all are.
-/

namespace WorkflowExpr

/-- A name that leads from a directory to an entry of it. -/
structure StepsDown (name : String) : Prop where
  nonempty : name ≠ ""
  notHere : name ≠ "."
  notAbove : name ≠ ".."

/-- A name that a file system can give to an entry. -/
structure IsFileName (name : String) : Prop extends StepsDown name where
  noSlash : '/' ∉ name.toList
  noNull : '\x00' ∉ name.toList
  short : name.utf8ByteSize ≤ nameLimit

namespace FileTree

/-- The entries of the tree have file names all the way. -/
def WellNamed (t : FileTree) : Prop :=
  ∀ p entry, (p, entry) ∈ t.entries → ∀ name ∈ p, IsFileName name

/-- No link stands at or below the place. -/
def Linkless (t : FileTree) (root : Path) : Prop :=
  ∀ way target, t.at? (root ++ way) ≠ some (.link target)

instance (name : String) : Decidable (IsFileName name) :=
  decidable_of_iff ((name ≠ "" ∧ name ≠ "." ∧ name ≠ "..") ∧ '/' ∉ name.toList ∧ '\x00' ∉ name.toList ∧
      name.utf8ByteSize ≤ nameLimit)
    ⟨fun ⟨⟨nonempty, notHere, notAbove⟩, noSlash, noNull, short⟩ =>
      ⟨⟨nonempty, notHere, notAbove⟩, noSlash, noNull, short⟩,
    fun h => ⟨⟨h.nonempty, h.notHere, h.notAbove⟩, h.noSlash, h.noNull, h.short⟩⟩

instance (t : FileTree) : Decidable t.WellNamed :=
  decidable_of_iff (∀ e ∈ t.entries, ∀ name ∈ e.1, IsFileName name)
    ⟨fun h p entry mem => h (p, entry) mem, fun h e mem => h e.1 e.2 mem⟩

variable {t : FileTree} {root place way : Path} {name : String} {entry : Entry}

/-- A tree has no links where its entries are none. -/
lemma linkless_of_entries (h : ∀ e ∈ t.entries, ∀ target, e.2 ≠ .link target) (root : Path) :
    t.Linkless root := by
  intro way target found
  unfold at? at found
  split at found
  · cases found
  · split at found
    · next p e here =>
      exact h (p, e) (List.mem_of_find?_eq_some here) target (Option.some.inj found)
    · split at found
      · cases found
      · cases found

/-- The way to something is not blocked. -/
lemma not_isBlocked (h : t.at? place = some entry) : t.isBlocked place = false := by
  cases blocked : t.isBlocked place with
  | false => rfl
  | true =>
    rw [at?, if_pos blocked] at h
    cases h

/-- Every entry on the way to something is a directory. -/
lemma directory_of_entry (h : t.at? place = some entry) {p : Path} {e : Entry} (mem : (p, e) ∈ t.entries)
    (above : p <+: place) (other : p ≠ place) : e = .directory := by
  have open_ := List.any_eq_false.1 (not_isBlocked h) _ mem
  simp only [List.isPrefixOf_iff_prefix.2 above, bne_iff_ne.2 other, Bool.true_and, Bool.not_eq_true,
    Bool.not_eq_false'] at open_
  cases e with
  | directory => rfl
  | _ => cases open_

/-- What stands above something is a directory. -/
lemma at_above (h : t.at? (place ++ way) = some entry) (below : way ≠ []) :
    t.at? place = some .directory := by
  have other : place ++ way ≠ place := fun same => below (List.append_right_eq_self.1 same)
  -- What blocks the place would stand on the way to what is below it, too.
  have open_ : t.isBlocked place = false := by
    apply List.any_eq_false.2
    rintro ⟨p, e⟩ mem blocks
    simp only [Bool.and_eq_true, List.isPrefixOf_iff_prefix] at blocks
    obtain ⟨⟨above, -⟩, kind⟩ := blocks
    have other' : p ≠ place ++ way := by
      rintro rfl
      exact other ((List.prefix_append place way).eq_of_length_le above.length_le).symm
    rw [directory_of_entry h mem (above.trans (List.prefix_append place way)) other'] at kind
    cases kind
  obtain top | ⟨p, e, mem, above⟩ := exists_entry h
  · exact absurd (List.append_eq_nil_iff.1 top).2 below
  · rw [at?, if_neg (Bool.eq_false_iff.1 open_)]
    split
    · next q e' found =>
      have here : q = place := by simpa using List.find?_some found
      rw [directory_of_entry h (List.mem_of_find?_eq_some found) (here ▸ List.prefix_append place way)
        (here ▸ other.symm)]
    · refine if_pos (.inr (List.any_eq_true.2 ⟨_, mem, ?_⟩))
      exact List.isPrefixOf_iff_prefix.2
        ((List.prefix_append place way).trans (List.isPrefixOf_iff_prefix.1 above))

/-- Nothing stands below where nothing does. -/
lemma at_below_none (h : t.at? place = none) (way : Path) : t.at? (place ++ way) = none := by
  cases way with
  | nil => rwa [List.append_nil]
  | cons name rest =>
    rw [Option.eq_none_iff_forall_ne_some]
    intro entry found
    cases h.symm.trans (at_above found (List.cons_ne_nil name rest))

/-- A name is in a directory when an entry stands at or below it. -/
lemma mem_names : name ∈ t.names place ↔ ∃ rest entry, (place ++ name :: rest, entry) ∈ t.entries := by
  rw [names, List.mem_eraseDups, List.mem_filterMap]
  constructor
  · rintro ⟨⟨p, entry⟩, mem, first⟩
    dsimp only at first
    split at first
    · next below =>
      obtain ⟨rest, rfl⟩ := List.isPrefixOf_iff_prefix.1 below
      rw [List.drop_left, List.head?_eq_some_iff] at first
      obtain ⟨rest, rfl⟩ := first
      exact ⟨rest, entry, mem⟩
    · cases first
  · rintro ⟨rest, entry, mem⟩
    refine ⟨_, mem, ?_⟩
    dsimp only
    rw [if_pos (List.isPrefixOf_iff_prefix.2 (List.prefix_append place (name :: rest))), List.drop_left,
      List.head?_cons]

/-- What stands in a directory is listed there. -/
lemma mem_names_of_at (h : t.at? (place ++ [name]) = some entry) : name ∈ t.names place := by
  obtain top | ⟨p, e, mem, above⟩ := exists_entry h
  · exact absurd top (List.append_ne_nil_of_right_ne_nil place (List.cons_ne_nil name []))
  · obtain ⟨rest, rfl⟩ := List.isPrefixOf_iff_prefix.1 above
    rw [List.append_assoc, List.singleton_append] at mem
    exact mem_names.2 ⟨rest, e, mem⟩

namespace WellNamed

/-- The names in a directory are file names. -/
lemma of_mem_names (h : t.WellNamed) (mem : name ∈ t.names place) : IsFileName name := by
  obtain ⟨rest, entry, mem⟩ := mem_names.1 mem
  exact h _ entry mem name (List.mem_append_right place (List.mem_cons_self ..))

/-- The names on the way to something are file names. -/
lemma of_at (h : t.WellNamed) (stands : t.at? place = some entry) : ∀ name ∈ place, IsFileName name := by
  obtain rfl | ⟨p, e, mem, above⟩ := exists_entry stands
  · exact List.forall_mem_nil _
  · intro name mem'
    exact h p e mem name ((List.isPrefixOf_iff_prefix.1 above).subset mem')

end WellNamed

/-- Names that are steps down lead to what stands at their place. By induction on the names, for each place at or
below the root to start from. -/
lemma Linkless.follow (h : t.Linkless root) (links : Nat) (way : Path) {names : Path}
    (down : ∀ name ∈ names, StepsDown name) :
    ((t.follow links (root ++ way) names).bind fun found => (t.at? found).map fun entry => (found, entry)) =
      (t.at? (root ++ way ++ names)).map fun entry => (root ++ way ++ names, entry) := by
  induction names generalizing way with
  | nil =>
    rw [FileTree.follow, Option.bind_some, List.append_nil]
  | cons name rest ih =>
    obtain ⟨first, down⟩ := List.forall_mem_cons.1 down
    have split : root ++ way ++ name :: rest = root ++ (way ++ [name]) ++ rest := by simp
    have next := ih (way ++ [name]) down
    rw [FileTree.follow, split]
    by_cases dir : t.at? (root ++ way) = some .directory
    · simp only [dir, first.nonempty, first.notHere, first.notAbove, or_self, if_false]
      rw [List.append_assoc]
      cases found : t.at? (root ++ (way ++ [name])) with
      | none => rw [at_below_none found]; rfl
      | some entry =>
        cases entry with
        | link target => exact absurd found (h _ target)
        | _ => exact next
    -- Nothing stands below what is no directory.
    · have nothing : t.at? (root ++ (way ++ [name]) ++ rest) = none := by
        rw [← split]
        exact Option.eq_none_iff_forall_ne_some.2 fun _ found => dir (at_above found (List.cons_ne_nil name rest))
      rw [nothing]
      split
      · next dir' => exact absurd dir' dir
      · rfl

/-- File names are short, so a way of them meets none that is too long. -/
lemma Linkless.meetsOverlong (h : t.Linkless root) (links : Nat) (way : Path) {names : Path}
    (named : ∀ name ∈ names, IsFileName name) : t.meetsOverlong links (root ++ way) names = false := by
  induction names generalizing way with
  | nil => rw [FileTree.meetsOverlong]
  | cons name rest ih =>
    obtain ⟨first, named⟩ := List.forall_mem_cons.1 named
    have next := ih (way ++ [name]) named
    rw [← List.append_assoc] at next
    rw [FileTree.meetsOverlong]
    split
    · simp only [first.nonempty, first.notHere, first.notAbove, or_self, if_false,
        if_neg (Nat.not_lt.2 first.short)]
      split
      · next target found => exact absurd (List.append_assoc .. ▸ found) (h _ target)
      · exact next
      · rfl
    · rfl

/-- Where there are no links, steps down lead to what stands at their place. -/
lemma Linkless.reach (h : t.Linkless root) {names : Path} (down : ∀ name ∈ names, StepsDown name) :
    t.reach? root names = (t.at? (root ++ names)).map fun entry => (root ++ names, entry) := by
  have found := h.follow linkLimit [] down
  rwa [List.append_nil] at found

end FileTree

namespace Workspace

variable {w : Workspace} {names : Path}

/-- Where there are no links, steps down lead to a directory when one stands at their place. -/
lemma isDirectory_iff (h : w.tree.Linkless w.root) (down : ∀ name ∈ names, StepsDown name) :
    w.isDirectory names = true ↔ w.tree.at? (w.root ++ names) = some .directory := by
  rw [isDirectory, FileTree.reachesDirectory, h.reach down]
  cases w.tree.at? (w.root ++ names) with
  | none => exact ⟨nofun, nofun⟩
  | some entry => cases entry <;> simp [Entry.isDirectory]

/-- Where there are no links, no way of file names is refused. -/
lemma refuses_eq_false (h : w.tree.Linkless w.root) (named : ∀ name ∈ names, IsFileName name) :
    w.refuses names = false := by
  have short := h.meetsOverlong FileTree.linkLimit [] named
  rw [List.append_nil] at short
  rw [refuses, short, Bool.and_false]

/-- What is above a directory is one, too. -/
lemma isDirectory_above (h : w.tree.Linkless w.root) {above : Path} (before : above <+: names)
    (down : ∀ name ∈ names, StepsDown name) (dir : w.isDirectory names = true) : w.isDirectory above = true := by
  have place := (isDirectory_iff h down).1 dir
  obtain ⟨rest, rfl⟩ := before
  refine (isDirectory_iff h (List.forall_mem_append.1 down).1).2 ?_
  cases rest with
  | nil => rwa [List.append_nil] at place
  | cons name rest =>
    rw [← List.append_assoc] at place
    exact FileTree.at_above place (List.cons_ne_nil name rest)

/-- Where there are no links, steps down lead to contents when a file stands at their place. -/
lemma contents_iff (h : w.tree.Linkless w.root) (down : ∀ name ∈ names, StepsDown name) :
    (w.contents? names).isSome ↔ ∃ bytes, w.tree.at? (w.root ++ names) = some (.file bytes) := by
  rw [contents_isSome, reach?, h.reach down]
  constructor
  · rintro ⟨place, bytes, reached, -⟩
    obtain ⟨entry, found, ⟨⟩⟩ := Option.map_eq_some_iff.1 reached
    exact ⟨bytes, found⟩
  · rintro ⟨bytes, found⟩
    rw [found]
    exact ⟨_, bytes, rfl, List.isPrefixOf_iff_prefix.2 (List.prefix_append w.root names)⟩

end Workspace

end WorkflowExpr
