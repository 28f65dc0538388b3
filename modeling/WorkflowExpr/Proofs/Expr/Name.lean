import WorkflowExpr.Proofs.Expr.Parse

/-!
# Names in expressions

The roots and members that an expression names, and its nodes. Whatever a text is read into names
nothing but identifiers, since every name comes from a scanned token.
-/

namespace WorkflowExpr

/-- A text that is scanned as one identifier. -/
structure IsName (s : String) : Prop where
  spelling : ∃ c cs, s.toList = c :: cs ∧ Lexeme.isNameStart c = true ∧
    ∀ d ∈ cs, Lexeme.isNameChar d = true
  noKeyword : Lexeme.wordTerminal s.toList = .identifier

/-- A text that is scanned as one identifier. -/
abbrev Name := { s : String // IsName s }

/-- What may start a name may also go on with it. -/
lemma Lexeme.isNameChar_of_start {c : Char} (h : isNameStart c = true) : isNameChar c = true := by
  simp only [isNameStart, isNameChar, Bool.or_eq_true] at h ⊢
  rcases h with h | h
  · exact .inl (.inl (.inl h))
  · exact .inl (.inr h)

/-- All characters of a name may stand in one. -/
lemma IsName.chars {s : String} (h : IsName s) : ∀ c ∈ s.toList, Lexeme.isNameChar c = true := by
  obtain ⟨⟨c, cs, hs, hc, hcs⟩, -⟩ := h
  rw [hs]
  exact List.forall_mem_cons.2 ⟨Lexeme.isNameChar_of_start hc, hcs⟩

/-- A name has a last character, which may go on a name. -/
lemma IsName.getLast {s : String} (h : IsName s) :
    ∃ c, s.toList.getLast? = some c ∧ Lexeme.isNameChar c = true := by
  have nonempty : s.toList ≠ [] := by
    obtain ⟨⟨c, cs, hs, -⟩, -⟩ := h
    rw [hs]
    exact List.cons_ne_nil c cs
  exact ⟨_, List.getLast?_eq_some_getLast nonempty, h.chars _ (List.getLast_mem nonempty)⟩

namespace Expr

mutual

/-- Every root and every member that the expression names satisfies a condition. -/
def Named (N : String → Prop) : Expr → Prop
  | literal _ => True
  | root name => N name
  | property base name => base.Named N ∧ N name
  | index base position => base.Named N ∧ position.Named N
  | wildcard base => base.Named N
  | call _ args => NamedAll N args
  | not operand => operand.Named N
  | binary _ left right => left.Named N ∧ right.Named N
  | hole _ => True

/-- The same for each of some expressions. -/
def NamedAll (N : String → Prop) : List Expr → Prop
  | [] => True
  | arg :: rest => arg.Named N ∧ NamedAll N rest

end

mutual

/-- The nodes of an expression: the expression and the nodes of its parts. -/
def nodes : Expr → List Expr
  | literal value => [literal value]
  | root name => [root name]
  | property base name => property base name :: base.nodes
  | index base position => index base position :: (base.nodes ++ position.nodes)
  | wildcard base => wildcard base :: base.nodes
  | call name args => call name args :: nodesAll args
  | not operand => not operand :: operand.nodes
  | binary op left right => binary op left right :: (left.nodes ++ right.nodes)
  | hole typeName => [hole typeName]

/-- The nodes of some expressions. -/
def nodesAll : List Expr → List Expr
  | [] => []
  | arg :: rest => arg.nodes ++ nodesAll rest

end

mutual

/-- What holds of all names in an expression holds of all names in its nodes. -/
theorem Named.of_mem_nodes {N : String → Prop} {n : Expr} :
    (e : Expr) → e.Named N → n ∈ e.nodes → n.Named N
  | literal _, h, hn => by
    obtain rfl := List.mem_singleton.1 hn
    exact h
  | root _, h, hn => by
    obtain rfl := List.mem_singleton.1 hn
    exact h
  | property base _, h, hn => by
    rcases List.mem_cons.1 hn with rfl | hn
    · exact h
    · exact Named.of_mem_nodes base h.1 hn
  | index base position, h, hn => by
    rcases List.mem_cons.1 hn with rfl | hn
    · exact h
    · rcases List.mem_append.1 hn with hn | hn
      · exact Named.of_mem_nodes base h.1 hn
      · exact Named.of_mem_nodes position h.2 hn
  | wildcard base, h, hn => by
    rcases List.mem_cons.1 hn with rfl | hn
    · exact h
    · exact Named.of_mem_nodes base h hn
  | call _ args, h, hn => by
    rcases List.mem_cons.1 hn with rfl | hn
    · exact h
    · exact NamedAll.of_mem_nodes args h hn
  | not operand, h, hn => by
    rcases List.mem_cons.1 hn with rfl | hn
    · exact h
    · exact Named.of_mem_nodes operand h hn
  | binary _ left right, h, hn => by
    rcases List.mem_cons.1 hn with rfl | hn
    · exact h
    · rcases List.mem_append.1 hn with hn | hn
      · exact Named.of_mem_nodes left h.1 hn
      · exact Named.of_mem_nodes right h.2 hn
  | hole _, h, hn => by
    obtain rfl := List.mem_singleton.1 hn
    exact h

/-- A node of some expressions has names that satisfy the condition when those of the expressions do. -/
theorem NamedAll.of_mem_nodes {N : String → Prop} {n : Expr} :
    (es : List Expr) → NamedAll N es → n ∈ nodesAll es → n.Named N
  | [], _, hn => absurd hn (List.not_mem_nil)
  | e :: es, h, hn => by
    rcases List.mem_append.1 hn with hn | hn
    · exact Named.of_mem_nodes e h.1 hn
    · exact NamedAll.of_mem_nodes es h.2 hn

end

mutual

/-- A condition that all texts satisfy is satisfied by the names of every expression. -/
theorem Named.of_forall {N : String → Prop} (h : ∀ s, N s) : (e : Expr) → e.Named N
  | literal _ => trivial
  | root name => h name
  | property base name => ⟨Named.of_forall h base, h name⟩
  | index base position => ⟨Named.of_forall h base, Named.of_forall h position⟩
  | wildcard base => Named.of_forall h base
  | call _ args => NamedAll.of_forall h args
  | not operand => Named.of_forall h operand
  | binary _ left right => ⟨Named.of_forall h left, Named.of_forall h right⟩
  | hole _ => trivial

/-- The same for each of some expressions. -/
theorem NamedAll.of_forall {N : String → Prop} (h : ∀ s, N s) : (es : List Expr) → NamedAll N es
  | [] => trivial
  | e :: es => ⟨Named.of_forall h e, NamedAll.of_forall h es⟩

end

/-- The names of expressions satisfy a condition when those of each expression do. -/
lemma namedAll_iff {N : String → Prop} {es : List Expr} :
    NamedAll N es ↔ ∀ e ∈ es, e.Named N := by
  induction es with
  | nil => exact ⟨fun _ => List.forall_mem_nil _, fun _ => trivial⟩
  | cons e es ih => rw [NamedAll, ih, List.forall_mem_cons]

end Expr

/-- The tokens of an argument are among those of the list. -/
lemma Separated.subset {ps ts} (s : Separated ps ts) : ∀ p ∈ ps, p.1 ⊆ ts := by
  induction s with
  | one =>
    intro p hp
    rw [List.mem_singleton.1 hp]
    exact List.Subset.refl _
  | more _ _ ih =>
    intro p hp
    rcases List.mem_append.1 hp with hp | hp
    · exact List.Subset.trans (ih p hp) (List.subset_append_left ..)
    · rw [List.mem_singleton.1 hp]
      exact List.Subset.trans (List.subset_cons_self ..) (List.subset_append_right ..)

/-- The names in an expression are spelt by the identifiers that derive it. -/
lemma Derives.named {N : String → Prop} {l ts e} (d : Derives l ts e)
    (h : ∀ t ∈ ts, t.Is .identifier → N t.text) : e.Named N := by
  have operands {ls rs : List ListedToken} {t : ListedToken} {a b : Expr}
      (left : (∀ t ∈ ls, t.Is .identifier → N t.text) → a.Named N)
      (right : (∀ t ∈ rs, t.Is .identifier → N t.text) → b.Named N)
      (all : ∀ u ∈ ls ++ t :: rs, u.Is .identifier → N u.text) : a.Named N ∧ b.Named N :=
    ⟨left fun u hu => all u (by simp [hu]), right fun u hu => all u (by simp [hu])⟩
  induction d with
  | orPass _ ih => exact ih h
  | andPass _ ih => exact ih h
  | equalityPass _ ih => exact ih h
  | relationPass _ ih => exact ih h
  | unaryPass _ ih => exact ih h
  | accessPass _ ih => exact ih h
  | or _ _ _ iha ihb => exact operands iha ihb h
  | and _ _ _ iha ihb => exact operands iha ihb h
  | equal _ _ _ iha ihb => exact operands iha ihb h
  | notEqual _ _ _ iha ihb => exact operands iha ihb h
  | relation _ _ _ iha ihb => exact operands iha ihb h
  | not _ _ ih => exact ih fun t ht => h t (by simp [ht])
  | property _ _ hn ih => exact ⟨ih fun t ht => h t (by simp [ht]), h _ (by simp) hn⟩
  | dotStar _ _ _ ih => exact ih fun t ht => h t (by simp [ht])
  | bracketStar _ _ _ _ ih => exact ih fun t ht => h t (by simp [ht])
  | index _ _ _ _ ihe ihi =>
    exact ⟨ihe fun t ht => h t (by simp [ht]), ihi fun t ht => h t (by simp [ht])⟩
  | string => trivial
  | number => trivial
  | trueWord => trivial
  | falseWord => trivial
  | nullWord => trivial
  | callEmpty => trivial
  | call _ _ s _ _ ih =>
    apply Expr.namedAll_iff.2
    intro e he
    obtain ⟨p, hp, rfl⟩ := List.mem_map.1 he
    exact ih p hp fun t ht => h t (by simp [s.subset p hp ht])
  | root hn => exact h _ (by simp) hn
  | group _ _ _ ih => exact ih fun t ht => h t (by simp [ht])

/-- An identifier at the start of a text is a name. -/
lemma isName_of_first {cs chars} (h : Lexeme.first? cs = some (.identifier, chars)) :
    IsName (String.ofList chars) := by
  unfold Lexeme.first? at h
  split at h
  · next word hw =>
    obtain ⟨hk, rfl⟩ := Prod.mk.inj (Option.some.inj h)
    refine ⟨?_, ?_⟩
    · rw [String.toList_ofList]
      unfold Lexeme.identifier? at hw
      split at hw
      · next c rest =>
        split at hw
        · next hc =>
          obtain rfl := Option.some.inj hw
          exact ⟨c, _, rfl, hc, List.all_eq_true.1 List.all_takeWhile⟩
        · cases hw
      · cases hw
    · rw [String.toList_ofList]
      exact hk
  · -- numbers, string literals and symbols, none of which is an identifier
    split at h
    · cases h
    · split at h
      · cases h
      · unfold Lexeme.symbol? at h
        split at h <;> cases h

/-- Scanned identifiers are names. -/
lemma scanFrom_isName (position : Nat) (cs : List Char) :
    ∀ t ∈ (scanFrom position cs).tokens, t.terminal = .identifier → IsName t.text := by
  fun_induction scanFrom position cs with
  | case1 => exact List.forall_mem_nil _
  | case2 _ _ _ _ ih => exact ih
  | case3 => exact List.forall_mem_nil _
  | case4 position c rest _ k chars hf _ ih =>
    intro t ht hk
    rcases List.mem_cons.1 ht with rfl | ht
    · obtain rfl : k = .identifier := hk
      exact isName_of_first hf
    · exact ih t ht hk

/-- An expression that a text is read into names identifiers. -/
theorem parse_named {text : String} {limit : Int} {parsed : Parsed}
    (h : parse text limit = .ok parsed) : parsed.root.Named IsName := by
  obtain ⟨-, hs, -⟩ := parse_eq_ok_iff.1 h
  obtain ⟨-, d⟩ := parseSource_eq_ok_iff.1 hs
  apply d.named
  intro l hl hi
  obtain ⟨t, ht, rfl⟩ := List.mem_map.1 hl
  have hk : t.terminal = .identifier := (scan_spelt _ t ht).unique hi
  exact scanFrom_isName 0 _ t ht hk

/-- The nodes of some expressions are those of each of them. -/
lemma Expr.mem_nodesAll {n : Expr} {es : List Expr} : n ∈ nodesAll es ↔ ∃ e ∈ es, n ∈ e.nodes := by
  induction es with
  | nil => simp [nodesAll]
  | cons e es ih => simp [nodesAll, ih]

/-- A derived literal is null, a boolean, a text, or the double that a number token stands for. -/
lemma Derives.literals {P : Value → Prop} {l ts e} (d : Derives l ts e) (null : P .null)
    (boolean : ∀ b, P (.boolean b)) (string : ∀ s, P (.string s))
    (number : ∀ t ∈ ts, t.Is .number → P (.real (Double.ofText t.text.toList))) :
    ∀ v, .literal v ∈ e.nodes → P v := by
  have only {v w : Value} (h : P w) (hv : Expr.literal v ∈ [Expr.literal w]) : P v := by
    cases List.mem_singleton.1 hv
    exact h
  -- A node that is no literal has its literals in its parts.
  have within {v : Value} {e : Expr} {es : List Expr} (h : Expr.literal v ∈ e :: es)
      (other : ∀ w, e ≠ .literal w) : Expr.literal v ∈ es := by
    rcases List.mem_cons.1 h with rfl | h
    · exact absurd rfl (other v)
    · exact h
  have operands {op : Operator} {a b : Expr} (left : ∀ v, .literal v ∈ a.nodes → P v)
      (right : ∀ v, .literal v ∈ b.nodes → P v) : ∀ v, .literal v ∈ (Expr.binary op a b).nodes → P v := by
    intro v h
    rcases List.mem_append.1 (within h nofun) with h | h
    · exact left v h
    · exact right v h
  -- By induction on the derivation: number tokens of a part are tokens of the whole.
  induction d with
  | orPass _ ih => exact ih number
  | andPass _ ih => exact ih number
  | equalityPass _ ih => exact ih number
  | relationPass _ ih => exact ih number
  | unaryPass _ ih => exact ih number
  | accessPass _ ih => exact ih number
  | or _ _ _ iha ihb =>
    exact operands (iha fun t ht => number t (by simp [ht])) (ihb fun t ht => number t (by simp [ht]))
  | and _ _ _ iha ihb =>
    exact operands (iha fun t ht => number t (by simp [ht])) (ihb fun t ht => number t (by simp [ht]))
  | equal _ _ _ iha ihb =>
    exact operands (iha fun t ht => number t (by simp [ht])) (ihb fun t ht => number t (by simp [ht]))
  | notEqual _ _ _ iha ihb =>
    exact operands (iha fun t ht => number t (by simp [ht])) (ihb fun t ht => number t (by simp [ht]))
  | relation _ _ _ iha ihb =>
    exact operands (iha fun t ht => number t (by simp [ht])) (ihb fun t ht => number t (by simp [ht]))
  | not _ _ ih => exact fun v h => ih (fun t ht => number t (by simp [ht])) v (within h nofun)
  | property _ _ _ ih => exact fun v h => ih (fun t ht => number t (by simp [ht])) v (within h nofun)
  | dotStar _ _ _ ih => exact fun v h => ih (fun t ht => number t (by simp [ht])) v (within h nofun)
  | bracketStar _ _ _ _ ih => exact fun v h => ih (fun t ht => number t (by simp [ht])) v (within h nofun)
  | index _ _ _ _ ihe ihi =>
    intro v h
    rcases List.mem_append.1 (within h nofun) with h | h
    · exact ihe (fun t ht => number t (by simp [ht])) v h
    · exact ihi (fun t ht => number t (by simp [ht])) v h
  | string => exact fun v => only (string _)
  | number is => exact fun v => only (number _ (List.mem_singleton_self _) is)
  | trueWord => exact fun v => only (boolean _)
  | falseWord => exact fun v => only (boolean _)
  | nullWord => exact fun v => only null
  | callEmpty => exact fun v h => absurd (within h nofun) List.not_mem_nil
  | call _ _ s _ _ ih =>
    intro v h
    obtain ⟨e, he, h⟩ := Expr.mem_nodesAll.1 (within h nofun)
    obtain ⟨p, hp, rfl⟩ := List.mem_map.1 he
    exact ih p hp (fun t ht => number t (by simp [s.subset p hp ht])) v h
  | root => exact fun v h => absurd (List.mem_singleton.1 h) nofun
  | group _ _ _ ih => exact ih fun t ht => number t (by simp [ht])

/-- A literal that a text is read into is null, a boolean, a text, or the double that a number token of
the text stands for. -/
theorem parse_literals {P : Value → Prop} {text : String} {limit : Int} {parsed : Parsed}
    (h : parse text limit = .ok parsed) (null : P .null) (boolean : ∀ b, P (.boolean b))
    (string : ∀ s, P (.string s))
    (number : ∀ t ∈ (scan (unwrap text.toList).1).tokens, t.terminal = .number →
      P (.real (Double.ofText t.chars))) :
    ∀ v, .literal v ∈ parsed.root.nodes → P v := by
  obtain ⟨-, hs, -⟩ := parse_eq_ok_iff.1 h
  obtain ⟨-, d⟩ := parseSource_eq_ok_iff.1 hs
  refine d.literals null boolean string fun l hl hn => ?_
  obtain ⟨t, ht, rfl⟩ := List.mem_map.1 hl
  rw [Token.text_listed, Token.text, String.toList_ofList]
  exact number t ht ((scan_spelt _ t ht).unique hn)

end WorkflowExpr
