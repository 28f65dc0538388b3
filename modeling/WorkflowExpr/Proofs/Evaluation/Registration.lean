import WorkflowExpr.Proofs.Evaluation.Walk

/-!
# Calls of registered functions

A host builds a library by registering functions one after the other. The first registration of a name
stands and the later ones are refused, so the library gives every name the first function that came with it.
An evaluation that is set up with the library calls this function. A library without any registration is the
exception: the standard functions take its place.
-/

namespace WorkflowExpr

namespace Library

/-- The library after a registration. One that is refused leaves it as it is. -/
def registered (l : Library) (f : Function) : Library :=
  (l.register? f).getD l

/-- The library that registrations build, one after the other. -/
def ofRegistrations (fs : List Function) : Library :=
  fs.foldl registered empty

section Registrations

variable {l : Library} {f : Function}

/-- A library contains a name when one of its functions has it. -/
lemma contains_eq_any (l : Library) (name : String) :
    l.contains name = l.functions.any fun f => f.name == name := by
  rw [contains, get?, List.isSome_find?]

/-- A registration is refused when the name is taken. -/
lemma register?_eq_none_iff : l.register? f = none ↔ l.contains f.name = true := by
  rw [register?]
  split
  · next taken => exact ⟨fun _ => taken, fun _ => rfl⟩
  · next free => exact ⟨nofun, fun taken => absurd taken free⟩

/-- A registration of a taken name changes nothing. -/
lemma registered_of_taken (taken : l.contains f.name = true) : l.registered f = l := by
  rw [registered, register?_eq_none_iff.2 taken, Option.getD_none]

/-- A registration of a free name puts the function at the end. -/
lemma registered_of_free (free : l.contains f.name = false) :
    l.registered f = ⟨l.functions ++ [f]⟩ := by
  rw [registered, register?, free]
  rfl

/-- A registration counts for its own name, if there was none before. -/
lemma get?_registered (l : Library) (f : Function) (name : String) :
    (l.registered f).get? name = (l.get? name).or ([f].find? fun g => g.name == name) := by
  cases taken : l.contains f.name with
  | false => rw [registered_of_free taken, get?, get?, List.find?_append]
  | true =>
    rw [registered_of_taken taken]
    by_cases same : f.name = name
    · rw [same, contains] at taken
      rw [Option.or_of_isSome taken]
    · rw [List.find?_singleton, if_neg (by simpa using same), Option.or_none]

/-- After a run of registrations the first one of a name counts. -/
lemma get?_run (l : Library) (fs : List Function) (name : String) :
    (fs.foldl registered l).get? name = (l.get? name).or (fs.find? fun f => f.name == name) := by
  induction fs generalizing l with
  | nil => rw [List.foldl_nil, List.find?_nil, Option.or_none]
  | cons f fs ih =>
    rw [List.foldl_cons, ih, get?_registered, Option.or_assoc, ← List.find?_append]
    rfl

/-- A run of registrations puts the names that are new behind those that were there. -/
lemma names_run (l : Library) (fs : List Function) :
    (fs.foldl registered l).names =
      l.names ++ ((fs.map (·.name)).filter fun name => !l.contains name).eraseDups := by
  induction fs generalizing l with
  | nil => exact (List.append_nil _).symm
  | cons f fs ih =>
    rw [List.foldl_cons, ih, List.map_cons, List.filter_cons]
    cases taken : l.contains f.name with
    | true => rw [registered_of_taken taken, Bool.not_true, if_neg Bool.false_ne_true]
    | false =>
      have known (name : String) :
          (!(l.registered f).contains name) = (!(name == f.name) && !l.contains name) := by
        rw [registered_of_free taken, contains_eq_any, contains_eq_any, List.any_append, Bool.not_or,
          Bool.and_comm, List.any_cons, List.any_nil, Bool.or_false, BEq.comm]
      simp only [known]
      rw [registered_of_free taken, Bool.not_false, if_pos rfl, List.eraseDups_cons, List.filter_filter,
        names, names, List.map_append, List.append_assoc]
      rfl

/-- A name stands for the first function that was registered under it. -/
lemma get?_ofRegistrations (fs : List Function) (name : String) :
    (ofRegistrations fs).get? name = fs.find? fun f => f.name == name := by
  rw [ofRegistrations, get?_run]
  rfl

/-- The names of a library are those registered, each once and in the order of the first time. -/
lemma names_ofRegistrations (fs : List Function) :
    (ofRegistrations fs).names = (fs.map (·.name)).eraseDups := by
  rw [ofRegistrations, names_run]
  exact congrArg List.eraseDups (List.filter_eq_self.2 fun _ _ => rfl)

/-- A library with registrations has functions, so nothing takes its place. -/
lemma orStandard_ofRegistrations {fs : List Function} (some : fs ≠ []) :
    (ofRegistrations fs).orStandard = ofRegistrations fs := by
  obtain ⟨f, fs, rfl⟩ := List.exists_cons_of_ne_nil some
  have known : ((ofRegistrations (f :: fs)).get? f.name).isSome = true := by
    rw [get?_ofRegistrations, List.isSome_find?, List.any_cons, beq_self_eq_true, Bool.true_or]
  rw [orStandard, if_neg]
  intro none
  rw [get?, List.isEmpty_iff.1 none] at known
  cases known

end Registrations

end Library

/-- A count of arguments is admitted between the bounds, of which the upper one may be missing. -/
lemma Arity.admits_iff {a : Arity} {count : Nat} :
    a.admits count = true ↔ a.least ≤ count ∧ ∀ most ∈ a.most, (count : Int) ≤ most := by
  rw [admits, Bool.and_eq_true, decide_eq_true_eq]
  cases a.most with
  | none => simp
  | some => simp

/-- As many values come out of a list of expressions as there are expressions. -/
lemma ResolvesAll.length_eq {env : Environment} {args : List Expr} {t t' : Trace} {vs : List Value}
    (h : ResolvesAll env args t vs t') : vs.length = args.length := by
  induction args generalizing t vs with
  | nil =>
    obtain ⟨rfl, -⟩ := resolvesAll_nil.1 h
    rfl
  | cons arg args ih =>
    obtain ⟨_, _, -, ws, _, rest, rfl, rfl⟩ := resolvesAll_cons.1 h
    rw [List.length_cons, List.length_cons, ih rest]

/-- To ask for nothing leaves the trace as it is. -/
lemma Trace.ask_nil (t : Trace) : t.ask [] = t := by
  rw [ask, List.append_nil]

section Calls

variable {env : Environment} {name : String} {args : List Expr} {t t' : Trace}

/-- A call looks its function up, evaluates its arguments from left to right, and applies it. -/
lemma consume_call :
    consume env (.call name args) =
      Walk.of (env.library.get name) >>= fun f => resolveAll env args >>= fun vs =>
        Walk.ask (f.apply env.host vs).requests >>= fun _ => Walk.of (f.apply env.host vs).result := by
  -- What a function returns has no path to record.
  have computed (r : Except Failure Value) :
      (Walk.of r >>= fun v => pure (Resolved.computed v) >>= fun resolved =>
        Walk.record resolved.path >>= fun _ => pure resolved.value) = Walk.of r := by
    cases r with
    | _ => rfl
  rw [consume, resolve]
  simp only [bind_assoc, computed]

/-- A call of an unknown function fails before any argument is evaluated. -/
lemma consume_call_unknown (unknown : env.library.get? name = none) :
    (consume env (.call name args)).run t =
      (.error (.unknownFunction name env.library.names), t) := by
  rw [consume_call, Library.get, unknown]
  rfl

/-- The arguments of a known function fail before the function is looked at any further. -/
lemma consume_call_argument {f : Function} {e : Failure} (known : env.library.get? name = some f)
    (h : (resolveAll env args).run t = (.error e, t')) :
    (consume env (.call name args)).run t = (.error e, t') := by
  rw [consume_call, Library.get, known, Walk.run_bind]
  show (resolveAll env args >>= _).run t = _
  rw [Walk.run_bind, h]

/-- A call of a known function comes to what applying it to the values of its arguments does. -/
lemma consume_call_applied {f : Function} {vs : List Value} (known : env.library.get? name = some f)
    (h : ResolvesAll env args t vs t') :
    (consume env (.call name args)).run t =
      ((f.apply env.host vs).result, t'.ask (f.apply env.host vs).requests) := by
  rw [consume_call, Library.get, known, Walk.run_bind]
  show (resolveAll env args >>= _).run t = _
  rw [Walk.run_bind, h]
  show (Walk.of (f.apply env.host vs).result).run (t'.ask (f.apply env.host vs).requests) = _
  cases (f.apply env.host vs).result with
  | _ => rfl

end Calls

/-- Only a name that is taken cannot be registered. Where something was registered, a call of a name that
never was fails before any of its arguments is evaluated, and every other call is one of the first function of
that name: once the arguments have values, it fails if their number is out of the range of the function, and
else comes to what the function replies. Where nothing was registered, the standard functions are called. -/
theorem call_registered (context : List (String × Value)) (fs : List Function) (host : Capabilities) :
    let env := Environment.ofHost context (some (.ofRegistrations fs)) host
    (∀ f, (Library.ofRegistrations fs).register? f = none ↔ ∃ g ∈ fs, g.name = f.name) ∧
    (fs = [] → env = .ofHost context none host) ∧
    (fs ≠ [] → ∀ name,
      ((∀ args t, (consume env (.call name args)).run t =
          (.error (.unknownFunction name (fs.map (·.name)).eraseDups), t)) ↔
        ∀ f ∈ fs, f.name ≠ name) ∧
      ∀ f, (fs.find? fun f => f.name == name) = some f → ∀ args t,
        (∀ e t', (resolveAll env args).run t = (.error e, t') →
          (consume env (.call name args)).run t = (.error e, t')) ∧
        ∀ vs t', ResolvesAll env args t vs t' →
          (consume env (.call name args)).run t =
            if f.arity.least ≤ args.length ∧ ∀ most ∈ f.arity.most, (args.length : Int) ≤ most then
              ((f.run host vs).result, t'.ask (f.run host vs).requests)
            else (.error (.wrongCount name f.arity args.length), t')) := by
  intro env
  refine ⟨fun f => ?taken, ?none, fun some name => ⟨?unknown, fun f first args t => ?known⟩⟩
  case taken =>
    rw [Library.register?_eq_none_iff, Library.contains, Library.get?_ofRegistrations, List.find?_isSome]
    simp only [beq_iff_eq]
  case none =>
    rintro rfl
    rfl
  case unknown =>
    have library : env.library = .ofRegistrations fs := Library.orStandard_ofRegistrations some
    constructor
    · intro unknown f mem same
      have registered : (fs.find? fun f => f.name == name).isSome = true :=
        List.find?_isSome.2 ⟨f, mem, by simpa using same⟩
      obtain ⟨g, known⟩ := Option.isSome_iff_exists.1 registered
      rw [← Library.get?_ofRegistrations, ← library] at known
      -- The call of a known function fails in another way, if an argument does.
      have argument :
          (resolveAll env [.root ""]).run .empty = (.error (.unknownContext "" Root.names), .empty) := rfl
      cases (unknown _ _).symm.trans (consume_call_argument known argument)
    · intro never args t
      have unknown : env.library.get? name = none := by
        rw [library, Library.get?_ofRegistrations, List.find?_eq_none]
        simpa using never
      rw [consume_call_unknown unknown, library, Library.names_ofRegistrations]
  case known =>
    have known : env.library.get? name = Option.some f := by
      rw [← first, ← Library.get?_ofRegistrations, ← Library.orStandard_ofRegistrations some]
      rfl
    refine ⟨fun e t' => consume_call_argument known, fun vs t' values => ?_⟩
    have named : f.name = name := by simpa using List.find?_some first
    rw [consume_call_applied known values, Function.apply, values.length_eq]
    simp only [Arity.admits_iff]
    split
    · rfl
    · rw [named]
      exact congrArg (Prod.mk _) t'.ask_nil

/-- A second registration of a name is refused: the first one is called, and tells how many arguments there
may be. -/
theorem call_registered_twice :
    let first : Function := ⟨"f", ⟨1, some 1⟩, fun _ args => .pure (.ok (args.getD 0 .null))⟩
    let second : Function := ⟨"f", ⟨0, none⟩, fun _ _ => .pure (.ok (.boolean false))⟩
    let env := Environment.ofHost [] (some (.ofRegistrations [first, second])) {}
    let a : Expr := .literal (.string "a")
    (consume env (.call "f" [a])).run .empty = (.ok (.string "a"), .empty) ∧
      (consume env (.call "f" [a, a])).run .empty =
        (.error (.wrongCount "f" ⟨1, some 1⟩ 2), .empty) ∧
      (consume env (.call "f" [.root ""])).run .empty =
        (.error (.unknownContext "" Root.names), .empty) ∧
      (consume env (.call "always" [.root ""])).run .empty =
        (.error (.unknownFunction "always" ["f"]), .empty) := by
  intro first second env a
  obtain ⟨-, -, calls⟩ := call_registered [] [first, second] {}
  have calls := calls (List.cons_ne_nil first [second])
  have known := (calls "f").2 first rfl
  refine ⟨?_, ?_, ?_, ?_⟩
  · exact (known [a] .empty).2 [.string "a"] .empty rfl
  · exact (known [a, a] .empty).2 [.string "a", .string "a"] .empty rfl
  · exact (known [.root ""] .empty).1 _ _ rfl
  · exact (calls "always").1.2 (by decide) [.root ""] .empty

/-- In the place of a library without registrations the standard functions are called. -/
theorem call_unregistered :
    let env := Environment.ofHost [] (some (.ofRegistrations [])) {}
    (Library.ofRegistrations []).contains "always" = false ∧
      (env.evaluate (.call "always" []) none).result = .ok ⟨.boolean true, .boolean, []⟩ :=
  ⟨rfl, rfl⟩

end WorkflowExpr
