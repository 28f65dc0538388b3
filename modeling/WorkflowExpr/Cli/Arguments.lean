/-!
# Command line arguments

Arguments are options and words. An option has a long name behind two dashes and may have a letter
behind one; letters can share a dash. The value of an option follows it as an argument of its own, or
behind an equals sign or its letter. Two dashes alone end the options.
-/

namespace WorkflowExpr.Cli

/-- An option of a command. -/
structure Opt (α : Type) where
  id : α
  long : String
  letter? : Option Char
  takesValue : Bool

/-- Options as they were given, each with its value if it takes one, and the words. -/
structure Arguments (α : Type) where
  given : List (α × String)
  words : List String

namespace Arguments

variable {α : Type}

/-- More options in front. -/
def withOptions (more : List (α × String)) (a : Arguments α) : Arguments α :=
  { a with given := more ++ a.given }

/-- One more word in front. -/
def withWord (word : String) (a : Arguments α) : Arguments α :=
  { a with words := word :: a.words }

/-- An option by its long name, with the value that an equals sign gives it. What is left of the
arguments comes with it. -/
def long? (opts : List (Opt α)) (name : String) (value? : Option String) (rest : List String) :
    Option (Option ((α × String) × List String)) :=
  (opts.find? fun o => "--" ++ o.long == name).map fun o =>
    match o.takesValue, value?, rest with
    | true, some value, _ => some ((o.id, value), rest)
    | true, none, value :: rest => some ((o.id, value), rest)
    | true, none, [] => none
    | false, none, _ => some ((o.id, ""), rest)
    | false, some _, _ => none

/-- Options by their letters. -/
def letters? (opts : List (Opt α)) :
    List Char → List String → Option (List (α × String) × List String)
  | [], rest => some ([], rest)
  | c :: cs, rest => do
    let o ← opts.find? fun o => o.letter? == some c
    if o.takesValue then
      match cs, rest with
      | [], [] => none
      | [], value :: rest => some ([(o.id, value)], rest)
      | _, _ => some ([(o.id, String.ofList cs)], rest)
    else
      let (more, rest) ← letters? opts cs rest
      some ((o.id, "") :: more, rest)

/-- The name of an option and the value behind its equals sign. -/
def splitValue (arg : List Char) : String × Option String :=
  match arg.dropWhile (· ≠ '=') with
  | [] => (String.ofList arg, none)
  | _ :: value => (String.ofList (arg.takeWhile (· ≠ '=')), some (String.ofList value))

/-- Reads arguments; without `isMixed` the options end at the first word. Nothing comes of an option
that is not known or is used in a wrong way. -/
def read? (opts : List (Opt α)) (isMixed : Bool) : Nat → List String → Option (Arguments α)
  | 0, _ => none
  | _, [] => some ⟨[], []⟩
  | fuel + 1, arg :: rest =>
    let cs := arg.toList
    if arg = "--" then some ⟨[], rest⟩
    else if cs.head? = some '-' ∧ cs ≠ ['-'] then
      let (name, value?) := splitValue cs
      match long? opts name value? rest with
      | some none => none
      | some (some (option, rest)) =>
        (read? opts isMixed fuel rest).map (withOptions [option])
      | none =>
        if cs.take 2 = ['-', '-'] then none
        else do
          let (options, rest) ← letters? opts cs.tail rest
          (read? opts isMixed fuel rest).map (withOptions options)
    else if isMixed then (read? opts isMixed fuel rest).map (withWord arg)
    else some ⟨[], arg :: rest⟩

/-- Reads arguments. -/
def ofList? (opts : List (Opt α)) (isMixed : Bool) (args : List String) : Option (Arguments α) :=
  read? opts isMixed (args.length + 1) args

variable [DecidableEq α]

/-- Whether an option was given. -/
def has (a : Arguments α) (id : α) : Bool :=
  a.given.any fun entry => entry.1 = id

/-- How often an option was given. -/
def count (a : Arguments α) (id : α) : Nat :=
  (a.given.filter fun entry => entry.1 = id).length

/-- The last value given for an option. -/
def value? (a : Arguments α) (id : α) : Option String :=
  (a.given.reverse.find? fun entry => entry.1 = id).map (·.2)

end Arguments

end WorkflowExpr.Cli
