import Registrar.Fault

namespace Registrar.Cli

/-!
# Command line arguments

Options and positional arguments may come in any order; everything behind `--` is
positional. The value of an option follows it, or stands behind an equals sign, or
directly behind its letter.

* `OptionSpec` — an option: its name, its letter and how many values it takes;
* `Given` — the values given for each option, and the positional arguments;
* `Given.ofArguments?` — what the arguments give, unless they break the rules;
* `Given.one?`, `Given.optional?` — the value of an option.
-/

/-- How many values an option takes. -/
inductive Arity where
  | flag
  | one
  /-- Any number of values, at least one each time it is given. -/
  | many
deriving DecidableEq

/-- An option: its name behind two dashes, its letter behind one, and how many
    values it takes. -/
structure OptionSpec where
  name : String
  letter : Option Char := none
  arity : Arity := .one
deriving DecidableEq

/-- The values given for each option, and the positional arguments, both in order. -/
structure Given where
  options : List (String × List String) := []
  positional : List String := []
deriving DecidableEq

namespace Given

/-- What was given so far, and the option that still waits for values. -/
structure Progress where
  given : Given := {}
  waiting : Option (OptionSpec × List String) := none

/-- Adds the values of an option. Only an option for many values may be given
    again. -/
def record? (given : Given) (spec : OptionSpec) (values : List String) : Option Given :=
  if spec.arity ≠ .many ∧ (given.options.lookup spec.name).isSome then none
  else some { given with options := given.options ++ [(spec.name, values)] }

/-- Nothing waits any more; an option that waits without any value breaks the rules. -/
def Progress.settle? (progress : Progress) : Option Given :=
  match progress.waiting with
  | none => some progress.given
  | some (_, []) => none
  | some (spec, values) => progress.given.record? spec values

/-- An option with the value that is attached to it, if there is one. -/
def Progress.option? (progress : Progress) (spec : OptionSpec) (attached : Option String) :
    Option Progress := do
  let given ← progress.settle?
  match spec.arity, attached with
  | .flag, none => return { given := ← given.record? spec [] }
  | .flag, some _ => none
  | _, some value => return { given := ← given.record? spec [value] }
  | _, none => return { given, waiting := some (spec, []) }

/-- A value for the option that waits, or else a positional argument. -/
def Progress.value? (progress : Progress) (value : String) : Option Progress :=
  match progress.waiting with
  | none => some { given :=
      { progress.given with positional := progress.given.positional ++ [value] } }
  | some (spec, values) =>
    if spec.arity = .many then some { progress with waiting := some (spec, values ++ [value]) }
    else (progress.given.record? spec (values ++ [value])).map fun given => { given }

/-- An option by its name, with what stands behind an equals sign. -/
def Progress.long? (specs : List OptionSpec) (progress : Progress) (text : List Char) :
    Option Progress :=
  let name := text.takeWhile (· ≠ '=')
  let attached := match text.dropWhile (· ≠ '=') with
    | [] => none
    | _ :: value => some (String.ofList value)
  match specs.find? fun spec => spec.name.toList == name with
  | some spec => progress.option? spec attached
  | none => none

/-- Options by their letters; the first one that takes a value takes what follows. -/
def Progress.letters? (specs : List OptionSpec) (progress : Progress) :
    List Char → Option Progress
  | [] => some progress
  | letter :: rest =>
    match specs.find? fun spec => spec.letter == some letter with
    | none => none
    | some spec =>
      if spec.arity = .flag then do
        let next ← progress.option? spec none
        next.letters? specs rest
      else match rest with
        | [] => progress.option? spec none
        | '=' :: value => progress.option? spec (some (String.ofList value))
        | value => progress.option? spec (some (String.ofList value))

/-- What more arguments give. -/
def Progress.read? (specs : List OptionSpec) (progress : Progress) :
    List String → Option Given
  | [] => progress.settle?
  | "--" :: rest => do
    let given ← progress.settle?
    return { given with positional := given.positional ++ rest }
  | argument :: rest => do
    let next ← match argument.toList with
      | '-' :: '-' :: text => progress.long? specs text
      | '-' :: letter :: letters => progress.letters? specs (letter :: letters)
      | _ => progress.value? argument
    next.read? specs rest

/-- What the arguments give, unless they break the rules. -/
def ofArguments? (specs : List OptionSpec) (arguments : List String) : Option Given :=
  Progress.read? specs {} arguments

/-! ### Values of options -/

/-- All the values of an option; one value may hold several with commas between
    them. -/
def all (given : Given) (name : String) : List String :=
  (given.options.filter fun option => option.1 == name).flatMap Prod.snd

/-- Whether an option is given. -/
def has (given : Given) (name : String) : Bool := (given.options.lookup name).isSome

/-- The value of an option that has to be given. -/
def one? {α : Type} (given : Given) (name : String) (read : String → Option α) : Option α :=
  (given.all name).head?.bind read

/-- The value of an option that may be missing; the outer option is none if the
    value is refused. -/
def optional? {α : Type} (given : Given) (name : String) (read : String → Option α) :
    Option (Option α) :=
  match (given.all name).head? with
  | none => some none
  | some text => (read text).map some

end Given

end Registrar.Cli
