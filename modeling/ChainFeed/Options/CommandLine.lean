/-!
# Command lines

A command line is a list of flags, each with a value: `--name value` or `--name=value`. A value that
is an argument of its own is looked at only when the next known flag or the end has been reached, so
an unknown argument behind it is noticed first. Flags that are not given may have a value in the
environment.

## Main definitions

- `ChainFeed.Flag`: a flag and what its value changes
- `ChainFeed.UsageError`: why a command line is refused
- `ChainFeed.CommandLine.parse`: reads arguments and environment
-/

namespace ChainFeed

/-- Why a command line is refused. -/
inductive UsageError where
  /-- A value is none of its type. -/
  | valueValidation
  /-- An argument is not known. -/
  | unknownArgument
  /-- A flag has no value. -/
  | invalidValue
  /-- A flag is given twice. -/
  | argumentConflict
  /-- A flag that takes no value has one. -/
  | tooManyValues
  /-- Help is asked for. -/
  | displayHelp
  deriving DecidableEq, Repr

/-- A flag of options `σ`. -/
structure Flag (σ : Type) where
  name : String
  /-- Whether it may be given more than once. -/
  repeatable : Bool
  /-- Applies a value, unless it is none of the flag's type. -/
  update? : String → σ → Option σ

namespace Flag

variable {σ τ : Type}

/-- The name of a flag in the environment. -/
def variableName (flag : Flag σ) : String :=
  flag.name.map fun c => if c = '-' then '_' else c.toUpper

/-- A flag for options that are a part of others. -/
def within (get : τ → σ) (set : σ → τ → τ) (flag : Flag σ) : Flag τ where
  name := flag.name
  repeatable := flag.repeatable
  update? value whole := (flag.update? value (get whole)).map (set · whole)

end Flag

namespace CommandLine

variable {σ : Type}

/-- A flag whose value has not been applied. -/
inductive Pending (σ : Type) where
  /-- There is none. -/
  | none
  /-- The value is the next argument. -/
  | awaiting (flag : Flag σ)
  /-- The value is known. -/
  | held (flag : Flag σ) (value : String)

/-- What has been read so far. -/
structure State (σ : Type) where
  options : σ
  /-- The names of the flags that were applied. -/
  seen : List String
  pending : Pending σ

/-- Applies the value of a flag. -/
def apply (flag : Flag σ) (value : String) (state : State σ) : Except UsageError (State σ) :=
  if state.seen.contains flag.name && !flag.repeatable then .error .argumentConflict
  else
    match flag.update? value state.options with
    | some options => .ok ⟨options, flag.name :: state.seen, .none⟩
    | none => .error .valueValidation

/-- Applies the pending flag. -/
def settle (state : State σ) : Except UsageError (State σ) :=
  match state.pending with
  | .none => .ok state
  | .awaiting _ => .error .invalidValue
  | .held flag value => apply flag value state

/-- The kinds of arguments. -/
inductive Argument where
  /-- Two dashes, which end the flags. -/
  | divider
  | long (name : String) (value : Option String)
  | short (first : Char)
  | plain (text : String)
  deriving DecidableEq, Repr

/-- The kind of an argument. -/
def Argument.of (arg : String) : Argument :=
  match arg.toList with
  | '-' :: '-' :: [] => .divider
  | '-' :: '-' :: rest =>
    match rest.span (· != '=') with
    | (name, []) => .long (String.ofList name) none
    | (name, _ :: value) => .long (String.ofList name) (some (String.ofList value))
  | '-' :: first :: _ => .short first
  | _ => .plain arg

/-- The error of asking for help, unless the pending flag has one. -/
def help (state : State σ) : UsageError :=
  match settle state with
  | .ok _ => .displayHelp
  | .error e => e

/-- Reads a flag with a long name. -/
def readLong (flags : List (Flag σ)) (name : String) (value : Option String) (state : State σ) :
    Except UsageError (State σ) :=
  if name = "help" then .error (if value.isSome then .tooManyValues else help state)
  else
    match flags.find? (·.name = name) with
    | none => .error .unknownArgument
    | some flag => do
      let state ← settle state
      match value with
      | some value => apply flag value state
      | none => return { state with pending := .awaiting flag }

/-- Reads arguments. -/
def read (flags : List (Flag σ)) : List String → State σ → Except UsageError (State σ)
  | [], state => settle state
  | arg :: args, state =>
    match Argument.of arg with
    | .divider => if args.isEmpty then settle state else .error .unknownArgument
    | .long name value => do read flags args (← readLong flags name value state)
    | .short first => .error (if first = 'h' then help state else .unknownArgument)
    | .plain text =>
      match state.pending with
      | .awaiting flag => read flags args { state with pending := .held flag text }
      | _ => .error .unknownArgument

/-- Applies the values that the environment has for flags that were not given. Flags that may be
repeated have none. -/
def complete (environment : String → Option String) :
    List (Flag σ) → State σ → Except UsageError (State σ)
  | [], state => .ok state
  | flag :: flags, state =>
    if state.seen.contains flag.name || flag.repeatable then complete environment flags state
    else
      match environment flag.variableName with
      | some value => do complete environment flags (← apply flag value state)
      | none => complete environment flags state

/-- The options that arguments and environment give, `defaults` where they are silent. -/
def parse (flags : List (Flag σ)) (defaults : σ) (environment : String → Option String)
    (args : List String) : Except UsageError σ := do
  let state ← read flags args ⟨defaults, [], .none⟩
  return (← complete environment flags state).options

end CommandLine

end ChainFeed
