import LintRun.Text.Split

/-!
# Arguments

The command line names what to do, `run` or `list`, and then says how. Options may stand in any
order, with two dashes and their name or one dash and a letter, and letters may share a dash.

## Main definitions

* `Invocation` is what the arguments ask for.
* `Usage` says why there is nothing to do.
* `Invocation.ofArguments` reads the arguments.

## Design notes

An option that takes a value gets the argument behind it. Whether the option may come at all, and
whether the value is right, is looked at when the next option or path begins, or at the end. An
argument that is not known at all is an error at once.
-/

namespace LintRun

/-- Why the arguments ask for nothing to do. -/
inductive Usage where
  /-- Help was asked for. -/
  | help
  /-- The version was asked for. -/
  | version
  /-- There are no arguments. -/
  | noArguments
  /-- It is not said what to do. -/
  | noCommand
  /-- There is no such option, or one path too many. -/
  | unknownArgument
  /-- There is no such command. -/
  | unknownCommand
  /-- A value is missing or empty. -/
  | badValue
  /-- An option that takes no value has one. -/
  | unneededValue
  /-- An option comes twice. -/
  | repeated
  deriving DecidableEq, Repr

/-- The exit status: zero if something was asked for that needs no run. -/
def Usage.status : Usage → Nat
  | help => 0
  | version => 0
  | _ => 2

/-- An option. -/
inductive Flag where
  | verbose
  | help
  | version
  | config
  | fix
  | format
  | only
  | skipSetupCheck
  deriving DecidableEq, Repr

namespace Flag

/-- The name behind two dashes. -/
def name : Flag → String
  | verbose => "verbose"
  | help => "help"
  | version => "version"
  | config => "config"
  | fix => "fix"
  | format => "format"
  | only => "only"
  | skipSetupCheck => "skip-setup-check"

/-- The letter behind one dash. -/
def letter? : Flag → Option Char
  | verbose => some 'v'
  | help => some 'h'
  | version => some 'V'
  | config => some 'c'
  | format => some 'f'
  | _ => none

/-- Whether the option takes a value. -/
def takesValue : Flag → Bool
  | config => true
  | format => true
  | only => true
  | _ => false

/-- Whether the option may come more than once. -/
def mayRepeat (flag : Flag) : Bool :=
  flag = only

/-- Whether the value may be empty. -/
def allowsEmpty (flag : Flag) : Bool :=
  flag ≠ config

end Flag

/-- What arguments are read for. -/
inductive Scope where
  /-- In front of the name of a command. -/
  | top
  /-- Behind `run`. -/
  | run
  /-- Behind `list`. -/
  | list
  deriving DecidableEq, Repr

/-- The options that a scope knows. -/
def Scope.flags : Scope → List Flag
  | top => [.verbose, .help, .version]
  | run => [.config, .fix, .format, .only, .skipSetupCheck, .verbose, .help]
  | list => [.verbose, .help]

/-- A value that was given but not yet looked at. -/
inductive Pending where
  /-- An option, whose value may not have come yet. -/
  | flag (flag : Flag) (value? : Option String)
  /-- The path. -/
  | path (text : String)
  deriving DecidableEq, Repr

/-- What the arguments of one scope have said so far. -/
structure Given where
  /-- The options with their values, the latest first. -/
  flags : List (Flag × String) := []
  /-- The path. -/
  path? : Option String := none
  /-- What was not looked at yet. -/
  pending? : Option Pending := none
  deriving DecidableEq, Repr

namespace Given

/-- Whether an option came. -/
def has (given : Given) (flag : Flag) : Bool :=
  given.flags.any (·.1 = flag)

/-- Adds an option. -/
def add (given : Given) (flag : Flag) (value : String) : Except Usage Given :=
  if given.has flag && !flag.mayRepeat then .error .repeated
  else if value = "" && flag.takesValue && !flag.allowsEmpty then .error .badValue
  else .ok { given with flags := (flag, value) :: given.flags }

/-- Looks at what was not looked at yet. -/
def settle (given : Given) : Except Usage Given :=
  let settled := { given with pending? := none }
  match given.pending? with
  | none => .ok settled
  | some (.flag _ none) => .error .badValue
  | some (.flag flag (some value)) => settled.add flag value
  | some (.path text) =>
    if text = "" then .error .badValue else .ok { settled with path? := some text }

/-- Takes an option without a value. Help and version end the reading. -/
def takeFlag (given : Given) (flag : Flag) : Except Usage Given := do
  let given ← given.settle
  match flag with
  | .help => .error .help
  | .version => .error .version
  | _ => given.add flag ""

/-- Takes an option that takes a value, which may be attached to it. -/
def takeOption (given : Given) (flag : Flag) (attached? : Option String) :
    Except Usage Given := do
  let given ← given.settle
  match attached? with
  | some value => given.add flag value
  | none => .ok { given with pending? := some (.flag flag none) }

/-- Takes the text behind two dashes: a name, and perhaps a value behind an equals sign. -/
def takeLong (given : Given) (scope : Scope) (s : List Char) : Except Usage Given :=
  let name := String.ofList (s.takeWhile (· ≠ '='))
  let attached? := (s.dropWhile (· ≠ '=')).tail?.map String.ofList
  match scope.flags.find? (·.name = name) with
  | none => .error .unknownArgument
  | some flag =>
    if flag.takesValue then given.takeOption flag attached?
    else if attached?.isSome then .error .unneededValue
    else given.takeFlag flag

/-- Takes the letters behind one dash. The text behind the letter of an option that takes a value is
its value, and an equals sign in front of it does not count. -/
def takeShort (given : Given) (scope : Scope) : List Char → Except Usage Given
  | [] => .ok given
  | letter :: rest =>
    match scope.flags.find? (·.letter? = some letter) with
    | none => .error .unknownArgument
    | some flag =>
      if flag.takesValue then
        match rest with
        | [] => given.takeOption flag none
        | '=' :: value => given.takeOption flag (some (String.ofList value))
        | value => given.takeOption flag (some (String.ofList value))
      else do (← given.takeFlag flag).takeShort scope rest

/-- Takes the path, of which there is at most one and only behind `run`. -/
def takePath (given : Given) (scope : Scope) (text : String) : Except Usage Given :=
  let isGiven :=
    given.path?.isSome ||
      match given.pending? with
      | some (.path _) => true
      | _ => false
  if scope ≠ .run || isGiven then .error .unknownArgument
  else do return { ← given.settle with pending? := some (.path text) }

/-- Takes an argument that is no option. It is the value of an option that waits for one. -/
def takeWord (given : Given) (scope : Scope) (text : String) : Except Usage Given :=
  match given.pending? with
  | some (.flag flag none) => .ok { given with pending? := some (.flag flag (some text)) }
  | _ => given.takePath scope text

/-- Takes the arguments behind two lone dashes, which are no options. -/
def takeRest (given : Given) (scope : Scope) : List String → Except Usage Given
  | [] => given.settle
  | text :: rest => do (← given.takePath scope text).takeRest scope rest

/-- Takes the arguments of a command. -/
def takeAll (given : Given) (scope : Scope) : List String → Except Usage Given
  | [] => given.settle
  | text :: rest =>
    match text.toList with
    | ['-', '-'] => given.takeRest scope rest
    | '-' :: '-' :: s => do (← given.takeLong scope s).takeAll scope rest
    | '-' :: c :: s => do (← given.takeShort scope (c :: s)).takeAll scope rest
    | _ => do (← given.takeWord scope text).takeAll scope rest

/-- The value of an option. -/
def value? (given : Given) (flag : Flag) : Option String :=
  given.flags.lookup flag

end Given

/-- How to run tools. -/
structure RunArguments where
  /-- The directory to lint. -/
  path : String := "."
  /-- The settings file. -/
  config? : Option String := none
  /-- Whether tools are to change files. -/
  fix : Bool := false
  /-- The form of the report. -/
  format : String := "pretty"
  /-- The tools to run. -/
  only : List String := []
  /-- Whether it is not checked that tools work. -/
  skipSetupCheck : Bool := false
  deriving DecidableEq, Repr

/-- How to run tools, as the arguments say. -/
def RunArguments.ofGiven (given : Given) : RunArguments :=
  { path := given.path?.getD "."
    config? := given.value? .config
    fix := given.has .fix
    format := (given.value? .format).getD "pretty"
    only := (given.flags.reverse.filter (·.1 = .only)).flatMap fun (_, value) =>
      Text.splitText ',' value
    skipSetupCheck := given.has .skipSetupCheck }

/-- What to do. -/
inductive Invocation where
  /-- Run tools. -/
  | run (arguments : RunArguments)
  /-- List the registered tools. -/
  | list
  deriving DecidableEq, Repr

namespace Invocation

/-- Whether a word names a command. Asking for help is one. -/
def isCommand (word : String) : Bool :=
  ["run", "lint", "list", "help"].contains word

/-- What `help` gives for the words behind it: help on at most one command. -/
def helpUsage : List String → Usage
  | [] => .help
  | [word] => if isCommand word then .help else .unknownCommand
  | _ => .unknownCommand

/-- What a command asks for with the arguments behind it. -/
def ofCommand (word : String) (rest : List String) : Except Usage Invocation :=
  match word with
  | "run" | "lint" => do return .run (RunArguments.ofGiven (← Given.takeAll {} .run rest))
  | "list" => do
    let _ ← Given.takeAll {} .list rest
    return .list
  | "help" => .error (helpUsage rest)
  | _ => .error .unknownCommand

/-- The mistake in arguments that end without a command. -/
def lacking (given : Given) : Usage :=
  if given.flags.isEmpty then .noArguments else .noCommand

/-- Reads the arguments after those in front of a command. -/
def ofRest (given : Given) : List String → Except Usage Invocation
  | [] => .error (lacking given)
  | text :: rest =>
    match text.toList with
    | ['-', '-'] =>
      match rest with
      | [] => .error (lacking given)
      | word :: _ => .error (if isCommand word then .unknownArgument else .unknownCommand)
    | '-' :: '-' :: s => do ofRest (← given.takeLong .top s) rest
    | '-' :: c :: s => do ofRest (← given.takeShort .top (c :: s)) rest
    | _ => ofCommand text rest

/-- Reads the arguments. -/
def ofArguments (arguments : List String) : Except Usage Invocation :=
  ofRest {} arguments

end Invocation

end LintRun
