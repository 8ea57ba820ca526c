import LintRun.FileTree.Resolve
import LintRun.Shell.Syntax
import LintRun.Text.Utf8

/-!
# The machine of a shell

Shells run on a machine: a file tree, the streams that were written, and the shell that is running.
Everything that a script does is a change of the machine.

## Main definitions

* `Process` is a running shell, `Machine` all that scripts can change.
* `Act` is what a script does: it changes the machine, and may stop.

## Design notes

Commands run one after the other. A command that reads the output of another one starts when that
one has ended, which nobody can tell if the output is finite.
-/

namespace LintRun.Shell

/-- Where the output of a stream goes. -/
inductive Sink where
  /-- It is kept. -/
  | buffer (number : Nat)
  /-- It goes behind the content of a file. -/
  | file (location : Location)
  /-- It is dropped. -/
  | nowhere
  deriving DecidableEq, Repr

/-- The value of a parameter. -/
structure Parameter where
  /-- The name of the parameter. -/
  name : String
  /-- The value. -/
  value : String
  /-- Whether programs see the parameter. -/
  exported : Bool
  /-- Whether the value cannot be changed. -/
  isFixed : Bool := false
  deriving DecidableEq, Repr

/-- A running shell. -/
structure Process where
  /-- The number of the process. -/
  id : Nat
  /-- The name of the script. -/
  name : String
  /-- The arguments of the script. -/
  arguments : List String
  /-- The working directory. -/
  here : Location
  /-- The path of the working directory, as the script went there. -/
  workingPath : String
  /-- The parameters. -/
  parameters : List Parameter
  /-- The functions. -/
  functions : List (String × Command)
  /-- Where the streams go. -/
  sinks : List (Nat × Sink)
  /-- The line of the script. -/
  line : Nat := 1
  /-- The number of loops around the command. -/
  loops : Nat := 0
  /-- The parameters of the running function that get their old values back, if one is running. -/
  kept? : Option (List (String × Option Parameter)) := none
  /-- The scripts to run when signals come. The number zero stands for the end of the shell. -/
  traps : List (Nat × String) := []
  /-- Whether the shell is a copy that runs a part of the script. -/
  isCopy : Bool := false
  /-- The command in whose name the shell complains. -/
  speaker? : Option String := none
  /-- Whether the shell ends when a command fails. -/
  endsOnFailure : Bool := false
  /-- Whether a parameter without a value is a mistake. -/
  refusesUnset : Bool := false
  /-- Whether commands are shown before they run. -/
  traces : Bool := false
  /-- Whether patterns in arguments stay as they are. -/
  keepsPatterns : Bool := false

/-- All that scripts can change. -/
structure Machine where
  /-- The files. -/
  tree : FileTree
  /-- The streams that are kept, each with its latest part first. -/
  buffers : List (List (List UInt8))
  /-- The standard input. -/
  input : List UInt8 := []
  /-- The number of processes so far. -/
  processes : Nat := 1
  /-- The scripts to run because signals came, the latest first. -/
  pending : List String := []
  /-- The exit status of the last command. -/
  status : Nat := 0
  /-- The exit status of the last script inside of a word. -/
  captured : Nat := 0
  /-- The shell that is running. -/
  process : Process

/-- Why a script stops at some place. -/
inductive Stop where
  /-- The shell ends with the status of the last command. -/
  | exit
  /-- A signal ends a process. -/
  | killed (signal : Nat) (process : Nat)
  /-- Some loops end. -/
  | leave (loops : Nat)
  /-- Some loops end, and the last of them goes on. -/
  | again (loops : Nat)
  /-- A function or a script that was read ends. -/
  | back
  /-- The script took more steps than are given to it. -/
  | exhausted
  deriving DecidableEq, Repr

/-- What a script does. -/
abbrev Act := ExceptT Stop (StateM Machine)

/-- The stream of regular output. -/
def outputStream : Nat := 1

/-- The stream of messages. -/
def messageStream : Nat := 2

/-- The running shell. -/
def current : Act Process :=
  return (← get).process

/-- Changes the running shell. -/
def change (f : Process → Process) : Act Unit :=
  modify fun m => { m with process := f m.process }

/-- Sets the status of the last command. -/
def setStatus (status : Nat) : Act Unit :=
  modify fun m => { m with status }

/-- The files as the running shell sees them. -/
def files : Act FileSystem := do
  let m ← get
  return ⟨m.tree, m.process.here⟩

/-! ## Streams -/

/-- Adds octets to a buffer. -/
def addTo (number : Nat) (octets : List UInt8) (buffers : List (List (List UInt8))) :
    List (List (List UInt8)) :=
  buffers.modify number (octets :: ·)

/-- The octets in a buffer. -/
def contentOf (number : Nat) (m : Machine) : List UInt8 :=
  (m.buffers[number]?.getD []).reverse.flatten

/-- Writes octets to a stream. -/
def write (stream : Nat) (octets : List UInt8) : Act Unit :=
  modify fun m =>
    match m.process.sinks.lookup stream with
    | some (.buffer number) => { m with buffers := addTo number octets m.buffers }
    | some (.file location) =>
      match m.tree.get? location with
      | some (.file content isExecutable) =>
        { m with tree := m.tree.set (.file (content ++ octets) isExecutable) location }
      | _ => m
    | _ => m

/-- Writes a text to a stream. -/
def writeText (stream : Nat) (s : String) : Act Unit :=
  write stream (Text.encode s)

/-- Writes a message. -/
def say (s : String) : Act Unit :=
  writeText messageStream (s ++ "\n")

/-- Writes a message of the shell with the name and the line of the script, and the command that
complains. -/
def complain (s : String) : Act Unit := do
  let p ← current
  let speaker := (p.speaker?.map (· ++ ": ")).getD ""
  say (p.name ++ ": " ++ toString p.line ++ ": " ++ speaker ++ s)

/-- The status for a mistake in a script. -/
def mistakeStatus : Nat := 2

/-- Ends the shell with a message. -/
def fail {α : Type} (s : String) : Act α := do
  complain s
  setStatus mistakeStatus
  throw .exit

/-- Starts a new buffer, and gives its number. -/
def newBuffer : Act Nat := do
  let m ← get
  set { m with buffers := m.buffers ++ [[]] }
  return m.buffers.length

/-- Takes the whole standard input. -/
def takeInput : Act (List UInt8) := do
  let m ← get
  set { m with input := [] }
  return m.input

/-! ## Parameters -/

/-- The value of a parameter that can be set. -/
def Process.setting? (p : Process) (name : String) : Option String :=
  (p.parameters.find? (·.name = name)).map Parameter.value

/-- Sets a parameter. -/
def Process.assign (name value : String) (exports : Bool) (p : Process) : Process :=
  match p.parameters.find? (·.name = name) with
  | some old =>
    let new := { old with value, exported := old.exported || exports }
    { p with parameters := p.parameters.map fun v => if v.name = name then new else v }
  | none => { p with parameters := p.parameters ++ [{ name, value, exported := exports }] }

/-- Sets a parameter, unless its value cannot be changed. -/
def assign (name value : String) (exports : Bool) : Act Unit := do
  if (← current).parameters.any fun v => v.name = name && v.isFixed then
    fail (name ++ ": is read only")
  change (Process.assign name value exports)

/-- Makes the value of a parameter one that cannot be changed. -/
def Process.fix (name : String) (p : Process) : Process :=
  { p with
    parameters := p.parameters.map fun v => { v with isFixed := v.isFixed || v.name = name } }

/-- Gives a parameter back what it was. -/
def Process.restore (name : String) (old? : Option Parameter) (p : Process) : Process :=
  let others := p.parameters.filter (·.name ≠ name)
  { p with parameters := others ++ old?.toList }

/-- Makes a parameter unset. -/
def Process.unassign (name : String) (p : Process) : Process :=
  { p with parameters := p.parameters.filter (·.name ≠ name) }

/-- The characters that separate fields. -/
def Process.separators (p : Process) : List Char :=
  ((p.setting? "IFS").getD " \t\n").toList

/-- The arguments with the first separator between them, if there are any. -/
def Process.joined? (p : Process) : Option String :=
  let separator := String.ofList (p.separators.take 1)
  if p.arguments.isEmpty then none else some (separator.intercalate p.arguments)

/-- The value of a parameter, if it is set. -/
def value? (name : String) : Act (Option String) := do
  let m ← get
  let p := m.process
  match name with
  | "?" => return some (toString m.status)
  | "$" => return some (toString p.id)
  | "#" => return some (toString p.arguments.length)
  | "@" => return p.joined?
  | "*" => return p.joined?
  | "-" => return some ""
  | "!" => return none
  | "0" => return some p.name
  | _ =>
    match name.toNat? with
    | some (n + 1) => return p.arguments[n]?
    | _ => return p.setting? name

end LintRun.Shell
