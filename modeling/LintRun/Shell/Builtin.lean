import LintRun.Shell.Condition
import LintRun.Shell.Form
import LintRun.Shell.Program

/-!
# Commands of the shell itself

Some commands are done by the shell and not by a program, because they change the shell or are
needed often. A mistake in a special one ends the shell.

## Main definitions

* `specialBuiltins` and `regularBuiltins` list the commands with what they do.
* `locate` finds the file that is run for the name of a program.
-/

namespace LintRun.Shell

/-- Complains, with the status for mistakes. -/
def refuse (s : String) : Act Unit := do
  complain s
  setStatus mistakeStatus

/-- The number that an argument stands for, which has digits only. -/
def count? (s : String) : Option Nat :=
  if s ≠ "" && s.toList.all Char.isDigit then (digits? 10 s.toList).map Int.toNat else none

/-- The number in the first argument, or else another one. -/
def countOr (default : Nat) (arguments : List String) : Act Nat := do
  match arguments with
  | [] => return default
  | s :: _ =>
    match count? s with
    | some n => return n
    | none => fail ("Illegal number: " ++ s)

/-! ## Finding programs -/

/-- Why a program cannot be run. -/
inductive StartError where
  | notFound
  | notPermitted
  /-- There is no name. -/
  | unnamed
  deriving DecidableEq, Repr

/-- The wording of the reason. -/
def StartError.text : StartError → String
  | notFound => "not found"
  | notPermitted => "Permission denied"
  | unnamed => "Permission denied"

/-- The exit status for the reason. -/
def StartError.status : StartError → Nat
  | notFound => 127
  | notPermitted => 126
  | unnamed => 127

/-- The directories in which programs are looked for. -/
def searched : Act (List String) := do
  let path := ((← current).setting? "PATH").getD ""
  return (Text.splitText ':' path).map fun dir => if dir = "" then "." else dir

/-- The path of the file that is run for the name of a program. -/
def locate (name : String) : Act (Except StartError String) := do
  let fs ← files
  if name = "" then return .error .unnamed
  else if name.toList.contains '/' then
    match fs.find ⟨name⟩ with
    | .error _ => return .error .notFound
    | .ok _ => return if fs.isExecutable ⟨name⟩ then .ok name else .error .notPermitted
  else
    let candidates := (← searched).map (· ++ "/" ++ name)
    match candidates.find? fun path => fs.isExecutable ⟨path⟩ with
    | some path => return .ok path
    | none => return .error .notFound

/-! ## Control -/

/-- The number of exit statuses. -/
def statusCount : Nat := 256

/-- Ends the shell. -/
def exitBuiltin : Program := fun arguments => do
  let status ← countOr (← get).status arguments
  setStatus (status % statusCount)
  throw .exit

/-- Ends a function. -/
def returnBuiltin : Program := fun arguments => do
  setStatus (← countOr (← get).status arguments)
  throw .back

/-- Ends loops, or goes on with the next turn of one, if there are any. -/
def loopBuiltin (stop : Nat → Stop) : Program := fun arguments => do
  let n ← countOr 1 arguments
  if n = 0 then fail "Illegal number: 0"
  setStatus 0
  let loops := (← current).loops
  if 0 < loops then throw (stop (min n loops))

/-- Drops arguments of the script. -/
def shiftBuiltin : Program := fun arguments => do
  let n ← countOr 1 arguments
  if (← current).arguments.length < n then fail "can't shift that many"
  change fun p => { p with arguments := p.arguments.drop n }
  setStatus 0

/-- Switches ways of the shell on or off. -/
def switch (isOn : Bool) (letter : Char) (p : Process) : Process :=
  match letter with
  | 'e' => { p with endsOnFailure := isOn }
  | 'u' => { p with refusesUnset := isOn }
  | 'x' => { p with traces := isOn }
  | 'f' => { p with keepsPatterns := isOn }
  | _ => p

/-- The letter for the name of a way of the shell. -/
def switchNames : List (String × Char) :=
  [("errexit", 'e'), ("nounset", 'u'), ("xtrace", 'x'), ("noglob", 'f'), ("verbose", 'v'),
   ("noclobber", 'C'), ("allexport", 'a'), ("noexec", 'n')]

/-- Switches ways of the shell and sets the arguments of the script. -/
def setWithin (arguments : List String) : Act Unit :=
  match arguments with
  | [] => pure ()
  | "--" :: rest => change fun p => { p with arguments := rest }
  | sign :: name :: rest =>
    if sign = "-o" || sign = "+o" then
      match switchNames.lookup name with
      | some letter => do
        change (switch (sign = "-o") letter)
        setWithin rest
      | none => fail ("Illegal option " ++ sign ++ " " ++ name)
    else single sign (name :: rest) (setWithin (name :: rest))
  | [argument] => single argument [] (pure ())
where
  /-- Treats one argument, and goes on if it is made of switches. -/
  single (argument : String) (rest : List String) (next : Act Unit) : Act Unit :=
    match argument.toList with
    | '-' :: letters => do
      letters.forM fun letter => change (switch true letter)
      next
    | '+' :: letters => do
      letters.forM fun letter => change (switch false letter)
      next
    | _ => change fun p => { p with arguments := argument :: rest }

/-- Switches ways of the shell and sets the arguments of the script. -/
def setBuiltin : Program := fun arguments => do
  setWithin arguments
  setStatus 0

/-! ## Parameters -/

/-- The name and the value in an argument, if it has an equals sign. -/
def assignmentIn (argument : String) : String × Option String :=
  let name := argument.toList.takeWhile (· ≠ '=')
  match argument.toList.drop name.length with
  | [] => (argument, none)
  | _ :: value => (String.ofList name, some (String.ofList value))

/-- Does something with parameters that may get a value first. -/
def declare (treat : String → Option String → Act Unit) : Program := fun arguments => do
  for argument in arguments do
    let (name, value?) := assignmentIn argument
    if !argument.startsWith "-" then
      if !isName name then fail (name ++ ": bad variable name")
      treat name value?
  setStatus 0

/-- Shows parameters to programs. -/
def exportBuiltin : Program := declare fun name value? => do
  match value? <|> (← current).setting? name with
  | some value => assign name value true
  | none => pure ()

/-- Makes the values of parameters ones that cannot be changed. -/
def fixBuiltin : Program := declare fun name value? => do
  if let some value := value? then assign name value false
  change (Process.fix name)

/-- Gives parameters a value that ends with the function. -/
def localBuiltin : Program := fun arguments => do
  match (← current).kept? with
  | none => fail "not in a function"
  | some _ =>
    let keep (name : String) (value? : Option String) : Act Unit := do
      change fun p =>
        { p with kept? := p.kept?.map ((name, p.parameters.find? (·.name = name)) :: ·) }
      if let some value := value? then assign name value false
    declare keep arguments

/-- Makes parameters or functions unset. -/
def unsetBuiltin : Program := fun arguments => do
  let (options, names) := divideArguments arguments
  for name in names do
    if isGiven 'f' options then
      change fun p => { p with functions := p.functions.filter (·.1 ≠ name) }
    else
      if (← current).parameters.any fun v => v.name = name && v.isFixed then
        fail (name ++ ": is read only")
      change (Process.unassign name)
  setStatus 0

/-- A line of the standard input, and whether it is complete. -/
def takeLine : Act (List UInt8 × Bool) := do
  let m ← get
  let line := m.input.takeWhile (· ≠ newline)
  let rest := m.input.drop line.length
  set { m with input := rest.drop 1 }
  return (line, !rest.isEmpty)

/-- Divides a line into at most `count` fields, the last of which holds all that is left. -/
def divideLine (separators : List Char) (count : Nat) (s : List Char) : List String :=
  let isSpace (c : Char) := separators.contains c && c.isWhitespace
  let trimmed := s.dropWhile isSpace
  match count with
  | 0 => []
  | 1 => [String.ofList (trimmed.reverse.dropWhile isSpace).reverse]
  | count + 2 =>
    let field := trimmed.takeWhile (!separators.contains ·)
    let behind := (trimmed.drop field.length).dropWhile isSpace
    let behind :=
      match behind with
      | c :: more => if separators.contains c then more else behind
      | [] => []
    String.ofList field :: divideLine separators (count + 1) behind

/-- The line without the backslashes that quote characters. -/
def unquoteLine : List Char → List Char
  | '\\' :: c :: rest => c :: unquoteLine rest
  | c :: rest => c :: unquoteLine rest
  | [] => []

/-- Reads a line into parameters. -/
def readBuiltin : Program := fun arguments => do
  let (options, names) := divideArguments arguments
  if names.isEmpty then fail "arg count"
  let (octets, isWhole) ← takeLine
  let chars := (Text.decodeLossy octets).toList
  let chars := if isGiven 'r' options then chars else unquoteLine chars
  let values := divideLine (← current).separators names.length chars
  for (name, value) in names.zip values do
    assign name value false
  setStatus (if isWhole then 0 else 1)

/-! ## Directories -/

/-- The path that a script thinks of when it goes from one directory to another. -/
def logicalPath (workingPath target : String) : String :=
  let path := (Path.mk workingPath).join ⟨target⟩
  let step (names : List String) : Component → List String
    | .name name => names ++ [name]
    | .parent => names.dropLast
    | _ => names
  "/" ++ "/".intercalate (path.components.foldl step [])

/-- Goes to a directory. -/
def changeDirectory : Program := fun arguments => do
  let p ← current
  let operands := (divideArguments arguments).2
  let target? :=
    match operands with
    | [] => p.setting? "HOME"
    | "-" :: _ => p.setting? "OLDPWD"
    | target :: _ => some target
  let target := target?.getD ""
  let path := logicalPath p.workingPath target
  match (← files).resolve ⟨path⟩ with
  | .ok location =>
    if (← files).isDirectory ⟨path⟩ then
      change fun p =>
        let p := p.assign "OLDPWD" p.workingPath false
        { p with here := location, workingPath := path }.assign "PWD" path false
      if operands = ["-"] then writeText outputStream (path ++ "\n")
      setStatus 0
    else refuse ("can't cd to " ++ target)
  | .error _ => refuse ("can't cd to " ++ target)

/-- Writes the working directory. -/
def workingDirectory : Program := fun arguments => do
  let p ← current
  let path := if isGiven 'P' arguments then (Location.path p.here).text else p.workingPath
  writeText outputStream (path ++ "\n")
  setStatus 0

/-! ## Output and conditions -/

/-- Writes arguments in a line. -/
def echoBuiltin : Program := fun arguments => do
  match arguments with
  | "-n" :: rest => write outputStream (echoed false rest)
  | _ => write outputStream (echoed true arguments)
  setStatus 0

/-- Writes arguments in a form. -/
def formBuiltin : Program := fun arguments => do
  match arguments with
  | [] => refuse "usage: printf format [arg ...]"
  | "--" :: [] => refuse "usage: printf format [arg ...]"
  | "--" :: form :: rest => fill form rest
  | form :: rest =>
    match form.toList with
    | '-' :: c :: _ => refuse ("Illegal option -" ++ String.singleton c)
    | _ => fill form rest
where
  /-- Writes arguments in a form. -/
  fill (form : String) (arguments : List String) : Act Unit := do
    let filling := fillForm form arguments
    write outputStream filling.written.reverse
    for s in filling.complaints.reverse do
      complain s
    if filling.breaks then setStatus mistakeStatus
    else setStatus (if filling.complaints.isEmpty then 0 else 1)

/-- Says whether a condition holds. -/
def testBuiltin : Program := fun condition => do
  match holds (← files) condition with
  | .ok true => setStatus 0
  | .ok false => setStatus 1
  | .error e => refuse e.message

/-- Says whether the condition in front of a closing bracket holds. -/
def bracketBuiltin : Program := fun arguments => do
  if arguments.getLast? = some "]" then testBuiltin arguments.dropLast
  else refuse "missing ]"

/-! ## Signals -/

/-- A signal that can be sent. -/
structure Signal where
  /-- The name. -/
  name : String
  /-- The number. -/
  number : Nat
  /-- What is said of a process that it ended, if anything is. -/
  text : String := ""

/-- The signals that end a process. -/
def signals : List Signal :=
  [⟨"HUP", 1, "Hangup"⟩, ⟨"INT", 2, ""⟩, ⟨"QUIT", 3, "Quit"⟩, ⟨"ILL", 4, "Illegal instruction"⟩,
   ⟨"TRAP", 5, "Trace/breakpoint trap"⟩, ⟨"ABRT", 6, "Aborted"⟩, ⟨"BUS", 7, "Bus error"⟩,
   ⟨"FPE", 8, "Floating point exception"⟩, ⟨"KILL", 9, "Killed"⟩,
   ⟨"USR1", 10, "User defined signal 1"⟩, ⟨"SEGV", 11, "Segmentation fault"⟩,
   ⟨"USR2", 12, "User defined signal 2"⟩, ⟨"PIPE", 13, ""⟩, ⟨"ALRM", 14, "Alarm clock"⟩,
   ⟨"TERM", 15, "Terminated"⟩]

/-- The number of the signal with a name or a number. -/
def signalNumber? (s : String) : Option Nat :=
  match count? s with
  | some n => some n
  | none => (signals.find? fun signal => signal.name = s || "SIG" ++ signal.name = s).map (·.number)

/-- The signal that no script can treat. -/
def lastSignal : Nat := 9

/-- Keeps a script for signals and for the end of the shell. The name of a signal that is missing
takes the script away. -/
def trapBuiltin : Program := fun arguments => do
  setStatus 0
  let number? (name : String) : Option Nat := if name = "EXIT" then some 0 else signalNumber? name
  let (script?, names) :=
    match arguments with
    | [name] => (none, [name])
    | "-" :: names => (none, names)
    | script :: names => (some script, names)
    | [] => (none, [])
  for name in names do
    match number? name with
    | some number =>
      change fun p =>
        let others := p.traps.filter (·.1 ≠ number)
        { p with traps := (script?.map (number, ·)).toList ++ others }
    | none =>
      say ("trap: " ++ name ++ ": bad trap")
      setStatus 1

/-- Sends a signal to a process. It ends the process unless a script is kept for it. -/
def send (signal : Nat) (target : String) : Act Unit := do
  match count? target with
  | some process =>
    let p ← current
    if p.id = process then
      setStatus 0
      match p.traps.lookup signal with
      | some script =>
        if signal = lastSignal then throw (.killed signal process)
        else if script ≠ "" then modify fun m => { m with pending := script :: m.pending }
      | none => if signals.any (·.number = signal) then throw (.killed signal process)
    else
      complain "No such process"
      setStatus 1
  | none => refuse ("Illegal number: " ++ target)

/-- Sends a signal to processes. -/
def killBuiltin : Program := fun arguments => do
  match arguments with
  | [] => usage
  | "-s" :: name :: targets => sendTo name targets
  | "--" :: targets => sendTo "TERM" targets
  | first :: targets =>
    match first.toList with
    | '-' :: letter :: name =>
      let name := String.ofList (letter :: name)
      if (signalNumber? name).isSome then sendTo name targets
      else refuse ("Illegal option -" ++ String.singleton letter)
    | _ => sendTo "TERM" arguments
where
  /-- Says how the command is used. -/
  usage : Act Unit :=
    refuse ("Usage: kill [-s sigspec | -signum | -sigspec] [pid | job]... or\n" ++
      "kill -l [exitstatus]")
  /-- Sends the named signal. -/
  sendTo (name : String) (targets : List String) : Act Unit :=
    match signalNumber? name with
    | some signal => if targets.isEmpty then usage else targets.forM (send signal)
    | none => refuse ("invalid signal number or name: " ++ name)

/-! ## Tables -/

/-- The special commands, other than those that run scripts. -/
def specialBuiltins : List (String × Program) :=
  [(":", fun _ => setStatus 0), ("exit", exitBuiltin), ("return", returnBuiltin),
   ("break", loopBuiltin .leave), ("continue", loopBuiltin .again),
   ("shift", shiftBuiltin), ("set", setBuiltin), ("export", exportBuiltin),
   ("readonly", fixBuiltin), ("unset", unsetBuiltin), ("trap", trapBuiltin)]

/-- The regular commands, other than those that run scripts. -/
def regularBuiltins : List (String × Program) :=
  [("true", fun _ => setStatus 0), ("false", fun _ => setStatus 1), ("echo", echoBuiltin),
   ("printf", formBuiltin), ("test", testBuiltin), ("[", bracketBuiltin),
   ("cd", changeDirectory), ("pwd", workingDirectory), ("kill", killBuiltin),
   ("read", readBuiltin), ("local", localBuiltin), ("wait", fun _ => setStatus 0)]

/-- The commands that are also installed as programs. -/
def twinNames : List String :=
  ["[", "echo", "false", "kill", "printf", "pwd", "test", "true"]

/-- The names of the installed programs other than the shell. -/
def installedNames : List String :=
  programs.map Prod.fst ++ twinNames

/-- What an installed program does. -/
def installed? (name : String) : Option Program :=
  match programs.lookup name with
  | some program => some program
  | none => if twinNames.contains name then regularBuiltins.lookup name else none

end LintRun.Shell
