import LintRun.Shell.Parser
import LintRun.Shell.Redirection
import LintRun.Shell.Scope
import LintRun.Text.Blank

/-!
# Running scripts

A script is run command by command. Commands that are in parentheses, in a pipe or inside of a word
run in a copy of the shell, and programs in a process of their own.

## Main definitions

* `exec` runs a command, `runScript` a script.
* `runWhole` runs a script in a new shell up to its end.

## Design notes

All functions take the number of steps that a script may still take from here to the innermost
command. A script that takes more stops with `Stop.exhausted`. The flag `isTested` says whether the
script looks at the status of a command, so that the command may fail without ending the shell.
-/

namespace LintRun.Shell

/-- The octet at the front of an installed program. -/
def programMark : UInt8 := 0x7F

/-- The content of the file of an installed program. -/
def programContent : List UInt8 :=
  programMark :: Text.encode "ELF"

/-- The shells that the first line of a script may name. -/
def shells : List String := ["sh", "dash", "bash"]

/-- Whether the first line of a script names a shell, or nothing. -/
def isForShell (script : String) : Bool :=
  match script.toList with
  | '#' :: '!' :: rest =>
    let line := rest.takeWhile (· ≠ '\n')
    let words := (line.splitBy fun a b => (a = ' ' || a = '/') == (b = ' ' || b = '/'))
    words.any fun word => shells.contains (String.ofList word)
  | _ => true

/-- What arguments of a shell ask for. -/
structure ShellArguments where
  /-- The letters of the options. -/
  letters : List Char := []
  /-- The operands. -/
  operands : List String := []

/-- What arguments of a shell ask for. -/
def ShellArguments.ofList (letters : List Char) : List String → ShellArguments
  | [] => { letters }
  | "--" :: rest => { letters, operands := rest }
  | argument :: rest =>
    match argument.toList with
    | '-' :: more => ShellArguments.ofList (letters ++ more) rest
    | _ => { letters, operands := argument :: rest }

/-- Says that a signal ended a process, and sets the status for it. -/
def mournProcess (signal : Nat) : Act Unit := do
  if let some s := signals.find? (·.number = signal) then
    if s.text ≠ "" then say s.text
  setStatus (128 + signal)

/-- Shows a command before it runs, if that is asked for. -/
def trace (values : List (String × String)) (words : List String) : Act Unit := do
  let texts := values.map (fun (name, value) => name ++ "=" ++ value) ++ words
  if (← current).traces then say ("+ " ++ " ".intercalate texts)

/-- The text that a command wrote, without the newlines at its end. -/
def capturedText (octets : List UInt8) : String :=
  let s := (Text.decodeLossy (octets.filter (· ≠ 0))).toList
  String.ofList (s.reverse.dropWhile (· = '\n')).reverse

mutual

/-- Runs a script from some place on. -/
def runScript (fuel : Nat) (isTested : Bool) (source : Source) : Act Unit :=
  match fuel with
  | 0 => throw .exhausted
  | fuel + 1 => do
    match readLine.run source with
    | .error e =>
      change fun p => { p with line := e.line }
      fail ("Syntax error: " ++ e.text)
    | .ok (none, _) => pure ()
    | .ok (some command, source) =>
      exec fuel isTested command
      runScript fuel isTested source

/-- Runs a text as a script in the same shell. -/
def evaluate (fuel : Nat) (isTested : Bool) (script : String) : Act Unit :=
  match fuel with
  | 0 => throw .exhausted
  | fuel + 1 => do
    if Text.isBlankText script then setStatus 0
    runScript fuel isTested { rest := script.toList, line := (← current).line }

/-- Runs something up to the end of the shell, and then the script that is kept for the end. -/
def toEnd (fuel : Nat) (act : Act Unit) : Act Unit :=
  match fuel with
  | 0 => throw .exhausted
  | fuel + 1 => do
    let untilEnd (act : Act Unit) : Act Unit :=
      tryCatch act fun stop =>
        match stop with
        | .killed .. => throw stop
        | .exhausted => throw stop
        | _ => pure ()
    untilEnd act
    match (← current).traps.lookup 0 with
    | none => pure ()
    | some script =>
      let status := (← get).status
      change fun p => { p with traps := [] }
      untilEnd do
        evaluate fuel false script
        setStatus status

/-- Runs a script of a new shell up to its end. -/
def runWhole (fuel : Nat) (script : String) : Act Unit :=
  match fuel with
  | 0 => throw .exhausted
  | fuel + 1 => toEnd fuel (runScript fuel false { rest := script.toList })

/-- Runs the scripts that are kept for the signals that came. -/
def runPending (fuel : Nat) : Act Unit :=
  match fuel with
  | 0 => throw .exhausted
  | fuel + 1 => do
    let m ← get
    if !m.process.isCopy then
      modify fun m => { m with pending := [] }
      for script in m.pending.reverse do
        evaluate fuel false script
        setStatus m.status

/-- Runs a script of a word, and gives its output. -/
def capture (fuel : Nat) (script : String) : Act String :=
  match fuel with
  | 0 => throw .exhausted
  | fuel + 1 => do
    let number ← newBuffer
    inCopy do
      change (Process.send outputStream (.buffer number))
      toEnd fuel (evaluate fuel false script)
    modify fun m => { m with captured := m.status }
    return capturedText (contentOf number (← get))

/-- Runs a script in a new shell. -/
def runShell (fuel : Nat) (replaces : Bool) (name : String) (asked : ShellArguments)
    (arguments : List String) (script : String) : Act Unit :=
  match fuel with
  | 0 => throw .exhausted
  | fuel + 1 => do
    let outer ← current
    let id := (← get).processes + 1
    modify fun m => { m with processes := id, status := 0 }
    change fun p =>
      let new : Process :=
        { id, name, arguments, here := p.here, workingPath := p.workingPath
          parameters := p.parameters.filter (·.exported), functions := [], sinks := p.sinks }
      asked.letters.foldl (fun p letter => switch true letter p) new
    let run : Act (Option Nat) := do
      try
        runWhole fuel script
        return none
      catch stop =>
        match stop with
        | .killed signal process =>
          if process = id then return some signal else throw stop
        | _ => throw stop
      finally
        change fun _ => outer
    if let some signal ← run then
      if replaces then throw (.killed signal outer.id) else mournProcess signal

/-- Runs the shell as a program. -/
def runShellProgram (fuel : Nat) (replaces : Bool) (name : String)
    (arguments : List String) : Act Unit :=
  match fuel with
  | 0 => throw .exhausted
  | fuel + 1 => do
    let asked := ShellArguments.ofList [] arguments
    let fromInput : Act Unit := do
      let arguments := asked.operands
      runShell fuel replaces name asked arguments (Text.decodeLossy (← takeInput))
    if asked.letters.contains 's' then fromInput
    else match asked.letters.contains 'c', asked.operands with
    | true, [] =>
      say (name ++ ": 0: -c requires an argument")
      setStatus mistakeStatus
    | true, script :: rest =>
      runShell fuel replaces (rest.head?.getD name) asked rest.tail script
    | false, [] => fromInput
    | false, file :: rest =>
      match ← readFile file with
      | .ok octets => runShell fuel replaces file asked rest (Text.decodeLossy octets)
      | .error .isDirectory => setStatus 0
      | .error e =>
        say (name ++ ": 0: cannot open " ++ file ++ ": " ++ openError "No such file" e)
        setStatus mistakeStatus

/-- Runs a program with arguments. It takes the place of the shell where `replaces` says so. -/
def runProgram (fuel : Nat) (replaces : Bool) (name : String) (arguments : List String) :
    Act Unit :=
  match fuel with
  | 0 => throw .exhausted
  | fuel + 1 => do
    let refuse (e : StartError) : Act Unit := do
      complain (name ++ ": " ++ e.text)
      setStatus e.status
    match ← locate name with
    | .error e => refuse e
    | .ok path =>
      match ← readFile path with
      | .error _ => refuse .notPermitted
      | .ok octets =>
        if octets.head? = some programMark then
          let installed := String.ofList (divideName path).2
          match installed? installed with
          | some program => inCopy do
            setStatus 0
            program arguments
          | none => runShellProgram fuel replaces name arguments
        else
          let script := Text.decodeLossy octets
          if isForShell script then runShell fuel replaces path {} arguments script
          else refuse .notFound

/-- Runs a script from a file in the same shell. -/
def runFile (fuel : Nat) (arguments : List String) : Act Unit :=
  match fuel with
  | 0 => throw .exhausted
  | fuel + 1 => do
    match arguments with
    | [] => fail "filename argument required"
    | file :: _ =>
      let fs ← files
      let beside := (← searched).map (· ++ "/" ++ file)
      let candidates := if file.toList.contains '/' then [file] else beside
      match candidates.find? fun path => fs.isFile ⟨path⟩ with
      | none =>
        if file.toList.contains '/' then fail ("cannot open " ++ file ++ ": No such file")
        else fail (file ++ ": not found")
      | some path =>
        let octets := ((← readFile path).toOption).getD []
        setStatus 0
        try inNameOf path (runScript fuel false { rest := (Text.decodeLossy octets).toList })
        catch stop =>
          match stop with
          | .back => pure ()
          | _ => throw stop

/-- What a command that runs scripts does, if the name is that of one. The flag says whether a
mistake in the command ends the shell. -/
def scriptBuiltin? (fuel : Nat) (isTested : Bool) (name : String) :
    Option (Bool × Program) :=
  match fuel with
  | 0 => none
  | fuel + 1 =>
    match name with
    | "eval" => some (true, fun arguments => evaluate fuel isTested (" ".intercalate arguments))
    | "." => some (true, runFile fuel)
    | "exec" => some (true, fun arguments => do
        match arguments with
        | [] => setStatus 0
        | program :: rest =>
          runProgram fuel true program rest
          throw .exit)
    | "command" => some (false, fun arguments => do
        match arguments with
        | [] => setStatus 0
        | "-v" :: words => describe fuel false (words.take 1)
        | "-p" :: program :: rest => runCommand fuel isTested false program rest
        | program :: rest => runCommand fuel isTested false program rest)
    | "type" => some (false, describe fuel true)
    | _ => none

/-- Writes what names stand for, in a sentence or in a word. -/
def describe (fuel : Nat) (inSentence : Bool) (names : List String) : Act Unit :=
  match fuel with
  | 0 => throw .exhausted
  | fuel + 1 => do
    setStatus 0
    let functions := (← current).functions
    for name in names do
      let isSpecial := (specialBuiltins.lookup name).isSome ||
        (scriptBuiltin? fuel false name).any Prod.fst
      let isRegular := (regularBuiltins.lookup name).isSome ||
        (scriptBuiltin? fuel false name).isSome
      let kind? :=
        if reservedWords.contains name then some "a shell keyword"
        else if isSpecial then some "a special shell builtin"
        else if (functions.lookup name).isSome then some "a shell function"
        else if isRegular then some "a shell builtin"
        else none
      let line (kind : String) := if inSentence then name ++ " is " ++ kind else name
      match kind?, ← locate name with
      | some kind, _ => writeText outputStream (line kind ++ "\n")
      | none, .ok path =>
        writeText outputStream ((if inSentence then line path else path) ++ "\n")
      | none, .error _ =>
        if inSentence then writeText outputStream (name ++ ": not found\n")
        setStatus 127

/-- Runs the command with a name: a command of the shell, a function unless `allowsFunctions` is
off, or a program. -/
def runCommand (fuel : Nat) (isTested : Bool) (allowsFunctions : Bool) (name : String)
    (arguments : List String) : Act Unit :=
  match fuel with
  | 0 => throw .exhausted
  | fuel + 1 => do
    let functions := (← current).functions
    let function? := if allowsFunctions then functions.lookup name else none
    match specialBuiltins.lookup name, scriptBuiltin? fuel isTested name, function?,
      regularBuiltins.lookup name with
    | some special, _, _, _ => inNameOf name (special arguments)
    | none, some (_, run), _, _ =>
      if name = "command" then run arguments else inNameOf name (run arguments)
    | none, none, some body, _ =>
      inFunction arguments (exec fuel isTested body)
    | none, none, none, some regular => inNameOf name (regular arguments)
    | none, none, none, none => runProgram fuel false name arguments

/-- Runs a command that is made of words. -/
def execSimple (fuel : Nat) (isTested : Bool) (assignments : List (String × Word))
    (words : List Word) (redirections : List Redirection) : Act Unit :=
  match fuel with
  | 0 => throw .exhausted
  | fuel + 1 => do
    modify fun m => { m with captured := 0 }
    match ← expandFields (capture fuel) words with
    | [] =>
      withRedirections (capture fuel) redirections false do
        for (name, word) in assignments do
          let value ← expandText (capture fuel) word
          assign name value false
          trace [(name, value)] []
        setStatus (← get).captured
    | name :: arguments =>
      let isSpecial := (specialBuiltins.lookup name).isSome ||
        (scriptBuiltin? fuel isTested name).any Prod.fst
      if name = "exec" && arguments.isEmpty then
        if ← redirectAll (capture fuel) redirections then setStatus 0 else throw .exit
      else
        withRedirections (capture fuel) redirections isSpecial do
          let values ← assignments.mapM fun (name, word) => do
            return (name, ← expandText (capture fuel) word)
          trace values (name :: arguments)
          if isSpecial then
            for (name, value) in values do
              assign name value false
            runCommand fuel isTested true name arguments
          else withParameters values (runCommand fuel isTested true name arguments)

/-- Runs a loop, with the status of its last turn. -/
def execLoop (fuel : Nat) (isTested : Bool) (untilPassed : Bool) (condition body : Command)
    (status : Nat) : Act Unit :=
  match fuel with
  | 0 => throw .exhausted
  | fuel + 1 => do
    if ← runTurn (exec fuel true condition) then
      if ((← get).status = 0) != untilPassed then
        if ← runTurn (exec fuel isTested body) then
          execLoop fuel isTested untilPassed condition body (← get).status
      else setStatus status

/-- Runs a command for every value of a parameter. -/
def execForEach (fuel : Nat) (isTested : Bool) (name : String) (body : Command)
    (values : List String) : Act Unit :=
  match fuel, values with
  | 0, _ => throw .exhausted
  | _ + 1, [] => pure ()
  | fuel + 1, value :: rest => do
    assign name value false
    if ← runTurn (exec fuel isTested body) then execForEach fuel isTested name body rest

/-- Runs the command of the first branch with a pattern that matches a text. -/
def execSelect (fuel : Nat) (isTested : Bool) (subject : String)
    (branches : List (List Word × Command)) : Act Unit :=
  match fuel, branches with
  | 0, _ => throw .exhausted
  | _ + 1, [] => setStatus 0
  | fuel + 1, (patterns, body) :: rest => do
    let matchesWord (word : Word) : Act Bool := do
      return isMatch (← expandLetters (capture fuel) word) subject.toList
    if ← patterns.anyM matchesWord then execBranch fuel isTested body
    else execSelect fuel isTested subject rest

/-- Runs a branch, which succeeds if it is empty. -/
def execBranch (fuel : Nat) (isTested : Bool) (body : Command) : Act Unit :=
  match fuel, body with
  | 0, _ => throw .exhausted
  | _ + 1, .skip => setStatus 0
  | fuel + 1, body => exec fuel isTested body

/-- Runs a command. -/
def exec (fuel : Nat) (isTested : Bool) (command : Command) : Act Unit :=
  match fuel with
  | 0 => throw .exhausted
  | fuel + 1 => do
    match command with
    | .skip => pure ()
    | .simple line assignments words redirections =>
      change fun p => { p with line }
      execSimple fuel isTested assignments words redirections
      runPending fuel
      checkFailure isTested
    | .pipe first second =>
      let number ← newBuffer
      inCopy do
        change (Process.send outputStream (.buffer number))
        toEnd fuel (exec fuel false first)
      withInput (contentOf number (← get)) (inCopy (toEnd fuel (exec fuel false second)))
      runPending fuel
      checkFailure isTested
    | .negate command =>
      exec fuel true command
      setStatus (if (← get).status = 0 then 1 else 0)
    | .join .andThen first second =>
      exec fuel isTested first
      exec fuel isTested second
    | .join .ifPassed first second =>
      exec fuel true first
      if (← get).status = 0 then exec fuel isTested second
    | .join .ifFailed first second =>
      exec fuel true first
      if (← get).status ≠ 0 then exec fuel isTested second
    | .background command =>
      withInput [] (inCopy (toEnd fuel (exec fuel false command)))
      setStatus 0
    | .subshell command =>
      inCopy (toEnd fuel (exec fuel isTested command))
      runPending fuel
      checkFailure isTested
    | .redirect command redirections =>
      withRedirections (capture fuel) redirections false (exec fuel isTested command)
    | .choose condition passed failed =>
      exec fuel true condition
      execBranch fuel isTested (if (← get).status = 0 then passed else failed)
    | .loop untilPassed condition body =>
      inLoop (execLoop fuel isTested untilPassed condition body 0)
    | .forEach name words? body =>
      let values ←
        match words? with
        | some words => expandFields (capture fuel) words
        | none => pure (← current).arguments
      if values.isEmpty then setStatus 0
      inLoop (execForEach fuel isTested name body values)
    | .select subject branches =>
      execSelect fuel isTested (← expandText (capture fuel) subject) branches
    | .define name body =>
      change fun p =>
        { p with functions := (name, body) :: p.functions.filter (·.1 ≠ name) }
      setStatus 0

end

end LintRun.Shell
