import LintRun.Shell.Machine

/-!
# Scopes

Parts of a script see a shell of their own, or change only some of it for others: a part in
parentheses runs in a copy of the shell, a function has arguments of its own, and a loop is what
some commands end.

## Main definitions

* `inCopy`, `inLoop`, `inFunction`, `inNameOf` and `withParameters` run something in a scope.
-/

namespace LintRun.Shell

/-- Ends the shell if a command failed and the shell is to end then. A command whose status is
looked at may fail. -/
def checkFailure (isTested : Bool) : Act Unit := do
  let m ← get
  if m.status ≠ 0 && m.process.endsOnFailure && !isTested then throw .exit

/-- Runs something in a copy of the shell, of which only files and streams stay. -/
def inCopy (act : Act Unit) : Act Unit := do
  let outer ← current
  try
    change fun p => { p with isCopy := true, traps := p.traps.filter (·.1 ≠ 0) }
    act
  catch stop =>
    match stop with
    | .killed .. => throw stop
    | .exhausted => throw stop
    | _ => pure ()
  finally
    change fun _ => outer

/-- Runs something with another standard input. -/
def withInput (input : List UInt8) (act : Act Unit) : Act Unit := do
  let outer := (← get).input
  modify fun m => { m with input }
  try act finally modify fun m => { m with input := outer }

/-- Runs a turn of a loop, and says whether the loop goes on. -/
def runTurn (act : Act Unit) : Act Bool := do
  try
    act
    return true
  catch stop =>
    match stop with
    | .leave loops => if loops > 1 then throw (.leave (loops - 1)) else return false
    | .again loops => if loops > 1 then throw (.again (loops - 1)) else return true
    | _ => throw stop

/-- Runs the turns of a loop. -/
def inLoop (act : Act Unit) : Act Unit := do
  let loops := (← current).loops
  change fun p => { p with loops := loops + 1 }
  try act finally change fun p => { p with loops }

/-- Runs the body of a function, which has parameters of its own. -/
def inFunction (arguments : List String) (act : Act Unit) : Act Unit := do
  let outer ← current
  change fun p => { p with arguments, loops := 0, kept? := some [] }
  try act
  catch stop =>
    match stop with
    | .back => pure ()
    | _ => throw stop
  finally
    change fun p =>
      let kept := p.kept?.getD []
      let p := kept.foldl (fun p (name, old?) => p.restore name old?) p
      { p with arguments := outer.arguments, loops := outer.loops, kept? := outer.kept? }

/-- Runs something in the name of a command. -/
def inNameOf (name : String) (act : Act Unit) : Act Unit := do
  let speaker? := (← current).speaker?
  change fun p => { p with speaker? := some name }
  try act finally change fun p => { p with speaker? }

/-- Runs something with parameters that programs see, which get their old values back. -/
def withParameters (values : List (String × String)) (act : Act Unit) : Act Unit := do
  let outer ← current
  for (name, value) in values do
    assign name value true
  try act
  finally
    change fun p => values.foldl
      (fun p (name, _) => p.restore name (outer.parameters.find? (·.name = name))) p

end LintRun.Shell
