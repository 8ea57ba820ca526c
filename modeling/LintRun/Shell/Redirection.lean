import LintRun.Shell.Builtin
import LintRun.Shell.Expansion

/-!
# Redirections

A command can read from a file and write to files, or let one stream go where another one goes. The
redirections of a command are made one after the other, and hold as long as the command runs.

## Main definitions

* `redirect` makes a redirection.
* `withRedirections` runs something with redirections.
-/

namespace LintRun.Shell

/-- Sends a stream to a sink. -/
def Process.send (stream : Nat) (sink : Sink) (p : Process) : Process :=
  { p with sinks := (stream, sink) :: p.sinks.filter (·.1 ≠ stream) }

/-- The wording of the reason why a file cannot be opened. -/
def openError (missing : String) (e : FileError) : String :=
  match e with
  | .notFound => missing
  | .notDirectory => missing
  | e => e.text

/-- The sink behind the location of a file. -/
def sinkAt (p : Process) (location : Location) : Sink :=
  let sinkOf (stream : Nat) := (p.sinks.lookup stream).getD .nowhere
  if location = nowhereLocation then .nowhere
  else if location = ["dev", "stdout"] then sinkOf outputStream
  else if location = ["dev", "stderr"] then sinkOf messageStream
  else .file location

/-- Complains about a redirection. -/
def refuseRedirection (s : String) : Act Bool := do
  complain s
  setStatus mistakeStatus
  return false

/-- Changes a stream, and says whether it worked. -/
def redirect (capture : Capture) (redirection : Redirection) : Act Bool := do
  match redirection with
  | .input stream file =>
    let path ← expandText capture file
    match ← readFile path with
    | .ok octets =>
      if stream = 0 then modify fun m => { m with input := octets }
      return true
    | .error .isDirectory =>
      if stream = 0 then modify fun m => { m with input := [] }
      return true
    | .error e =>
      refuseRedirection ("cannot open " ++ path ++ ": " ++ openError "No such file" e)
  | .output stream file appends =>
    let path ← expandText capture file
    match ← writeFile path [] appends with
    | .ok location =>
      change fun p => p.send stream (sinkAt p location)
      return true
    | .error e =>
      refuseRedirection ("cannot create " ++ path ++ ": " ++ openError "Directory nonexistent" e)
  | .copy stream source =>
    let text ← expandText capture source
    match count? text with
    | some n =>
      if stream = 0 || n = 0 then return true
      match (← current).sinks.lookup n with
      | some sink =>
        change (Process.send stream sink)
        return true
      | none => refuseRedirection (text ++ ": Bad file descriptor")
    | none =>
      if text ≠ "-" then fail "Syntax error: Bad fd number"
      if stream = 0 then modify fun m => { m with input := [] }
      change (Process.send stream .nowhere)
      return true
  | .document stream text =>
    let s ← expandText capture text
    if stream = 0 then modify fun m => { m with input := Text.encode s }
    return true

/-- Changes streams one after the other, and says whether it worked. -/
def redirectAll (capture : Capture) : List Redirection → Act Bool
  | [] => return true
  | redirection :: rest => do
    if ← redirect capture redirection then redirectAll capture rest else return false

/-- Whether a redirection changes the standard input. -/
def Redirection.isInput : Redirection → Bool
  | .input stream _ => stream = 0
  | .output .. => false
  | .copy stream _ => stream = 0
  | .document stream _ => stream = 0

/-- Runs something with other streams. A redirection that does not work ends the shell where
`isStrict` says so. -/
def withRedirections (capture : Capture) (redirections : List Redirection) (isStrict : Bool)
    (act : Act Unit) : Act Unit := do
  let (sinks, input) := ((← current).sinks, (← get).input)
  try
    if ← redirectAll capture redirections then act
    else if isStrict then throw .exit
  finally
    change fun p => { p with sinks }
    if redirections.any Redirection.isInput then modify fun m => { m with input }

end LintRun.Shell
