import LintRun.Dialogue.Basic
import LintRun.FileTree.Discovery
import LintRun.Shell.Run

/-!
# The world of a machine

A machine with a file tree, installed programs and a shell is a world for dialogues: commands are
scripts that its shell runs, and executables are looked up where the shell looks for programs.

## Main definitions

* `Shell.runCall` runs a command on a machine.
* `Shell.world` is the world of a machine, whose states are its files.
-/

namespace LintRun.Shell

/-- The number of steps that a command may take. -/
def stepLimit : Nat := 100000

/-- The directories in which programs are looked for. -/
def programDirectories : List String :=
  ["/usr/local/sbin", "/usr/local/bin", "/usr/sbin", "/usr/bin", "/sbin", "/bin"]

/-- The name of the shell. -/
def shellName : String := "sh"

/-- The directory of the installed programs. -/
def programLocation : Location := ["usr", "bin"]

/-- The files of a machine on which nothing but the programs is installed. -/
def bareTree : FileTree :=
  let installed := (shellName :: installedNames).foldl
    (fun tree name => tree.set (.file programContent true) (programLocation ++ [name]))
    FileTree.emptyDirectory
  let devices := ["null", "stdout", "stderr"].foldl
    (fun tree name => tree.set (.file [] false) ["dev", name]) installed
  ["tmp", "root"].foldl (fun tree name => tree.set .emptyDirectory [name])
    (devices.set (.link "usr/bin") ["bin"])

/-- The parameters of a new shell. -/
def firstParameters (workingPath : String) : List Parameter :=
  let shown (name value : String) : Parameter := { name, value, exported := true }
  [shown "PATH" (":".intercalate programDirectories), shown "HOME" "/root",
   shown "PWD" workingPath, { name := "IFS", value := " \t\n", exported := false }]

/-- A new shell in a directory. Its output goes to the first buffer, its messages to the second. -/
def firstProcess (here : Location) : Process :=
  let workingPath := (Location.path here).text
  { id := 1000, name := shellName, arguments := [], here, workingPath
    parameters := firstParameters workingPath, functions := []
    sinks := [(outputStream, .buffer 0), (messageStream, .buffer 1)] }

/-- A machine with a new shell. -/
def firstMachine (tree : FileTree) (here : Location) : Machine :=
  let process := firstProcess here
  { tree, buffers := [[], []], processes := process.id, process }

/-- The status of a shell that did not end by itself. -/
def brokenStatus : Int := -1

/-- What a script leaves behind that is run in a directory, and the files after it. -/
def runText (script : String) (tree : FileTree) (here : Location) : RawOutput × FileTree :=
  let (stop, m) := (runWhole stepLimit script).run (firstMachine tree here)
  let status : Int :=
    match stop with
    | .ok () => m.status % statusCount
    | .error _ => brokenStatus
  let text (buffer : Nat) := Text.trim (Text.decodeLossy (contentOf buffer m))
  (⟨status, text 0, text 1⟩, m.tree)

/-- The reason why no process takes a text with a null character. -/
def nullReason : String := "nul byte found in provided data"

/-- The directory that a command is run in, or why it cannot be run there. -/
def directoryOf (fs : FileSystem) (call : Call) : Except String Location :=
  let hasNull (s : String) := s.toList.contains '\x00'
  if hasNull call.command || hasNull call.dir.text then .error nullReason
  else if call.dir.text = "" then .ok fs.here
  else
    match fs.resolve call.dir with
    | .error e => .error e.message
    | .ok location =>
      if fs.isDirectory location.path then .ok location
      else .error FileError.notDirectory.message

/-- Runs a command. A status other than zero is a failure unless the call ignores errors. -/
def runCall (call : Call) (fs : FileSystem) : Except Failure RawOutput × FileSystem :=
  match directoryOf fs call with
  | .error reason => (.error (.spawn call.command reason), fs)
  | .ok here =>
    let (output, tree) := runText call.command fs.tree here
    let fs := { fs with tree }
    if output.succeeded || call.ignoresErrors then (.ok output, fs)
    else (.error (.process call.command output.status output.stderr), fs)

/-- Whether an executable is found. -/
def isInstalled (fs : FileSystem) (executable : String) : Bool :=
  (fs.executable? (programDirectories.map Path.mk) executable).isSome

/-- The world of a machine. -/
def world : World FileSystem where
  lookUp executable := return isInstalled (← get) executable
  call c := fun fs => runCall c fs
  listFiles dir := return (← get).discover dir
  canonical dir := return (← get).canonical? dir

end LintRun.Shell
