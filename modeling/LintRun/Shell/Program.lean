import LintRun.Shell.Filter
import LintRun.Shell.Machine

/-!
# Programs

A script can start programs that are installed on the machine. They read the standard input or
files, write to the streams, change the files, and end with a status.

## Main definitions

* `programs` lists the installed programs with what they do.
-/

namespace LintRun.Shell

/-- What a program does with its arguments. -/
abbrev Program := List String → Act Unit

/-- Divides arguments into options and operands. -/
def divideArguments : List String → List String × List String
  | [] => ([], [])
  | "--" :: rest => ([], rest)
  | argument :: rest =>
    let (options, operands) := divideArguments rest
    if argument.startsWith "-" && argument ≠ "-" then (argument :: options, operands)
    else (options, argument :: operands)

/-- Whether an option is among those given. -/
def isGiven (letter : Char) (options : List String) : Bool :=
  options.any fun option => !option.startsWith "--" && option.toList.contains letter

/-- Ends with a status if it is worse than that so far. -/
def worsen (status : Nat) : Act Unit :=
  modify fun m => { m with status := max m.status status }

/-- Says that arguments of a program are missing or wrong. -/
def explain (program problem : String) : Act Unit := do
  say (program ++ ": " ++ problem)
  say ("Try '" ++ program ++ " --help' for more information.")
  setStatus 1

/-- The characters that need no quotes in a name. -/
def isPlainChar (c : Char) : Bool :=
  c.isAlphanum || "%+,-./:=@_^".toList.contains c

/-- A name as it is shown in messages, with quotes if it needs them. -/
def shownName (name : String) : String :=
  if name ≠ "" && name.toList.all isPlainChar then name
  else if name.toList.contains '\'' then "\"" ++ name ++ "\""
  else "'" ++ name ++ "'"

/-- Says what a program could not do with a file. -/
def report (program action operand : String) (e : FileError) (status : Nat) : Act Unit := do
  let quoted := if operand.toList.contains '\'' then shownName operand else "'" ++ operand ++ "'"
  say (program ++ ": " ++ action ++ quoted ++ ": " ++ e.text)
  worsen status

/-! ## Reading and writing files -/

/-- The location that stands for a file without content. -/
def nowhereLocation : Location := ["dev", "null"]

/-- The content of the file at a path. -/
def readFile (path : String) : Act (Except FileError (List UInt8)) := do
  return (← files).content ⟨path⟩

/-- Makes a file with some content, or gives it new content. -/
def writeFile (path : String) (octets : List UInt8) (appends : Bool) :
    Act (Except FileError Location) := do
  let fs ← files
  match fs.resolve ⟨path⟩ { mayLack := true } with
  | .error e => return .error e
  | .ok location =>
    if location = nowhereLocation then return .ok location
    match fs.tree.get? location with
    | some (.directory _) => return .error .isDirectory
    | some (.file content isExecutable) =>
      let content := if appends then content ++ octets else octets
      modify fun m => { m with tree := m.tree.set (.file content isExecutable) location }
      return .ok location
    | _ =>
      modify fun m => { m with tree := m.tree.set (.file octets false) location }
      return .ok location

/-- The streams that operands name, or the standard input if there are none. Files that cannot be
read are left out, after a complaint in the given words. -/
def streams (operands : List String) (complaint : String → FileError → String) :
    Act (List (String × List UInt8)) := do
  let mut found := []
  for operand in if operands.isEmpty then ["-"] else operands do
    if operand = "-" then found := (operand, ← takeInput) :: found
    else
      match ← readFile operand with
      | .ok octets => found := (operand, octets) :: found
      | .error e =>
        say (complaint operand e)
        worsen 1
  return found.reverse

/-- A complaint with the name of the file in front. -/
def plainComplaint (program operand : String) (e : FileError) : String :=
  program ++ ": " ++ shownName operand ++ ": " ++ e.text

/-- A program that writes what a function makes of the files it is given. -/
def filterProgram (program : String) (f : List UInt8 → List UInt8) (operands : List String) :
    Act Unit := do
  let found ← streams operands (plainComplaint program)
  write outputStream (f (found.flatMap Prod.snd))

/-! ## Streams -/

/-- A text with spaces in front up to a width. -/
def alignedRight (width : Nat) (s : String) : String :=
  String.ofList (List.replicate (width - s.length) ' ') ++ s

/-- The stream with the numbers of its lines. -/
def numbered (octets : List UInt8) : List UInt8 :=
  let number (n : Nat) := Text.encode (alignedRight 6 (toString n) ++ "\t")
  ((wholeLines octets).zipIdx.map fun (line, i) => number (i + 1) ++ line).flatten

/-- Writes files one after the other. -/
def concatenate : Program := fun arguments =>
  let (options, operands) := divideArguments arguments
  filterProgram "cat" (if isGiven 'n' options then numbered else id) operands

/-- The portion and the files that arguments ask for. -/
def portionOf (portion : Portion) : List String → Portion × List String
  | [] => (portion, [])
  | "--" :: rest => (portion, rest)
  | [argument] => single portion argument []
  | argument :: value :: rest =>
    if argument = "-n" || argument = "-c" then
      portionOf (counted { portion with countsOctets := argument = "-c" } value) rest
    else
      let (portion, operands) := portionOf portion (value :: rest)
      single portion argument operands
where
  /-- The portion with the number that a text stands for. -/
  counted (portion : Portion) (value : String) : Portion :=
    let digits := value.toList.filter Char.isDigit
    { portion with
      count := ((digits? 10 digits).getD 0).toNat
      fromStart := value.startsWith "+"
      leavesOut := value.startsWith "-" }
  /-- Takes an argument that has its value in it. -/
  single (portion : Portion) (argument : String) (operands : List String) :
      Portion × List String :=
    match argument.toList with
    | '-' :: 'n' :: value => (counted portion (String.ofList value), operands)
    | '-' :: 'c' :: value =>
      (counted { portion with countsOctets := true } (String.ofList value), operands)
    | '-' :: c :: value =>
      if c.isDigit then (counted portion (String.ofList (c :: value)), operands)
      else (portion, operands)
    | _ => (portion, argument :: operands)

/-- A program that writes a portion of every file, below its name if there are several. -/
def portionProgram (program : String) (part : Portion → List UInt8 → List UInt8) : Program :=
  fun arguments => do
    let (portion, operands) := portionOf {} arguments
    let complaint (operand : String) (e : FileError) :=
      program ++ ": cannot open '" ++ operand ++ "' for reading: " ++ e.text
    let found ← streams operands complaint
    let mut isFirst := true
    for (name, octets) in found do
      if operands.length > 1 then
        let title := if name = "-" then "standard input" else name
        writeText outputStream ((if isFirst then "" else "\n") ++ "==> " ++ title ++ " <==\n")
      write outputStream (part portion octets)
      isFirst := false

/-- Exchanges octets of the standard input. -/
def exchangeProgram : Program := fun arguments => do
  let (options, operands) := divideArguments arguments
  let how : Exchange :=
    ⟨isGiven 'c' options || isGiven 'C' options, isGiven 'd' options, isGiven 's' options⟩
  let octets ← takeInput
  match operands with
  | [] => explain "tr" "missing operand"
  | [first] =>
    if how.deletes || how.squeezes then write outputStream (exchange how first none octets)
    else
      say ("tr: missing operand after '" ++ first ++ "'")
      say "Two strings must be given when translating."
      say "Try 'tr --help' for more information."
      setStatus 1
  | first :: second :: _ => write outputStream (exchange how first (some second) octets)

/-- Sorts the lines of files. -/
def sortProgram : Program := fun arguments => do
  let (options, operands) := divideArguments arguments
  let sorting : Sorting := ⟨isGiven 'n' options, isGiven 'r' options, isGiven 'u' options⟩
  let complaint (operand : String) (e : FileError) :=
    "sort: cannot read: " ++ operand ++ ": " ++ e.text
  let found ← streams operands complaint
  if (← get).status = 0 then
    let lines := found.flatMap (linesOf ·.2)
    write outputStream (ofLines (sortLines sorting lines))
  else setStatus 2

/-- Counts what is in files. -/
def countProgram : Program := fun arguments => do
  let (options, operands) := divideArguments arguments
  let found ← streams operands (plainComplaint "wc")
  let countsAll := options.isEmpty
  let numbers (count : TextCount) : List Nat :=
    (if countsAll || isGiven 'l' options then [count.lines] else []) ++
      (if countsAll || isGiven 'w' options then [count.words] else []) ++
      if countsAll || isGiven 'c' options || isGiven 'm' options then [count.octets] else []
  let counts := found.map fun (name, octets) => (name, countText octets)
  let sum (f : TextCount → Nat) : Nat := counts.foldl (fun n (_, count) => n + f count) 0
  let total : TextCount := ⟨sum TextCount.lines, sum TextCount.words, sum TextCount.octets⟩
  let isSingle := (numbers total).length = 1 && operands.length ≤ 1
  let width :=
    if isSingle then 1
    else if operands.isEmpty || operands.contains "-" then 7
    else (toString total.octets).length
  let line (name : String) (count : TextCount) : String :=
    let columns := (numbers count).map (alignedRight width ∘ toString)
    " ".intercalate (columns ++ if name = "" then [] else [name]) ++ "\n"
  for (name, count) in counts do
    writeText outputStream (line (if operands.isEmpty then "" else name) count)
  if operands.length > 1 then writeText outputStream (line "total" total)

/-- Counts from one number to another. -/
def sequenceProgram : Program := fun arguments => do
  let numbers := arguments.map fun s => signed? s.toList
  let numbers? : Option (List Int) :=
    match numbers with
    | [some last] => some (sequence 1 1 last)
    | [some first, some last] => some (sequence first 1 last)
    | [some first, some step, some last] => some (sequence first step last)
    | _ => none
  match numbers? with
  | some items => writeText outputStream (String.join (items.map fun n => toString n ++ "\n"))
  | none =>
    match arguments.find? fun s => (signed? s.toList).isNone with
    | some s => explain "seq" ("invalid floating point argument: '" ++ s ++ "'")
    | none => explain "seq" "missing operand"

/-- Writes the standard input also to files. -/
def copyInput : Program := fun arguments => do
  let (options, operands) := divideArguments arguments
  let octets ← takeInput
  write outputStream octets
  for operand in operands do
    match ← writeFile operand octets (isGiven 'a' options) with
    | .ok _ => pure ()
    | .error e =>
      say (plainComplaint "tee" operand e)
      worsen 1

/-! ## Paths -/

/-- The names on a path, the last of them apart. -/
def divideName (path : String) : List Char × List Char :=
  let trimmed := (path.toList.reverse.dropWhile (· = '/')).reverse
  let last := (trimmed.reverse.takeWhile (· ≠ '/')).reverse
  (trimmed.take (trimmed.length - last.length), last)

/-- Writes the last name on a path, without a given end. -/
def lastName : Program := fun arguments => do
  match arguments with
  | [] => explain "basename" "missing operand"
  | _ :: _ :: third :: _ => explain "basename" ("extra operand '" ++ third ++ "'")
  | path :: rest =>
    let last := (divideName path).2
    let name := if last = [] && path ≠ "" then ['/'] else last
    let ending := ((rest.head?.map String.toList).getD []).reverse
    let isEnding := ending.isPrefixOf name.reverse && ending ≠ name.reverse
    let shown := if isEnding then name.take (name.length - ending.length) else name
    writeText outputStream (String.ofList shown ++ "\n")

/-- Writes a path without its last name. -/
def directoryName : Program := fun arguments => do
  match arguments with
  | [] => explain "dirname" "missing operand"
  | paths =>
    for path in paths do
      let (front, last) := divideName path
      let dir := (front.reverse.dropWhile (· = '/')).reverse
      let shown :=
        if dir ≠ [] then dir
        else if front ≠ [] || (last = [] && path ≠ "") then ['/']
        else ['.']
      writeText outputStream (String.ofList shown ++ "\n")

/-! ## Directories -/

/-- The names that are listed for a directory. -/
def listedNames (options : List String) (tree : FileTree) : List String :=
  let names := tree.entries.map Prod.fst
  let sorted (names : List String) := names.mergeSort (· ≤ ·)
  if isGiven 'a' options then sorted ("." :: ".." :: names)
  else if isGiven 'A' options then sorted names
  else sorted (names.filter (!·.startsWith "."))

/-- Lists files and the entries of directories. -/
def listProgram : Program := fun arguments => do
  let (options, operands) := divideArguments arguments
  let fs ← files
  let operands := if operands.isEmpty then ["."] else operands.mergeSort (· ≤ ·)
  let mut plainFiles := []
  let mut directories := []
  for operand in operands do
    match fs.find ⟨operand⟩ with
    | .ok tree =>
      if tree.isDirectory && !isGiven 'd' options then
        directories := directories ++ [(operand, tree)]
      else plainFiles := plainFiles ++ [operand]
    | .error e =>
      if (fs.find ⟨operand⟩ { followsLink := false }).toOption.isSome then
        plainFiles := plainFiles ++ [operand]
      else report "ls" "cannot access " operand e 2
  let listing (names : List String) := String.join (names.map (· ++ "\n"))
  writeText outputStream (listing plainFiles)
  let mut isFirst := plainFiles.isEmpty
  for (name, tree) in directories do
    if operands.length > 1 then
      writeText outputStream ((if isFirst then "" else "\n") ++ name ++ ":\n")
    writeText outputStream (listing (listedNames options tree))
    isFirst := false

/-- Does something with every operand, of which there has to be one. -/
def forOperands (program what : String) (operands : List String) (act : String → Act Unit) :
    Act Unit :=
  if operands.isEmpty then explain program ("missing " ++ what) else operands.forM act

/-- Makes files that are not there. -/
def touchProgram : Program := fun arguments => do
  forOperands "touch" "file operand" (divideArguments arguments).2 fun operand => do
    let isThere := ((← files).find ⟨operand⟩).toOption.isSome
    if !isThere then
      if let .error e ← writeFile operand [] true then report "touch" "cannot touch " operand e 1

/-- Makes directories, where `wholePath` says so with those on the way. -/
def makeDirectory (wholePath : Bool) (operand : String) : Act Unit := do
  let fs ← files
  let make (location : Location) : Act Unit :=
    modify fun m => { m with tree := m.tree.set .emptyDirectory location }
  match fs.resolve ⟨operand⟩ { mayLack := true } with
  | .ok location =>
    match fs.tree.get? location with
    | none => make location
    | some tree =>
      if !(wholePath && tree.isDirectory) then
        say ("mkdir: cannot create directory '" ++ operand ++ "': File exists")
        worsen 1
  | .error e =>
    if wholePath && e = .notFound then
      let start := if (Path.mk operand).isAbsolute then [] else fs.here
      let names := (Path.mk operand).pieces.filter fun name => name ≠ "" && name ≠ "."
      make (start ++ names)
    else report "mkdir" "cannot create directory " operand e 1

/-- Makes directories. -/
def makeDirectories : Program := fun arguments => do
  let (options, operands) := divideArguments arguments
  forOperands "mkdir" "operand" operands (makeDirectory (isGiven 'p' options))

/-- Removes files, and directories if it is asked to. -/
def removeProgram : Program := fun arguments => do
  let (options, operands) := divideArguments arguments
  if operands.isEmpty && isGiven 'f' options then return
  forOperands "rm" "operand" operands fun operand => do
    let fs ← files
    match fs.resolve ⟨operand⟩ { followsLink := false } with
    | .ok location =>
      if fs.isDirectory location.path && !(isGiven 'r' options || isGiven 'R' options) then
        report "rm" "cannot remove " operand .isDirectory 1
      else modify fun m => { m with tree := m.tree.remove location }
    | .error e =>
      if !(isGiven 'f' options) then report "rm" "cannot remove " operand e 1

/-- Makes files executable, or takes that from them. -/
def permitProgram : Program := fun arguments => do
  match arguments with
  | mode :: operands =>
    let permits := mode.toList.contains '+' || mode.toList.any fun c => c = '5' || c = '7'
    for operand in operands do
      let fs ← files
      match fs.resolve ⟨operand⟩, fs.find ⟨operand⟩ with
      | .ok location, .ok (.file content _) =>
        modify fun m => { m with tree := m.tree.set (.file content permits) location }
      | .error e, _ => report "chmod" "cannot access " operand e 1
      | _, _ => pure ()
  | [] => explain "chmod" "missing operand"

/-- Copies a file, and removes the old one where `moves` says so. -/
def copyProgram (program : String) (moves : Bool) : Program := fun arguments => do
  match (divideArguments arguments).2 with
  | [source, target] =>
    let fs ← files
    match fs.resolve ⟨source⟩ { followsLink := !moves } with
    | .error e => report program "cannot stat " source e 1
    | .ok old =>
      let name := String.ofList (divideName source).2
      let target := if fs.isDirectory ⟨target⟩ then target ++ "/" ++ name else target
      match fs.resolve ⟨target⟩ { mayLack := true }, fs.tree.get? old with
      | .ok new, some tree =>
        if moves then modify fun m => { m with tree := (m.tree.remove old).set tree new }
        else if tree.isDirectory then
          say (program ++ ": -r not specified; omitting directory '" ++ source ++ "'")
          worsen 1
        else modify fun m => { m with tree := m.tree.set tree new }
      | .error e, _ => report program "cannot create regular file " target e 1
      | _, _ => pure ()
  | [operand] => explain program ("missing destination file operand after '" ++ operand ++ "'")
  | _ => explain program "missing file operand"

/-- Makes a link. -/
def linkProgram : Program := fun arguments => do
  match divideArguments arguments with
  | (_, [target, path]) =>
    let fs ← files
    let name := String.ofList (divideName target).2
    let path := if fs.isDirectory ⟨path⟩ then path ++ "/" ++ name else path
    match fs.resolve ⟨path⟩ { followsLink := false, mayLack := true } with
    | .ok location =>
      if (fs.tree.get? location).isNone then
        modify fun m => { m with tree := m.tree.set (.link target) location }
      else
        say ("ln: failed to create symbolic link '" ++ path ++ "': File exists")
        worsen 1
    | .error e => report "ln" "failed to create symbolic link " path e 1
  | _ => explain "ln" "missing file operand"

/-- Drops repeated lines, or counts them. -/
def uniqueProgram : Program := fun arguments =>
  let (options, operands) := divideArguments arguments
  let count (lines : List (List UInt8)) : List (List UInt8) :=
    (lines.splitBy (· == ·)).filterMap fun group =>
      let number := Text.encode (alignedRight 7 (toString group.length) ++ " ")
      group.head?.map (number ++ ·)
  let treat := if isGiven 'c' options then count else dropRepeated
  filterProgram "uniq" (ofLines ∘ treat ∘ linesOf) operands

/-- The installed programs other than the shell. -/
def programs : List (String × Program) :=
  [("basename", lastName), ("cat", concatenate), ("chmod", permitProgram),
   ("cp", copyProgram "cp" false), ("dirname", directoryName),
   ("head", portionProgram "head" Portion.front), ("ln", linkProgram), ("ls", listProgram),
   ("mkdir", makeDirectories), ("mv", copyProgram "mv" true), ("rm", removeProgram),
   ("seq", sequenceProgram), ("sleep", fun _ => pure ()), ("sort", sortProgram),
   ("tail", portionProgram "tail" Portion.back), ("tee", copyInput), ("touch", touchProgram),
   ("tr", exchangeProgram), ("uniq", uniqueProgram), ("wc", countProgram)]

end LintRun.Shell
