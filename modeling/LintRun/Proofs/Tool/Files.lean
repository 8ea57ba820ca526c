import LintRun.Proofs.Command
import LintRun.Proofs.FileTree.Resolve
import LintRun.Proofs.Tool.Calls
import LintRun.Shell.World

/-!
# The files that a tool is given

A tool that has to be given files is run with the paths of the files that were discovered. Each path
is one word for the shell, and leads to its file, unless there is a backslash in it: backslashes
become slashes, so that the path leads elsewhere.

## Main definitions

* `FileSystem.IsNamedBy` says that words are the paths of the files to be found.

## Main statements

* `Tool.call_mem_events_lint_iff`: when the tool is run, and how.
* `Tool.words_of_call`: the words that it is run with.
-/

namespace LintRun

open Shell (splitWords?)

namespace FileSystem

/-- The words name the files that are offered below a directory, each file once. A word leads to its
file from the directory unless the path is too long. -/
structure IsNamedBy (fs : FileSystem) (mayRead : Location → Bool) (dir : Path)
    (location : Location) (words : List String) : Prop where
  nodup : words.Nodup
  exists_offers : ∀ word ∈ words,
    ∃ path, fs.Offers mayRead (discoveryRoot dir) location path ∧ word = "/".intercalate path
  isFile : ∀ word ∈ words, (dir.join ⟨word⟩).text.utf8ByteSize ≤ pathLimit →
    fs.isFile (dir.join ⟨word⟩) = true
  count_eq_one : ∀ path, fs.Offers mayRead (discoveryRoot dir) location path →
    words.count ("/".intercalate path) = 1

variable {fs : FileSystem} {mayRead : Location → Bool} {dir : Path} {location : Location}

/-- Words that come from the paths in this way name the files if no backslash is replaced. -/
theorem isNamedBy_iff (h : fs.tree.isProper = true)
    (hdir : fs.resolve (discoveryRoot dir) = .ok location) {words : List String}
    {paths : List (List String)} (hnodup : paths.Nodup)
    (hpaths : ∀ path, path ∈ paths ↔ fs.Offers mayRead (discoveryRoot dir) location path)
    (hwords : words.Perm (paths.map fun path => Path.slashed ("/".intercalate path))) :
    fs.IsNamedBy mayRead dir location words ↔
      ∀ path, fs.Offers mayRead (discoveryRoot dir) location path →
        ∀ name ∈ path, '\\' ∉ name.toList := by
  constructor
  · -- A word has no backslash in it, and the text of each path is one of the words.
    intro hnamed path hpath name hname hback
    have hmem : "/".intercalate path ∈ words := by
      have hcount := hnamed.count_eq_one path hpath
      exact List.count_pos_iff.1 (by omega)
    obtain ⟨path', -, heq⟩ := List.mem_map.1 (hwords.mem_iff.1 hmem)
    have hslashed := Path.not_mem_slashed ("/".intercalate path')
    rw [heq, Path.mem_intercalate_iff (by decide)] at hslashed
    exact hslashed ⟨name, hname, hback⟩
  · intro hback
    rw [map_slashed_eq fun path hpath => hback path ((hpaths path).1 hpath)] at hwords
    have hwords' : words.Nodup := by
      rw [hwords.nodup_iff]
      exact nodup_map_intercalate h hnodup fun path hpath => (hpaths path).1 hpath
    have hfrom : ∀ word ∈ words, ∃ path,
        fs.Offers mayRead (discoveryRoot dir) location path ∧ word = "/".intercalate path := by
      intro word hword
      obtain ⟨path, hpath, rfl⟩ := List.mem_map.1 (hwords.mem_iff.1 hword)
      exact ⟨path, (hpaths path).1 hpath, rfl⟩
    refine ⟨hwords', hfrom, fun word hword hsize => ?_, fun path hpath => ?_⟩
    · obtain ⟨path, hpath, rfl⟩ := hfrom word hword
      exact hpath.isFile_join h hdir hsize
    · refine List.count_eq_one_of_mem hwords' (hwords.mem_iff.2 ?_)
      exact List.mem_map.2 ⟨path, (hpaths path).2 hpath, rfl⟩

end FileSystem

namespace Tool

open FileSystem (discoveryRoot)

variable {settings : JobSettings} {mayRead : Location → Bool}

/-! ## The command -/

theorem splitWords?_command (hblank : Text.isBlankText settings.commandPrefix)
    (harguments : Text.isBlankText settings.arguments) (files : List String) :
    splitWords? (apiLinter.command settings.toCommandSettings files) =
      some ("api-linter" :: files) := by
  have hparts : List.Forall₂ Command.FallsInto
      (settings.commandPrefix :: apiLinter.commandParts settings.toCommandSettings files)
      [[], ["api-linter"], [], files] := by
    refine .cons ?_ (.cons rfl (.cons ?_ (.cons ?_ .nil)))
    · exact Command.fallsInto_of_isBlankText hblank
    · exact Command.fallsInto_of_isBlankText harguments
    · exact Command.fallsInto_map_quote files
  rw [command, Command.splitWords?_build hparts]
  simp

/-- The tool is run if there are files, and with these files. -/
theorem call_mem_events_lint_iff {σ : Type} {world : World σ} {s : σ} {call : Call} :
    .call call ∈ ((apiLinter.lint settings).run.run world s).events ↔
      ∃ files, (world.listFiles settings.dir s).1 = .ok files ∧ files ≠ [] ∧
        call = ⟨apiLinter.command settings.toCommandSettings files, settings.dir, true⟩ := by
  rw [← Dialogue.mem_calls_iff, calls_lint]
  cases (world.listFiles settings.dir s).1 with
  | error failure => simp [fileLists]
  | ok files =>
    by_cases hfiles : files = []
    · simp [fileLists, hfiles]
    · simp [fileLists, hfiles]

/-- The words that the tool is run with are the paths of the files to be found, with slashes for
backslashes. They name these files exactly if no name on the way to one of them has a backslash. -/
theorem words_of_call {fs : FileSystem} (h : fs.tree.isProper = true)
    (hblank : Text.isBlankText settings.commandPrefix)
    (harguments : Text.isBlankText settings.arguments) {σ : Type} {world : World σ} {s : σ}
    (hfiles : (world.listFiles settings.dir s).1 = fs.discover settings.dir mayRead) {call : Call}
    (hcall : .call call ∈ ((apiLinter.lint settings).run.run world s).events) :
    ∃ location, fs.resolve (discoveryRoot settings.dir) = .ok location ∧
      ∃ words, splitWords? call.command = some ("api-linter" :: words) ∧ words ≠ [] ∧
        (∃ paths : List (List String), paths.Nodup ∧
          (∀ path, path ∈ paths ↔ fs.Offers mayRead (discoveryRoot settings.dir) location path) ∧
          words.Perm (paths.map fun path => Path.slashed ("/".intercalate path))) ∧
        (fs.IsNamedBy mayRead settings.dir location words ↔
          ∀ path, fs.Offers mayRead (discoveryRoot settings.dir) location path →
            ∀ name ∈ path, '\\' ∉ name.toList) := by
  obtain ⟨files, hlist, hne, rfl⟩ := call_mem_events_lint_iff.1 hcall
  rw [hfiles] at hlist
  obtain ⟨location, haccess, rfl⟩ := FileSystem.discover_eq_ok_iff.1 hlist
  have hdir := (FileSystem.access_eq_ok_iff.1 haccess).1
  have hnodup := FileSystem.nodup_offered h mayRead (discoveryRoot settings.dir) location
  have hpaths : ∀ path, path ∈ fs.offered mayRead (discoveryRoot settings.dir) location ↔ _ :=
    fun path => FileSystem.mem_offered_iff h
  have hperm := fs.discoverAt_perm mayRead (discoveryRoot settings.dir) location
  exact ⟨location, hdir, _, splitWords?_command hblank harguments _, hne,
    ⟨_, hnodup, hpaths, hperm⟩, FileSystem.isNamedBy_iff h hdir hnodup hpaths hperm⟩

/-- The tool is run if there is a file to be found. -/
theorem exists_call_of_offers {fs : FileSystem} (h : fs.tree.isProper = true) {σ : Type}
    {world : World σ} {s : σ}
    (hfiles : (world.listFiles settings.dir s).1 = fs.discover settings.dir mayRead)
    {location : Location} (hdir : fs.access mayRead (discoveryRoot settings.dir) = .ok location)
    {path : List String} (hpath : fs.Offers mayRead (discoveryRoot settings.dir) location path) :
    ∃ call, .call call ∈ ((apiLinter.lint settings).run.run world s).events := by
  have hne : fs.discoverAt mayRead (discoveryRoot settings.dir) location ≠ [] := by
    intro hnil
    have hperm := fs.discoverAt_perm mayRead (discoveryRoot settings.dir) location
    rw [hnil, List.nil_perm, List.map_eq_nil_iff] at hperm
    have hmem := (FileSystem.mem_offered_iff h).2 hpath
    rw [hperm] at hmem
    cases hmem
  have hlist := FileSystem.discover_eq_ok_iff.2 ⟨location, hdir, rfl⟩
  exact ⟨_, call_mem_events_lint_iff.2 ⟨_, hfiles.trans hlist, hne, rfl⟩⟩

/-- A file in a directory and a link to it are named by their paths, whatever the shell makes of the
characters in them. -/
theorem words_of_call_link :
    let settings : JobSettings :=
      { extensions := ["proto"], arguments := "", fix := false, commandPrefix := " ", dir := ⟨"."⟩ }
    let fs : FileSystem := ⟨.directory
      [("b.proto", .link "a/$c d.proto"), ("a", .directory [("$c d.proto", .file [] false)])], []⟩
    ∃ call, .call call ∈ ((apiLinter.lint settings).run.run Shell.world fs).events ∧
      ∃ words, splitWords? call.command = some ("api-linter" :: words) ∧
        fs.IsNamedBy (fun _ => true) settings.dir [] words := by
  intro settings fs
  have hroot : discoveryRoot settings.dir = ⟨"."⟩ := rfl
  have hdot : fs.resolve (discoveryRoot settings.dir) = .ok [] := fs.resolve_dot
  let mayRead : Location → Bool := fun _ => true
  have haccess : fs.access mayRead (discoveryRoot settings.dir) = .ok [] :=
    FileSystem.access_eq_ok_iff.2 ⟨hdot, fun _ => rfl⟩
  have hlink : fs.isFile (FileSystem.entryPath ⟨"."⟩ ["b.proto"]) = true := by
    have hpieces : Path.pieces ⟨"./b.proto"⟩ = [".", "b.proto"] := by decide
    have htarget : Path.pieces ⟨"a/$c d.proto"⟩ = ["a", "$c d.proto"] := by decide
    have hget : fs.tree.get? ["a", "$c d.proto"] = some (.file [] false) := rfl
    refine FileSystem.isFile_iff.2 ⟨_, _, _, FileSystem.resolve_eq_ok_iff.2
      ⟨by decide, by decide, by decide, ?_⟩, hget⟩
    change FileSystem.walk fs.tree {} _ [] (Path.pieces ⟨"./b.proto"⟩) = _
    simp +decide [FileSystem.walk, FileSystem.linkLimit, hpieces, htarget, fs, FileTree.get?,
      FileTree.entries, List.lookup_cons]
  have hopens : fs.opens mayRead (FileSystem.entryPath ⟨"."⟩ ["a"]) = true := by
    have hget : fs.tree.get? ([] ++ ["a"]) =
      some (.directory [("$c d.proto", .file [] false)]) := rfl
    exact (FileSystem.opens_join_iff (by simp) (by decide) hdot hget mayRead).2 (by decide)
  have hoffered : fs.offered mayRead ⟨"."⟩ [] = [["b.proto"], ["a", "$c d.proto"]] := by
    have hget : fs.tree.get? [] = some (.directory
      [("b.proto", .link "a/$c d.proto"), ("a", .directory [("$c d.proto", .file [] false)])]) := rfl
    rw [FileSystem.offered_of_get? hget]
    simp only [visibleEntries, FileTree.visible]
    simp +decide [hlink, hopens]
  have hproper : fs.tree.isProper = true := by decide
  have hoffers : ∀ path, fs.Offers mayRead (discoveryRoot settings.dir) [] path ↔
      path ∈ [["b.proto"], ["a", "$c d.proto"]] := by
    intro path
    rw [← FileSystem.mem_offered_iff hproper, hroot, hoffered]
  have hfiles : (Shell.world.listFiles settings.dir fs).1 = fs.discover settings.dir := rfl
  have hblank : Text.isBlankText settings.commandPrefix := by decide +kernel
  have harguments : Text.isBlankText settings.arguments := rfl
  obtain ⟨call, hcall⟩ :
      ∃ call, .call call ∈ ((apiLinter.lint settings).run.run Shell.world fs).events :=
    exists_call_of_offers hproper hfiles haccess ((hoffers _).2 List.mem_cons_self)
  obtain ⟨location, hlocation, words, hwords, -, -, hnamed⟩ :=
    words_of_call hproper hblank harguments hfiles hcall
  obtain rfl : [] = location := Except.ok.inj (hdot.symm.trans hlocation)
  refine ⟨call, hcall, words, hwords, hnamed.2 fun path hpath name hname => ?_⟩
  have hall : ∀ path ∈ [["b.proto"], ["a", "$c d.proto"]], ∀ name ∈ path, '\\' ∉ name.toList := by
    decide
  exact hall path ((hoffers path).1 hpath) name hname

/-- A backslash in a name becomes a slash, and then the path leads nowhere. -/
theorem words_of_call_backslash :
    let settings : JobSettings :=
      { extensions := ["proto"], arguments := "", fix := false, commandPrefix := "", dir := ⟨"."⟩ }
    let fs : FileSystem := ⟨.directory [("a\\b.proto", .file [] false)], []⟩
    let call : Call := ⟨"api-linter \"a/b.proto\"", ⟨"."⟩, true⟩
    .call call ∈ ((apiLinter.lint settings).run.run Shell.world fs).events ∧
      splitWords? call.command = some ["api-linter", "a/b.proto"] ∧
      fs.isFile (settings.dir.join ⟨"a/b.proto"⟩) = false ∧
      fs.Offers (fun _ => true) (discoveryRoot settings.dir) [] ["a\\b.proto"] := by
  intro settings fs call
  have hroot : discoveryRoot settings.dir = ⟨"."⟩ := rfl
  have hdot : fs.resolve (discoveryRoot settings.dir) = .ok [] := fs.resolve_dot
  have hoffered : fs.offered (fun _ => true) ⟨"."⟩ [] = [["a\\b.proto"]] := by
    have hget : fs.tree.get? [] = some (.directory [("a\\b.proto", .file [] false)]) := rfl
    rw [FileSystem.offered_of_get? hget]
    simp only [visibleEntries, FileTree.visible]
    simp +decide
  have hfiles : fs.discover settings.dir = .ok ["a/b.proto"] := by
    refine FileSystem.discover_eq_ok_iff.2
      ⟨[], FileSystem.access_eq_ok_iff.2 ⟨hdot, fun _ => rfl⟩, ?_⟩
    have hperm := fs.discoverAt_perm (fun _ => true) ⟨"."⟩ []
    have htext : Path.slashed ("/".intercalate ["a\\b.proto"]) = "a/b.proto" := by
      rw [← String.toList_inj, Path.toList_slashed]
      decide
    rw [hoffered, List.map_singleton, htext] at hperm
    exact (List.perm_singleton.1 hperm).symm
  refine ⟨call_mem_events_lint_iff.2 ⟨_, hfiles, by decide, by rfl⟩, by decide, ?_, ?_⟩
  · rw [Bool.eq_false_iff]
    intro hfile
    obtain ⟨location, -, -, hresolve, -⟩ := FileSystem.isFile_iff.1 hfile
    obtain ⟨-, -, -, hwalk⟩ := FileSystem.resolve_eq_ok_iff.1 hresolve
    have hpieces : Path.pieces (settings.dir.join ⟨"a/b.proto"⟩) = [".", "a", "b.proto"] := by
      decide
    -- There is no entry with the name in front of the slash.
    rw [hpieces] at hwalk
    simp +decide [FileSystem.walk, fs, FileTree.get?, FileTree.entries, List.lookup_cons] at hwalk
  · exact (FileSystem.mem_offered_iff (by decide)).1 (hoffered ▸ List.mem_singleton_self _)

end Tool

end LintRun
