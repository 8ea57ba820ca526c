import LintRun.Proofs.FileTree.Resolve
import LintRun.Proofs.Text.Octets

/-!
# The list of discovered files

The files below a directory are listed by their paths, each path once and in the order of its
octets. What is listed is what can be seen below the directory, except for what is in a directory
that cannot be opened, because its path is too long or because it may not be read.

## Main definitions

* `FileTree.names` are the names of all entries in a tree.
* `FileSystem.Shows` says that names lead to a visible file below a directory, with the extension of
  the files to discover.
* `FileSystem.OpensOnTheWay` says that the directories on the way can be opened.

## Main statements

* `FileSystem.offers_iff`: which files are found.
* `FileSystem.discover_lists`: what is listed, and when there is no list.
-/

namespace LintRun

/-! ## Names in a tree -/

mutual

/-- The names of all entries in a tree. -/
def FileTree.names : FileTree → List String
  | .directory entries => entryNames entries
  | _ => []

/-- The names of entries, and those of all entries in them. -/
def entryNames : List (String × FileTree) → List String
  | [] => []
  | (name, tree) :: rest => name :: (tree.names ++ entryNames rest)

end

theorem mem_entryNames_of_lookup {entries : List (String × FileTree)} {name : String}
    {child : FileTree} (h : entries.lookup name = some child) :
    name ∈ entryNames entries ∧ child.names ⊆ entryNames entries := by
  induction entries with
  | nil => cases h
  | cons entry rest ih =>
    obtain ⟨first, tree⟩ := entry
    rw [entryNames]
    rw [List.lookup_cons] at h
    -- The first entry with the name is the one that is found.
    by_cases heq : name = first
    · subst heq
      simp only [beq_self_eq_true, Option.some.injEq] at h
      subst h
      refine ⟨List.mem_cons_self, fun _ hname => ?_⟩
      exact List.mem_cons_of_mem _ (List.mem_append_left _ hname)
    · rw [beq_false_of_ne heq] at h
      obtain ⟨hmem, hsub⟩ := ih h
      have hrest : entryNames rest ⊆ first :: (tree.names ++ entryNames rest) :=
        fun _ hname => List.mem_cons_of_mem _ (List.mem_append_right _ hname)
      exact ⟨hrest hmem, fun _ hname => hrest (hsub hname)⟩

/-- The names on the way to a place in a tree are names in the tree. -/
theorem FileTree.mem_names_of_get? {tree found : FileTree} {location : Location}
    (h : tree.get? location = some found) : location ⊆ tree.names := by
  induction location generalizing tree with
  | nil => exact List.nil_subset _
  | cons name rest ih =>
    obtain ⟨child, hlookup, hget⟩ := get?_cons_eq_some_iff.1 h
    cases tree with
    | file => cases hlookup
    | link => cases hlookup
    | directory entries =>
      obtain ⟨hname, hchild⟩ := mem_entryNames_of_lookup hlookup
      rw [FileTree.names]
      exact List.cons_subset.2 ⟨hname, fun _ hmem => hchild (ih hget hmem)⟩

namespace FileSystem

/-! ## What is to be listed -/

/-- The names lead to a visible file below a location, or to a link to a file, that has the
extension of the files to discover. No link to a directory is on the way. -/
structure Shows (fs : FileSystem) (root : Path) (location : Location) (path : List String) :
    Prop where
  visible : ∀ name ∈ path, isHidden name = false
  ends : ∃ found, fs.tree.get? (location ++ path) = some found ∧
    (found.isFile = true ∨ found.isLink = true ∧ fs.isFile (entryPath root path) = true)
  suffix : discoveredExtension.toList <:+ ("/".intercalate path).toList

/-- The directories on the way may be read, and the paths to them are short enough. -/
def OpensOnTheWay (mayRead : Location → Bool) (root : Path) (location : Location)
    (path : List String) : Prop :=
  ∀ front, front <+: path → front ≠ [] → front ≠ path →
    (entryPath root front).text.utf8ByteSize ≤ pathLimit ∧ mayRead (location ++ front) = true

variable {fs : FileSystem} {mayRead : Location → Bool} {root : Path} {location : Location}
  {path : List String}

theorem offers_iff (h : fs.tree.isProper = true) (hroot : fs.resolve root = .ok location) :
    fs.Offers mayRead root location path ↔
      fs.Shows root location path ∧ OpensOnTheWay mayRead root location path := by
  -- A proper front of the path leads to a directory.
  have hfront : ∀ {front found}, front <+: path → front ≠ [] → front ≠ path →
      fs.tree.get? (location ++ path) = some found →
      (fs.opens mayRead (entryPath root front) = true ↔
        (entryPath root front).text.utf8ByteSize ≤ pathLimit ∧
          mayRead (location ++ front) = true) := by
    rintro front found ⟨rest, rfl⟩ hne hproper hget
    have hrest : rest ≠ [] := by
      rintro rfl
      exact hproper (List.append_nil front).symm
    have hnames : ∀ name ∈ front, isEntryName name = true := fun name hname =>
      (FileTree.isProper_of_get? h hget).1 name (by simp [hname])
    rw [← List.append_assoc] at hget
    obtain ⟨entries, hentries⟩ := FileTree.exists_directory_of_get?_append hrest hget
    exact opens_join_iff hne hnames hroot hentries mayRead
  constructor
  · intro hoffers
    obtain ⟨found, hget, hends⟩ := hoffers.exists_get?
    obtain ⟨⟨tree, -, hleads⟩, hsuffix⟩ := hoffers
    refine ⟨⟨hleads.visible, ⟨found, hget, hends⟩, hsuffix⟩, fun front hprefix hne hproper => ?_⟩
    exact (hfront hprefix hne hproper hget).1 (hleads.opened front hprefix hproper hne)
  · rintro ⟨⟨hvisible, ⟨found, hget, hends⟩, hsuffix⟩, hopens⟩
    obtain ⟨tree, htree, hfound⟩ :
        ∃ tree, fs.tree.get? location = some tree ∧ tree.get? path = some found := by
      rw [FileTree.get?_append] at hget
      exact Option.bind_eq_some_iff.1 hget
    refine ⟨⟨tree, htree, hvisible, fun front hprefix hproper hne => ?_, found, hfound, hends⟩,
      hsuffix⟩
    exact (hfront hprefix hne hproper hget).2 (hopens front hprefix hne hproper)

/-! ## The order of the list -/

theorem pairwise_le_discoverAt (fs : FileSystem) (mayRead : Location → Bool) (root : Path)
    (location : Location) : (fs.discoverAt mayRead root location).Pairwise (· ≤ ·) := by
  have hsorted : (fs.discoverAt mayRead root location).Pairwise fun a b => decide (a ≤ b) := by
    refine List.pairwise_mergeSort (fun a b c hab hbc => ?_) (fun a b => ?_) _
    · simp only [decide_eq_true_eq] at *
      exact String.le_trans hab hbc
    · simpa using String.le_total a b
  simpa using hsorted

/-- A sorted list in which nothing comes twice is ordered by octets. -/
theorem pairwise_encode_lt {files : List String} (hsorted : files.Pairwise (· ≤ ·))
    (hnodup : files.Nodup) : files.Pairwise fun a b => Text.encode a < Text.encode b :=
  (hsorted.and hnodup).imp fun ⟨hle, hne⟩ => Text.encode_lt_encode (Std.lt_of_le_of_ne hle hne)

/-! ## The list -/

/-- There is no list if and only if the directory itself cannot be found or may not be read.
Otherwise the list is in strictly ascending order, and holds what is visible below the directory as
far as the directories on the way can be opened. -/
theorem discover_lists (h : fs.tree.isProper = true) (mayRead : Location → Bool) (dir : Path) :
    (∀ failure, fs.discover dir mayRead = .error failure ↔ ∃ e,
      (fs.resolve (discoveryRoot dir) = .error e ∨
        e = .denied ∧ ∃ location, fs.resolve (discoveryRoot dir) = .ok location ∧
          fs.isDirectory (discoveryRoot dir) = true ∧ mayRead location = false) ∧
        failure = discoveryFailure (discoveryRoot dir) e) ∧
    ∀ location tree, fs.resolve (discoveryRoot dir) = .ok location →
      (fs.isDirectory (discoveryRoot dir) = true → mayRead location = true) →
      fs.tree.get? location = some tree → (∀ name ∈ tree.names, '\\' ∉ name.toList) →
      ∃ files, fs.discover dir mayRead = .ok files ∧
        files.Pairwise (fun a b => Text.encode a < Text.encode b) ∧
        ∀ file, file ∈ files ↔ ∃ path, fs.Shows (discoveryRoot dir) location path ∧
          OpensOnTheWay mayRead (discoveryRoot dir) location path ∧
          file = "/".intercalate path := by
  constructor
  · intro failure
    simp only [← access_eq_error_iff]
    rw [discover]
    cases fs.access mayRead (discoveryRoot dir) <;> simp [eq_comm]
  · intro location tree hroot hmay htree hback
    have hoffered : ∀ path ∈ fs.offered mayRead (discoveryRoot dir) location,
        fs.Offers mayRead (discoveryRoot dir) location path := fun path => (mem_offered_iff h).1
    have hperm := fs.discoverAt_perm mayRead (discoveryRoot dir) location
    rw [map_slashed_eq fun path hpath => ?_] at hperm
    refine ⟨_, discover_eq_ok_iff.2 ⟨location, access_eq_ok_iff.2 ⟨hroot, hmay⟩, rfl⟩, ?_,
      fun file => ?_⟩
    · refine pairwise_encode_lt (pairwise_le_discoverAt _ _ _ _) (hperm.nodup_iff.2 ?_)
      exact nodup_map_intercalate h (nodup_offered h _ _ _) hoffered
    · rw [hperm.mem_iff, List.mem_map]
      simp only [mem_offered_iff h, offers_iff h hroot, and_assoc, eq_comm]
    · obtain ⟨found, hget, -⟩ := (hoffered path hpath).exists_get?
      rw [FileTree.get?_append, htree] at hget
      exact fun name hname => hback name (FileTree.mem_names_of_get? hget hname)

/-- The working directory is hidden, and a link in it leads back to it. It is not entered, and
neither is a directory that may not be read, but the link to a file counts. -/
theorem discover_lists_link :
    let fs : FileSystem := ⟨.directory [(".git", .directory
      [("b.proto", .link "a/x.proto"), ("c", .directory [("y.proto", .file [] false)]),
        ("a", .directory [("x.proto", .file [] false), ("up.proto", .link "..")])])], [".git"]⟩
    let mayRead : Location → Bool := (· ≠ [".git", "c"])
    ∃ files, fs.discover ⟨""⟩ mayRead = .ok files ∧
      files.Pairwise (fun a b => Text.encode a < Text.encode b) ∧
      ∀ file, file ∈ files ↔ file = "b.proto" ∨ file = "a/x.proto" := by
  intro fs mayRead
  have hproper : fs.tree.isProper = true := by decide
  have hroot : discoveryRoot ⟨""⟩ = ⟨"."⟩ := rfl
  have hdot : fs.resolve (discoveryRoot ⟨""⟩) = .ok [".git"] := fs.resolve_dot
  have hback : ∀ name ∈ ["b.proto", "c", "y.proto", "a", "x.proto", "up.proto"],
      '\\' ∉ name.toList := by decide
  have hlink : fs.isFile (entryPath ⟨"."⟩ ["b.proto"]) = true := by
    have hpieces : Path.pieces ⟨"./b.proto"⟩ = [".", "b.proto"] := by decide
    have htarget : Path.pieces ⟨"a/x.proto"⟩ = ["a", "x.proto"] := by decide
    have hget : fs.tree.get? [".git", "a", "x.proto"] = some (.file [] false) := rfl
    refine isFile_iff.2 ⟨_, _, _, resolve_eq_ok_iff.2 ⟨by decide, by decide, by decide, ?_⟩, hget⟩
    change walk fs.tree {} _ [".git"] (Path.pieces ⟨"./b.proto"⟩) = _
    simp +decide [walk, linkLimit, hpieces, htarget, fs, FileTree.get?, FileTree.entries,
      List.lookup_cons]
  have hup : fs.resolve (entryPath ⟨"."⟩ ["a", "up.proto"]) = .ok [".git"] := by
    have hpieces : Path.pieces ⟨"./a/up.proto"⟩ = [".", "a", "up.proto"] := by decide
    have htarget : Path.pieces ⟨".."⟩ = [".."] := by decide
    refine resolve_eq_ok_iff.2 ⟨by decide, by decide, by decide, ?_⟩
    change walk fs.tree {} _ [".git"] (Path.pieces ⟨"./a/up.proto"⟩) = _
    simp +decide [walk, linkLimit, hpieces, htarget, fs, FileTree.get?, FileTree.entries,
      List.lookup_cons]
  have hopens : fs.opens mayRead (entryPath ⟨"."⟩ ["a"]) = true := by
    have hget : fs.tree.get? ([".git"] ++ ["a"]) =
      some (.directory [("x.proto", .file [] false), ("up.proto", .link "..")]) := rfl
    exact (opens_join_iff (by simp) (by decide) hdot hget mayRead).2 (by decide)
  have hdenied : fs.opens mayRead (entryPath ⟨"."⟩ ["c"]) = false := by
    have hget : fs.tree.get? ([".git"] ++ ["c"]) =
      some (.directory [("y.proto", .file [] false)]) := rfl
    rw [Bool.eq_false_iff]
    exact fun hopens => absurd
      ((opens_join_iff (by simp) (by decide) hdot hget mayRead).1 hopens).2 (by decide)
  have hoffered : fs.offered mayRead ⟨"."⟩ [".git"] = [["b.proto"], ["a", "x.proto"]] := by
    have hget : fs.tree.get? [".git"] = some (.directory
      [("b.proto", .link "a/x.proto"), ("c", .directory [("y.proto", .file [] false)]),
        ("a", .directory [("x.proto", .file [] false), ("up.proto", .link "..")])]) := rfl
    have hfile : fs.isFile (entryPath ⟨"."⟩ ["a", "up.proto"]) = false := by
      rw [isFile, find, hup]
      rfl
    rw [offered_of_get? hget]
    simp only [visibleEntries, FileTree.visible]
    simp +decide [hlink, hopens, hdenied, hfile]
  have hshows : ∀ path, fs.Shows (discoveryRoot ⟨""⟩) [".git"] path ∧
      OpensOnTheWay mayRead (discoveryRoot ⟨""⟩) [".git"] path ↔
        path = ["b.proto"] ∨ path = ["a", "x.proto"] := by
    intro path
    rw [← offers_iff hproper hdot, ← mem_offered_iff hproper, hroot, hoffered]
    simp
  obtain ⟨files, hfiles, hsorted, hmem⟩ :=
    (discover_lists hproper mayRead ⟨""⟩).2 _ _ hdot (fun _ => by decide) rfl hback
  refine ⟨files, hfiles, hsorted, fun file => ?_⟩
  rw [hmem]
  simp only [← and_assoc, hshows]
  simp

/-- The path of `n` dots. -/
def dots (n : Nat) : Path :=
  ⟨"/".intercalate (List.replicate n ".")⟩

/-- Dots lead to the working directory. -/
theorem resolve_dots (fs : FileSystem) {n : Nat} (hn : n ≠ 0) (h : 2 * n ≤ pathLimit) :
    fs.resolve (dots n) = .ok fs.here ∧ (dots n).text.utf8ByteSize + 1 = 2 * n := by
  have hsize : ("/".intercalate (List.replicate n ".")).utf8ByteSize + 1 = 2 * n := by
    obtain ⟨n, rfl⟩ := Nat.exists_eq_succ_of_ne_zero hn
    clear h hn
    induction n with
    | zero => rfl
    | succ n ih =>
      have hdot : ".".utf8ByteSize = 1 := rfl
      have hslash : "/".utf8ByteSize = 1 := rfl
      rw [List.replicate_succ] at ih
      rw [List.replicate_succ, List.replicate_succ, String.intercalate_cons_cons,
        String.utf8ByteSize_append, String.utf8ByteSize_append]
      omega
  have hdots : ∀ name ∈ List.replicate n ".", name = "." := fun _ => List.eq_of_mem_replicate
  have hslash : ∀ name ∈ List.replicate n ".", name ≠ "" ∧ '/' ∉ name.toList := by
    intro name hname
    rw [hdots name hname]
    decide
  have hne : List.replicate n "." ≠ [] := by simpa using hn
  rw [dots]
  refine ⟨resolve_eq_ok_iff.2 ⟨?_, ?_, Nat.le_of_succ_le (hsize.le.trans h), ?_⟩, hsize⟩
  · rw [Path.mem_intercalate_iff (by decide)]
    rintro ⟨name, hname, hnull⟩
    rw [hdots name hname] at hnull
    exact absurd hnull (by decide)
  · intro hempty
    have hzero : ("/".intercalate (List.replicate n ".")).utf8ByteSize = 0 :=
      congrArg String.utf8ByteSize hempty
    omega
  · rw [Path.isAbsolute_intercalate hne hslash,
      Path.pieces_intercalate hne fun name hname => (hslash name hname).2]
    exact walk_of_skipped fun name hname => Or.inr (hdots name hname)

/-- A directory is not opened if its path has more octets than a path may have, and neither is one
that may not be read. -/
theorem discover_skips_unopened :
    let fs : FileSystem := ⟨.directory [("sub", .directory [("b.proto", .file [] false)])], []⟩
    let path := ["sub", "b.proto"]
    fs.tree.isProper = true ∧ (∀ name ∈ fs.tree.names, '\\' ∉ name.toList) ∧
      (fs.resolve (discoveryRoot (dots 2047)) = .ok [] ∧
        fs.Shows (discoveryRoot (dots 2047)) [] path ∧ fs.discover (dots 2047) = .ok []) ∧
      (fs.resolve (discoveryRoot ⟨"."⟩) = .ok [] ∧
        fs.Shows (discoveryRoot ⟨"."⟩) [] path ∧ fs.discover ⟨"."⟩ (· ≠ ["sub"]) = .ok []) := by
  intro fs path
  have hget : fs.tree.get? ([] ++ ["sub"]) = some (.directory [("b.proto", .file [] false)]) := rfl
  have hshows : ∀ root, fs.Shows root [] path := fun _ => ⟨by decide, ⟨_, rfl, .inl rfl⟩, by decide⟩
  -- The file is in the only directory, so nothing is left if that one is not opened.
  have hskips : ∀ (dir : Path) (mayRead : Location → Bool),
      fs.resolve (discoveryRoot dir) = .ok [] → mayRead [] = true →
      ¬((entryPath (discoveryRoot dir) ["sub"]).text.utf8ByteSize ≤ pathLimit ∧
        mayRead ["sub"] = true) → fs.discover dir mayRead = .ok [] := by
    intro dir mayRead hroot hmay hclosed
    have hopens : fs.opens mayRead (entryPath (discoveryRoot dir) ["sub"]) = false := by
      rw [Bool.eq_false_iff]
      exact fun hopen => hclosed ((opens_join_iff (by simp) (by decide) hroot hget mayRead).1 hopen)
    have hoffered : fs.offered mayRead (discoveryRoot dir) [] = [] := by
      have htree : fs.tree.get? [] =
        some (.directory [("sub", .directory [("b.proto", .file [] false)])]) := rfl
      rw [offered_of_get? htree]
      simp only [visibleEntries, FileTree.visible]
      simp +decide [hopens]
    have hperm := fs.discoverAt_perm mayRead (discoveryRoot dir) []
    rw [hoffered] at hperm
    exact discover_eq_ok_iff.2
      ⟨[], access_eq_ok_iff.2 ⟨hroot, fun _ => hmay⟩, (List.perm_nil.1 hperm).symm⟩
  have hdot : fs.resolve (discoveryRoot ⟨"."⟩) = .ok [] := fs.resolve_dot
  refine ⟨by decide, by decide, ?_, hdot, hshows _, hskips _ _ hdot (by decide) (by decide)⟩
  obtain ⟨hresolve, hsize⟩ := fs.resolve_dots (n := 2047) (by decide) (by decide)
  generalize dots 2047 = dir at hresolve hsize ⊢
  have hne : dir.text ≠ "" := (resolve_eq_ok_iff.1 hresolve).2.1
  have hroot : discoveryRoot dir = dir := if_neg hne
  rw [← hroot] at hresolve
  refine ⟨hresolve, hshows _, hskips dir _ hresolve rfl fun hshort => ?_⟩
  have hsub : Path.isAbsolute ⟨"/".intercalate ["sub"]⟩ = false := by decide
  have hlong := (Path.utf8ByteSize_add_le_join hne hsub).trans (hroot ▸ hshort.1)
  have hlength : Path.text ⟨"/".intercalate ["sub"]⟩ = "sub" := rfl
  rw [hlength] at hlong
  have hthree : "sub".utf8ByteSize = 3 := rfl
  rw [hthree, pathLimit] at hlong
  omega

end FileSystem

end LintRun
