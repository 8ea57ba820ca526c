import LintRun.Proofs.FileTree.Discovery

/-!
# Following paths

A path is followed name by name. What it leads to depends on the walk alone, so that a path can be
followed in two parts: up to a directory, and from there along the names of entries.

## Main statements

* `FileSystem.exists_walk_append`: a walk in two parts.
* `FileSystem.Offers.isFile_join`: the path to a file that is offered below a directory leads to it.
-/

namespace LintRun

theorem FileTree.exists_of_isFile {tree : FileTree} (h : tree.isFile = true) :
    ∃ content isExecutable, tree = .file content isExecutable := by
  cases tree with
  | file content isExecutable => exact ⟨content, isExecutable, rfl⟩
  | link => cases h
  | directory => cases h

namespace FileSystem

variable {tree : FileTree} {manner : Manner} {links : Nat} {here there : Location}

/-! ## Steps of a walk -/

theorem walk_nil : walk tree manner links here [] = .ok here := by
  rw [walk]

theorem walk_cons_of_skipped {name : String} (h : name = "" ∨ name = ".") (rest : List String) :
    walk tree manner links here (name :: rest) = walk tree manner links here rest := by
  rw [walk, if_pos h]

theorem walk_of_skipped {names : List String} (h : ∀ name ∈ names, name = "" ∨ name = ".") :
    walk tree manner links here names = .ok here := by
  induction names with
  | nil => exact walk_nil
  | cons name rest ih =>
    obtain ⟨hname, hrest⟩ := List.forall_mem_cons.1 h
    rw [walk_cons_of_skipped hname, ih hrest]

theorem walk_of_empty {names : List String} (h : ∀ name ∈ names, name = "") :
    walk tree manner links here names = .ok here :=
  walk_of_skipped fun name hname => Or.inl (h name hname)

section Named

variable {name : String} (hskip : ¬(name = "" ∨ name = ".")) (hparent : name ≠ "..")
  (hlong : ¬name.utf8ByteSize > nameLimit)

include hskip hparent hlong

theorem walk_cons_of_none (hget : tree.get? (here ++ [name]) = none) (rest : List String) :
    walk tree {} links here (name :: rest) = .error .notFound := by
  rw [walk, if_neg hskip, if_neg hparent, if_neg hlong]
  simp [hget]

theorem walk_cons_of_directory {entries : List (String × FileTree)}
    (hget : tree.get? (here ++ [name]) = some (.directory entries)) (rest : List String) :
    walk tree manner links here (name :: rest) =
      walk tree manner links (here ++ [name]) rest := by
  rw [walk, if_neg hskip, if_neg hparent, if_neg hlong]
  simp only [hget]

theorem walk_cons_of_file {content : List UInt8} {isExecutable : Bool}
    (hget : tree.get? (here ++ [name]) = some (.file content isExecutable)) (rest : List String) :
    walk tree manner links here (name :: rest) =
      if rest = [] then .ok (here ++ [name]) else .error .notDirectory := by
  rw [walk, if_neg hskip, if_neg hparent, if_neg hlong]
  simp only [hget]

theorem walk_cons_of_link {target : String}
    (hget : tree.get? (here ++ [name]) = some (.link target)) (rest : List String) :
    walk tree {} links here (name :: rest) =
      match links with
      | 0 => .error .tooManyLinks
      | left + 1 =>
        walk tree {} left (if Path.isAbsolute ⟨target⟩ then [] else here)
          (Path.pieces ⟨target⟩ ++ rest) := by
  rw [walk, if_neg hskip, if_neg hparent, if_neg hlong]
  cases links <;> simp [hget]

end Named

/-! ## Walks in two parts -/

/-- A walk that ends in a directory can go on from there, with the links that are left. Slashes at
its end do not matter. -/
theorem exists_walk_append {front tail : List String} (htail : ∀ name ∈ tail, name = "")
    (h : walk tree {} links here (front ++ tail) = .ok there)
    {entries : List (String × FileTree)} (hthere : tree.get? there = some (.directory entries)) :
    ∃ left, ∀ rest ≠ [],
      walk tree {} links here (front ++ rest) = walk tree {} left there rest := by
  induction links, here, front using walk.induct tree {} with
  | case1 links here =>
    rw [List.nil_append, walk_of_empty htail] at h
    cases h
    exact ⟨links, fun rest _ => rfl⟩
  | case2 links here name names hskip ih =>
    rw [List.cons_append, walk_cons_of_skipped hskip] at h
    obtain ⟨left, hleft⟩ := ih h
    refine ⟨left, fun rest hrest => ?_⟩
    rw [List.cons_append, walk_cons_of_skipped hskip, hleft rest hrest]
  | case3 links here names hskip ih =>
    rw [List.cons_append, walk, if_neg hskip, if_pos rfl] at h
    obtain ⟨left, hleft⟩ := ih h
    refine ⟨left, fun rest hrest => ?_⟩
    rw [List.cons_append, walk, if_neg hskip, if_pos rfl, hleft rest hrest]
  | case4 links here name names hskip hparent hlong =>
    rw [List.cons_append, walk, if_neg hskip, if_neg hparent, if_pos hlong] at h
    cases h
  | case5 links here name names hskip hparent hlong _ hget hlack => cases hlack.2
  | case6 links here name names hskip hparent hlong _ hget hlack =>
    rw [List.cons_append, walk_cons_of_none hskip hparent hlong hget] at h
    cases h
  | case7 links here name names hskip hparent hlong _ entries hget ih =>
    rw [List.cons_append, walk_cons_of_directory hskip hparent hlong hget] at h
    obtain ⟨left, hleft⟩ := ih h
    refine ⟨left, fun rest hrest => ?_⟩
    rw [List.cons_append, walk_cons_of_directory hskip hparent hlong hget]
    exact hleft rest hrest
  | case8 links here name hskip hparent hlong _ content isExecutable hget =>
    -- A walk that ends at a file does not end in a directory.
    rw [List.cons_append, walk_cons_of_file hskip hparent hlong hget] at h
    split at h
    · cases h
      rw [hget] at hthere
      cases hthere
    · cases h
  | case9 links here name names hskip hparent hlong _ content isExecutable hget hnames =>
    have hmore : names ++ tail ≠ [] := by simp [hnames]
    rw [List.cons_append, walk_cons_of_file hskip hparent hlong hget, if_neg hmore] at h
    cases h
  | case10 links here name names hskip hparent hlong _ target hget hlast => cases hlast.2 rfl
  | case11 here name names hskip hparent hlong _ target hget hlast =>
    rw [List.cons_append, walk_cons_of_link hskip hparent hlong hget] at h
    cases h
  | case12 here name names hskip hparent hlong _ target hget hlast links _ _ ih =>
    rw [List.cons_append, walk_cons_of_link hskip hparent hlong hget, ← List.append_assoc] at h
    obtain ⟨left, hleft⟩ := ih h
    refine ⟨left, fun rest hrest => ?_⟩
    rw [List.cons_append, walk_cons_of_link hskip hparent hlong hget, ← List.append_assoc]
    exact hleft rest hrest

/-- Names of entries lead straight to what is at their end, unless it is a link. -/
theorem walk_of_get? {path : List String} (hnames : ∀ name ∈ path, isEntryName name = true)
    {found : FileTree} (hget : tree.get? (here ++ path) = some found)
    (hlink : found.isLink = false) : walk tree manner links here path = .ok (here ++ path) := by
  induction path generalizing here with
  | nil => rw [walk_nil, List.append_nil]
  | cons name rest ih =>
    obtain ⟨hname, hrest⟩ := List.forall_mem_cons.1 hnames
    obtain ⟨hskip, hparent, hlong, -, -⟩ := isEntryName_iff.1 hname
    have hassoc : here ++ name :: rest = here ++ [name] ++ rest := by simp
    rw [hassoc] at hget ⊢
    cases rest with
    | nil =>
      rw [List.append_nil] at hget ⊢
      cases found with
      | file => rw [walk_cons_of_file hskip hparent hlong hget, if_pos rfl]
      | link => cases hlink
      | directory => rw [walk_cons_of_directory hskip hparent hlong hget, walk_nil]
    | cons next more =>
      obtain ⟨entries, hentries⟩ := FileTree.exists_directory_of_get?_append (by simp) hget
      rw [walk_cons_of_directory hskip hparent hlong hentries]
      exact ih hrest hget

/-! ## Files -/

variable {fs : FileSystem}

theorem resolve_eq_ok_iff {path : Path} {location : Location} :
    fs.resolve path = .ok location ↔
      '\x00' ∉ path.text.toList ∧ path.text ≠ "" ∧ path.text.utf8ByteSize ≤ pathLimit ∧
        walk fs.tree {} linkLimit (if path.isAbsolute then [] else fs.here) path.pieces =
          .ok location := by
  rw [resolve]
  by_cases hnull : '\x00' ∈ path.text.toList
  · simp [hnull]
  by_cases hempty : path.text = ""
  · simp [hempty]
  by_cases hlong : path.text.utf8ByteSize > pathLimit
  · simp [hnull, hempty, hlong, Nat.not_le_of_gt hlong]
  · simp [hnull, hempty, hlong, Nat.le_of_not_gt hlong]

theorem isFile_iff {path : Path} :
    fs.isFile path = true ↔ ∃ location content isExecutable, fs.resolve path = .ok location ∧
      fs.tree.get? location = some (.file content isExecutable) := by
  rw [isFile, find]
  simp only [bind, Except.bind]
  cases fs.resolve path with
  | error e => simp
  | ok location =>
    cases hget : fs.tree.get? location with
    | none => simp [hget, throw, throwThe, MonadExceptOf.throw]
    | some tree =>
      cases tree with
      | file content isExecutable =>
        refine iff_of_true ?_ ⟨location, content, isExecutable, rfl, hget⟩
        simp [hget, pure, Except.pure, FileTree.isFile]
      | link target => simp [hget, pure, Except.pure, FileTree.isFile]
      | directory entries => simp [hget, pure, Except.pure, FileTree.isFile]

theorem isDirectory_iff {path : Path} :
    fs.isDirectory path = true ↔ ∃ location entries, fs.resolve path = .ok location ∧
      fs.tree.get? location = some (.directory entries) := by
  rw [isDirectory, find]
  simp only [bind, Except.bind]
  cases fs.resolve path with
  | error e => simp
  | ok location =>
    cases hget : fs.tree.get? location with
    | none => simp [hget, throw, throwThe, MonadExceptOf.throw]
    | some tree => cases tree <;> simp [hget, pure, Except.pure, FileTree.isDirectory]

/-- No file is in the empty tree. -/
theorem isFile_emptyDirectory (here : Location) (file : Path) :
    isFile ⟨.emptyDirectory, here⟩ file = false := by
  rw [Bool.eq_false_iff]
  intro hfile
  obtain ⟨location, _, _, -, hget⟩ := isFile_iff.1 hfile
  cases location with
  | nil => cases hget
  | cons name rest => cases hget

theorem resolve_dot (fs : FileSystem) : fs.resolve ⟨"."⟩ = .ok fs.here := by
  have hdot : Path.pieces ⟨"."⟩ = ["."] := rfl
  refine resolve_eq_ok_iff.2 ⟨by decide, by decide, by decide, ?_⟩
  rw [hdot, walk_cons_of_skipped (Or.inr rfl), walk_nil]
  rfl

/-- Without a directory, a path leads where it leads behind a dot. -/
theorem isFile_of_isFile_dot {q : Path} (hq : q.isAbsolute = false) (hne : q.text ≠ "")
    (h : fs.isFile (Path.join ⟨"."⟩ q) = true) : fs.isFile q = true := by
  have hjoin : Path.join ⟨"."⟩ q = ⟨"." ++ "/" ++ q.text⟩ := by
    rw [Path.join, hq]
    rfl
  rw [isFile_iff] at h ⊢
  obtain ⟨location, content, isExecutable, hresolve, hget⟩ := h
  refine ⟨location, content, isExecutable, ?_, hget⟩
  have habsolute : Path.isAbsolute ⟨"." ++ "/" ++ q.text⟩ = false := by simp [Path.isAbsolute]
  have hdot : Path.pieces ⟨"."⟩ = ["."] := rfl
  rw [hjoin, resolve_eq_ok_iff, habsolute, Path.pieces_append_slash, hdot, List.singleton_append,
    walk_cons_of_skipped (Or.inr rfl)] at hresolve
  obtain ⟨hnull, -, hsize, hwalk⟩ := hresolve
  rw [resolve_eq_ok_iff, hq]
  refine ⟨?_, hne, ?_, hwalk⟩
  · simpa using hnull
  · simp only [String.utf8ByteSize_append] at hsize
    omega

section Names

variable {path : List String} (hne : path ≠ []) (hnames : ∀ name ∈ path, isEntryName name = true)

include hnames in
theorem null_not_mem_intercalate : '\x00' ∉ ("/".intercalate path).toList := by
  rw [Path.mem_intercalate_iff (by decide)]
  rintro ⟨name, hname, hmem⟩
  obtain ⟨-, -, -, -, hnull⟩ := isEntryName_iff.1 (hnames name hname)
  exact hnull hmem

include hne hnames

theorem isAbsolute_intercalate : Path.isAbsolute ⟨"/".intercalate path⟩ = false := by
  refine Path.isAbsolute_intercalate hne fun name hname => ?_
  obtain ⟨hskip, -, -, hslash, -⟩ := isEntryName_iff.1 (hnames name hname)
  exact ⟨fun hempty => hskip (Or.inl hempty), hslash⟩

theorem pieces_intercalate : Path.pieces ⟨"/".intercalate path⟩ = path := by
  refine Path.pieces_intercalate hne fun name hname => ?_
  obtain ⟨-, -, -, hslash, -⟩ := isEntryName_iff.1 (hnames name hname)
  exact hslash

theorem intercalate_ne_empty : "/".intercalate path ≠ "" := by
  intro hempty
  -- The empty text has one piece, and that is not the name of an entry.
  have hpieces := pieces_intercalate hne hnames
  rw [hempty] at hpieces
  have hname := hnames "" (hpieces ▸ List.mem_singleton_self _)
  exact absurd hname (by decide)

variable {content : List UInt8} {isExecutable : Bool}

/-- Names of entries lead from the working directory to a file below it. -/
theorem isFile_of_get? (hget : fs.tree.get? (fs.here ++ path) = some (.file content isExecutable))
    (hsize : ("/".intercalate path).utf8ByteSize ≤ pathLimit) :
    fs.isFile ⟨"/".intercalate path⟩ = true := by
  refine isFile_iff.2 ⟨_, _, _, resolve_eq_ok_iff.2 ⟨null_not_mem_intercalate hnames,
    intercalate_ne_empty hne hnames, hsize, ?_⟩, hget⟩
  rw [isAbsolute_intercalate hne hnames, pieces_intercalate hne hnames]
  exact walk_of_get? hnames hget rfl

variable {dir : Path} {location : Location} (hdir : fs.resolve dir = .ok location)

include hdir

/-- Behind a path that leads to a directory, names of entries lead to what is below it. -/
theorem resolve_join_of_get? {found : FileTree}
    (hget : fs.tree.get? (location ++ path) = some found) (hlink : found.isLink = false)
    (hsize : (dir.join ⟨"/".intercalate path⟩).text.utf8ByteSize ≤ pathLimit) :
    fs.resolve (dir.join ⟨"/".intercalate path⟩) = .ok (location ++ path) := by
  obtain ⟨hnull, hempty, -, hwalk⟩ := resolve_eq_ok_iff.1 hdir
  have hrelative := isAbsolute_intercalate hne hnames
  obtain ⟨front, empties, hpieces, hempties, hjoin⟩ := Path.exists_pieces_join hempty hrelative
  obtain ⟨entries, hentries⟩ := FileTree.exists_directory_of_get?_append hne hget
  rw [hpieces] at hwalk
  obtain ⟨left, hleft⟩ := exists_walk_append hempties hwalk hentries
  refine resolve_eq_ok_iff.2 ⟨?_, Path.text_join_ne_empty hempty hrelative, hsize, ?_⟩
  · rw [Path.mem_join_iff hempty hrelative (by decide), not_or]
    exact ⟨hnull, null_not_mem_intercalate hnames⟩
  · rw [Path.isAbsolute_join hempty hrelative, hjoin, pieces_intercalate hne hnames, hleft path hne]
    exact walk_of_get? hnames hget hlink

theorem isFile_join_of_get?
    (hget : fs.tree.get? (location ++ path) = some (.file content isExecutable))
    (hsize : (dir.join ⟨"/".intercalate path⟩).text.utf8ByteSize ≤ pathLimit) :
    fs.isFile (dir.join ⟨"/".intercalate path⟩) = true :=
  isFile_iff.2 ⟨_, _, _, resolve_join_of_get? hne hnames hdir hget rfl hsize, hget⟩

/-- A directory below a directory is opened unless its path is too long or it may not be read. -/
theorem opens_join_iff {entries : List (String × FileTree)}
    (hget : fs.tree.get? (location ++ path) = some (.directory entries))
    (mayRead : Location → Bool) :
    fs.opens mayRead (dir.join ⟨"/".intercalate path⟩) = true ↔
      (dir.join ⟨"/".intercalate path⟩).text.utf8ByteSize ≤ pathLimit ∧
        mayRead (location ++ path) = true := by
  rw [opens_iff]
  constructor
  · rintro ⟨-, there, hthere, hmay⟩
    have hsize := (resolve_eq_ok_iff.1 hthere).2.2.1
    rw [resolve_join_of_get? hne hnames hdir hget rfl hsize] at hthere
    exact ⟨hsize, Except.ok.inj hthere ▸ hmay⟩
  · rintro ⟨hsize, hmay⟩
    have hresolve := resolve_join_of_get? hne hnames hdir hget rfl hsize
    exact ⟨isDirectory_iff.2 ⟨_, _, hresolve, hget⟩, _, hresolve, hmay⟩

end Names

variable {mayRead : Location → Bool}

/-- What is offered below a directory is a file, unless the path to it is too long. -/
theorem Offers.isFile_join (h : fs.tree.isProper = true) {dir : Path} {location : Location}
    (hdir : fs.resolve (discoveryRoot dir) = .ok location) {path : List String}
    (hpath : fs.Offers mayRead (discoveryRoot dir) location path)
    (hsize : (dir.join ⟨"/".intercalate path⟩).text.utf8ByteSize ≤ pathLimit) :
    fs.isFile (dir.join ⟨"/".intercalate path⟩) = true := by
  obtain ⟨found, hget, hends⟩ := hpath.exists_get?
  have hnames := hpath.isEntryName h
  have hrelative := isAbsolute_intercalate hpath.ne_nil hnames
  by_cases hempty : dir.text = ""
  · -- The files are looked for below the dot, but named from the working directory.
    have hroot : discoveryRoot dir = ⟨"."⟩ := if_pos hempty
    have hjoin : dir.join ⟨"/".intercalate path⟩ = ⟨"/".intercalate path⟩ := by
      rw [Path.join, hrelative, hempty]
      simp
    rw [hroot] at hdir hends
    rw [hjoin] at hsize ⊢
    rcases hends with hfile | ⟨-, hlink⟩
    · obtain ⟨content, isExecutable, rfl⟩ := FileTree.exists_of_isFile hfile
      obtain rfl : fs.here = location := Except.ok.inj ((resolve_dot fs).symm.trans hdir)
      exact isFile_of_get? hpath.ne_nil hnames hget hsize
    · exact isFile_of_isFile_dot hrelative (intercalate_ne_empty hpath.ne_nil hnames) hlink
  · have hroot : discoveryRoot dir = dir := if_neg hempty
    rw [hroot] at hdir hends
    rcases hends with hfile | ⟨-, hlink⟩
    · obtain ⟨content, isExecutable, rfl⟩ := FileTree.exists_of_isFile hfile
      exact isFile_join_of_get? hpath.ne_nil hnames hdir hget hsize
    · exact hlink

/-! ## The texts of offered paths -/

/-- Without backslashes there is nothing to replace. -/
theorem map_slashed_eq {paths : List (List String)}
    (hback : ∀ path ∈ paths, ∀ name ∈ path, '\\' ∉ name.toList) :
    paths.map (fun path => Path.slashed ("/".intercalate path)) =
      paths.map ("/".intercalate ·) := by
  refine List.map_congr_left fun path hpath => Path.slashed_of_not_mem ?_
  rw [Path.mem_intercalate_iff (by decide)]
  rintro ⟨name, hname, hmem⟩
  exact hback path hpath name hname hmem

/-- Different paths have different texts. -/
theorem Offers.intercalate_injOn (h : fs.tree.isProper = true) {root : Path} {location : Location}
    {path path' : List String} (hpath : fs.Offers mayRead root location path)
    (hpath' : fs.Offers mayRead root location path')
    (heq : "/".intercalate path = "/".intercalate path') : path = path' := by
  have hpieces := pieces_intercalate hpath.ne_nil (hpath.isEntryName h)
  rw [heq, pieces_intercalate hpath'.ne_nil (hpath'.isEntryName h)] at hpieces
  exact hpieces.symm

theorem nodup_map_intercalate (h : fs.tree.isProper = true) {root : Path} {location : Location}
    {paths : List (List String)} (hnodup : paths.Nodup)
    (hpaths : ∀ path ∈ paths, fs.Offers mayRead root location path) :
    (paths.map ("/".intercalate ·)).Nodup :=
  hnodup.map_on fun path hpath path' hpath' heq =>
    Offers.intercalate_injOn h (hpaths path hpath) (hpaths path' hpath') heq

end FileSystem

end LintRun
