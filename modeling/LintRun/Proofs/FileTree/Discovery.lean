import LintRun.FileTree.Discovery
import LintRun.Proofs.Path
import Mathlib.Data.List.Nodup

/-!
# Discovered files

The walk through a tree finds the paths that lead to a file, or to a link to a file, without a
hidden name on the way. It finds each of them once if no directory has two entries of one name.

## Main definitions

* `FileTree.isProper` holds of the trees that can be stored.
* `FileTree.Leads` says that names lead from a tree to a file.
* `FileSystem.Offers` says that names lead to a file that is to be found below a directory, and
  `FileSystem.offered` are all paths of this kind.

## Main statements

* `FileSystem.mem_offered_iff` and `FileSystem.nodup_offered`: the walk finds each path once.
* `FileSystem.access_eq_ok_iff` and `FileSystem.opens_iff`: what may be read.
* `FileSystem.discoverAt_perm`: what becomes of the paths.
-/

namespace LintRun

/-! ## Proper trees -/

/-- Whether a text can be the name of an entry. -/
def isEntryName (name : String) : Bool :=
  name ≠ "" && name ≠ "." && name ≠ ".." && !name.toList.contains '/' &&
    !name.toList.contains '\x00' && name.utf8ByteSize ≤ FileSystem.nameLimit

theorem isEntryName_iff {name : String} :
    isEntryName name = true ↔ ¬(name = "" ∨ name = ".") ∧ name ≠ ".." ∧
      ¬name.utf8ByteSize > FileSystem.nameLimit ∧ '/' ∉ name.toList ∧ '\x00' ∉ name.toList := by
  simp only [isEntryName, Bool.and_eq_true, decide_eq_true_eq, Bool.not_eq_true',
    List.contains_eq_mem, decide_eq_false_iff_not]
  constructor
  · rintro ⟨⟨⟨⟨⟨hempty, hdot⟩, hparent⟩, hslash⟩, hnull⟩, hlong⟩
    exact ⟨by tauto, hparent, by omega, hslash, hnull⟩
  · rintro ⟨hskip, hparent, hlong, hslash, hnull⟩
    exact ⟨⟨⟨⟨⟨by tauto, by tauto⟩, hparent⟩, hslash⟩, hnull⟩, by omega⟩

mutual

/-- Whether all names in a tree can be names of entries, and differ within each directory. -/
def FileTree.isProper : FileTree → Bool
  | .directory entries => areProper entries
  | _ => true

/-- Whether the entries can be those of a directory. -/
def areProper : List (String × FileTree) → Bool
  | [] => true
  | (name, tree) :: rest =>
    isEntryName name && (rest.lookup name).isNone && tree.isProper && areProper rest

end

theorem areProper_cons_iff {name : String} {tree : FileTree} {rest : List (String × FileTree)} :
    areProper ((name, tree) :: rest) = true ↔ isEntryName name = true ∧ rest.lookup name = none ∧
      tree.isProper = true ∧ areProper rest = true := by
  simp [areProper, and_assoc]

theorem FileTree.areProper_entries {tree : FileTree} (h : tree.isProper = true) :
    areProper tree.entries = true := by
  cases tree with
  | file => rfl
  | link => rfl
  | directory entries =>
    rw [isProper] at h
    exact h

theorem isProper_of_lookup {entries : List (String × FileTree)} {name : String} {tree : FileTree}
    (h : areProper entries = true) (hlookup : entries.lookup name = some tree) :
    isEntryName name = true ∧ tree.isProper = true := by
  induction entries with
  | nil => cases hlookup
  | cons entry rest ih =>
    obtain ⟨first, child⟩ := entry
    obtain ⟨hname, -, hchild, hrest⟩ := areProper_cons_iff.1 h
    rw [List.lookup_cons] at hlookup
    by_cases heq : name = first
    · subst heq
      simp only [beq_self_eq_true] at hlookup
      cases hlookup
      exact ⟨hname, hchild⟩
    · rw [beq_false_of_ne heq] at hlookup
      exact ih hrest hlookup

namespace FileTree

theorem get?_append (tree : FileTree) (front rest : Location) :
    tree.get? (front ++ rest) = (tree.get? front).bind (·.get? rest) := by
  induction front generalizing tree with
  | nil => rfl
  | cons name front ih =>
    rw [List.cons_append, get?, get?]
    cases tree.entries.lookup name with
    | none => rfl
    | some child => exact ih child

theorem get?_cons_eq_some_iff {tree found : FileTree} {name : String} {rest : Location} :
    tree.get? (name :: rest) = some found ↔
      ∃ child, tree.entries.lookup name = some child ∧ child.get? rest = some found := by
  rw [get?]
  exact Option.bind_eq_some_iff

/-- Only a directory has something behind it. -/
theorem exists_directory_of_get?_append {tree found : FileTree} {front rest : Location}
    (hne : rest ≠ []) (h : tree.get? (front ++ rest) = some found) :
    ∃ entries, tree.get? front = some (.directory entries) := by
  rw [get?_append] at h
  obtain ⟨child, hchild, hrest⟩ := Option.bind_eq_some_iff.1 h
  obtain ⟨name, more, rfl⟩ := List.exists_cons_of_ne_nil hne
  cases child with
  | file => cases hrest
  | link => cases hrest
  | directory entries => exact ⟨entries, hchild⟩

theorem isProper_of_get? {tree found : FileTree} {location : Location}
    (h : tree.isProper = true) (hget : tree.get? location = some found) :
    (∀ name ∈ location, isEntryName name = true) ∧ found.isProper = true := by
  induction location generalizing tree with
  | nil =>
    cases hget
    exact ⟨List.forall_mem_nil _, h⟩
  | cons name rest ih =>
    obtain ⟨child, hlookup, hget⟩ := get?_cons_eq_some_iff.1 hget
    obtain ⟨hname, hchild⟩ := isProper_of_lookup (areProper_entries h) hlookup
    obtain ⟨hrest, hfound⟩ := ih hchild hget
    exact ⟨List.forall_mem_cons.2 ⟨hname, hrest⟩, hfound⟩

/-! ## The paths that are found -/

/-- Whether the tree is a link. -/
def isLink : FileTree → Bool
  | link _ => true
  | _ => false

end FileTree

section Walk

variable {isFile opens : List String → Bool}

variable (isFile opens) in
/-- The names `rest` lead from a tree to a file, or to a link to a file. The tree itself is at the
path `path`. -/
structure FileTree.Leads (tree : FileTree) (path rest : List String) : Prop where
  visible : ∀ name ∈ rest, isHidden name = false
  /-- All directories on the way can be opened. The one at the empty path has been. -/
  opened : ∀ front, front <+: rest → front ≠ rest → path ++ front ≠ [] →
    opens (path ++ front) = true
  ends : ∃ found, tree.get? rest = some found ∧
    (found.isFile = true ∨ found.isLink = true ∧ isFile (path ++ rest) = true)

theorem FileTree.leads_nil_iff {tree : FileTree} {path : List String} :
    tree.Leads isFile opens path [] ↔
      tree.isFile = true ∨ tree.isLink = true ∧ isFile path = true := by
  constructor
  · rintro ⟨-, -, found, hget, hends⟩
    cases hget
    rwa [List.append_nil] at hends
  · intro h
    refine ⟨List.forall_mem_nil _, fun front hfront hne => ?_, tree, rfl, ?_⟩
    · exact absurd (List.prefix_nil.1 hfront) hne
    · rwa [List.append_nil]

theorem FileTree.leads_cons_iff {tree : FileTree} {path rest : List String} {name : String} :
    tree.Leads isFile opens path (name :: rest) ↔
      (path ≠ [] → opens path = true) ∧ isHidden name = false ∧
        ∃ child, tree.entries.lookup name = some child ∧
          child.Leads isFile opens (path ++ [name]) rest := by
  have hassoc : ∀ front, path ++ name :: front = path ++ [name] ++ front := by simp
  constructor
  · rintro ⟨hvisible, hopened, found, hget, hends⟩
    obtain ⟨hname, hrest⟩ := List.forall_mem_cons.1 hvisible
    obtain ⟨child, hlookup, hget⟩ := get?_cons_eq_some_iff.1 hget
    refine ⟨fun hne => ?_, hname, child, hlookup, hrest, fun front hfront hne _ => ?_, found, hget,
      ?_⟩
    · simpa using hopened [] List.nil_prefix (by simp) (by simpa using hne)
    · rw [← hassoc]
      exact hopened _ (List.cons_prefix_cons.2 ⟨rfl, hfront⟩) (by simpa using hne) (by simp)
    · rwa [← hassoc]
  · rintro ⟨hpath, hname, child, hlookup, hrest, hopened, found, hget, hends⟩
    refine ⟨List.forall_mem_cons.2 ⟨hname, hrest⟩, fun front hfront hne hnil => ?_, found,
      get?_cons_eq_some_iff.2 ⟨child, hlookup, hget⟩, ?_⟩
    · cases front with
      | nil =>
        rw [List.append_nil] at hnil ⊢
        exact hpath hnil
      | cons first front =>
        obtain ⟨rfl, hrest⟩ := List.cons_prefix_cons.1 hfront
        rw [hassoc]
        exact hopened front hrest (by simpa using hne) (by simp)
    · rwa [hassoc]

/-- Nothing is behind a file or a link. -/
theorem FileTree.leads_iff_of_entries_eq_nil {tree : FileTree} (h : tree.entries = [])
    {path found : List String} :
    (∃ rest, found = path ++ rest ∧ tree.Leads isFile opens path rest) ↔
      found = path ∧ (tree.isFile = true ∨ tree.isLink = true ∧ isFile path = true) := by
  constructor
  · rintro ⟨_ | ⟨name, rest⟩, rfl, hleads⟩
    · exact ⟨List.append_nil _, leads_nil_iff.1 hleads⟩
    · obtain ⟨-, -, child, hlookup, -⟩ := leads_cons_iff.1 hleads
      rw [h] at hlookup
      cases hlookup
  · rintro ⟨rfl, hends⟩
    exact ⟨[], (List.append_nil _).symm, leads_nil_iff.2 hends⟩

mutual

/-- The walk finds the paths that lead to a file. -/
theorem mem_visible_iff {tree : FileTree} (h : tree.isProper = true) {path : List String}
    (hpath : path ≠ []) {found : List String} :
    found ∈ tree.visible isFile opens path ↔
      ∃ rest, found = path ++ rest ∧ tree.Leads isFile opens path rest := by
  match tree, h with
  | .file content isExecutable, _ =>
    rw [FileTree.leads_iff_of_entries_eq_nil rfl]
    simp [FileTree.visible, FileTree.isFile]
  | .link target, _ =>
    rw [FileTree.leads_iff_of_entries_eq_nil rfl]
    by_cases hfile : isFile path = true <;>
      simp [FileTree.visible, FileTree.isFile, FileTree.isLink, hfile]
  | .directory entries, h =>
    rw [FileTree.isProper] at h
    have hwalk : found ∈ visibleEntries isFile opens path entries ↔ _ :=
      mem_visibleEntries_iff h
    constructor
    · intro hfound
      rw [FileTree.visible] at hfound
      split at hfound
      · next hopens =>
        obtain ⟨name, child, rest, rfl, hname, hlookup, hleads⟩ := hwalk.1 hfound
        exact ⟨name :: rest, rfl, FileTree.leads_cons_iff.2
          ⟨fun _ => hopens, hname, child, hlookup, hleads⟩⟩
      · cases hfound
    · rintro ⟨_ | ⟨name, rest⟩, rfl, hleads⟩
      · rcases FileTree.leads_nil_iff.1 hleads with hfile | ⟨hlink, -⟩
        · cases hfile
        · cases hlink
      · obtain ⟨hopens, hname, child, hlookup, hleads⟩ := FileTree.leads_cons_iff.1 hleads
        rw [FileTree.visible, if_pos (hopens hpath)]
        exact hwalk.2 ⟨name, child, rest, rfl, hname, hlookup, hleads⟩

theorem mem_visibleEntries_iff {entries : List (String × FileTree)} (h : areProper entries = true)
    {path found : List String} :
    found ∈ visibleEntries isFile opens path entries ↔
      ∃ name child rest, found = path ++ name :: rest ∧ isHidden name = false ∧
        entries.lookup name = some child ∧
        child.Leads isFile opens (path ++ [name]) rest := by
  match entries, h with
  | [], _ => simp [visibleEntries]
  | (first, tree) :: others, h =>
    obtain ⟨-, hfirst, htree, hothers⟩ := areProper_cons_iff.1 h
    have hhead : found ∈ tree.visible isFile opens (path ++ [first]) ↔ _ :=
      mem_visible_iff htree (by simp)
    have htail : found ∈ visibleEntries isFile opens path others ↔ _ :=
      mem_visibleEntries_iff hothers
    rw [visibleEntries, List.mem_append, htail]
    constructor
    · rintro (hfound | ⟨name, child, rest, rfl, hname, hlookup, hleads⟩)
      · split at hfound
        · cases hfound
        · next hname =>
          obtain ⟨rest, rfl, hleads⟩ := hhead.1 hfound
          refine ⟨first, tree, rest, by simp, by simpa using hname, by simp, hleads⟩
      · have hne : name ≠ first := by
          rintro rfl
          rw [hfirst] at hlookup
          cases hlookup
        refine ⟨name, child, rest, rfl, hname, ?_, hleads⟩
        rwa [List.lookup_cons, beq_false_of_ne hne]
    · rintro ⟨name, child, rest, rfl, hname, hlookup, hleads⟩
      rw [List.lookup_cons] at hlookup
      by_cases heq : name = first
      · subst heq
        simp only [beq_self_eq_true, Option.some.injEq] at hlookup
        subst hlookup
        left
        rw [hname]
        exact hhead.2 ⟨rest, by simp, hleads⟩
      · rw [beq_false_of_ne heq] at hlookup
        exact Or.inr ⟨name, child, rest, rfl, hname, hlookup, hleads⟩

end

mutual

theorem nodup_visible {tree : FileTree} (h : tree.isProper = true) {path : List String} :
    (tree.visible isFile opens path).Nodup := by
  match tree, h with
  | .file content isExecutable, _ => exact List.nodup_singleton _
  | .link target, _ =>
    rw [FileTree.visible]
    split
    · exact List.nodup_singleton _
    · exact List.nodup_nil
  | .directory entries, h =>
    rw [FileTree.isProper] at h
    rw [FileTree.visible]
    split
    · exact nodup_visibleEntries h
    · exact List.nodup_nil

/-- The walk finds each path once. -/
theorem nodup_visibleEntries {entries : List (String × FileTree)} (h : areProper entries = true)
    {path : List String} : (visibleEntries isFile opens path entries).Nodup := by
  match entries, h with
  | [], _ => exact List.nodup_nil
  | (first, tree) :: others, h =>
    obtain ⟨-, hfirst, htree, hothers⟩ := areProper_cons_iff.1 h
    have hhead : (tree.visible isFile opens (path ++ [first])).Nodup :=
      nodup_visible htree
    rw [visibleEntries, List.nodup_append']
    refine ⟨?_, nodup_visibleEntries hothers, ?_⟩
    · split
      · exact List.nodup_nil
      · exact hhead
    · -- The paths of the first entry have its name in them, those of the others do not.
      intro found hfound hmem
      obtain ⟨name, child, rest, rfl, -, hlookup, -⟩ := (mem_visibleEntries_iff hothers).1 hmem
      split at hfound
      · cases hfound
      · obtain ⟨rest', heq, -⟩ := (mem_visible_iff htree (by simp)).1 hfound
        rw [List.append_assoc, List.append_cancel_left_eq] at heq
        obtain ⟨rfl, -⟩ := List.cons.inj heq
        rw [hfirst] at hlookup
        cases hlookup

end

end Walk

/-! ## Discovered files -/

namespace FileSystem

/-- The names lead to a file that is to be found below the directory that `root` leads to and that
is at the location `location`. -/
def Offers (fs : FileSystem) (mayRead : Location → Bool) (root : Path) (location : Location)
    (path : List String) : Prop :=
  (∃ tree, fs.tree.get? location = some tree ∧
    tree.Leads (fun path => fs.isFile (entryPath root path))
      (fun path => fs.opens mayRead (entryPath root path)) [] path) ∧
  discoveredExtension.toList <:+ ("/".intercalate path).toList

variable {fs : FileSystem} {mayRead : Location → Bool} {root : Path} {location : Location}

theorem Offers.exists_get? {path : List String} (h : fs.Offers mayRead root location path) :
    ∃ found, fs.tree.get? (location ++ path) = some found ∧
      (found.isFile = true ∨ found.isLink = true ∧ fs.isFile (entryPath root path) = true) := by
  obtain ⟨⟨tree, htree, hleads⟩, -⟩ := h
  obtain ⟨found, hget, hends⟩ := hleads.ends
  refine ⟨found, ?_, hends⟩
  rw [FileTree.get?_append, htree]
  exact hget

theorem Offers.isEntryName (h : fs.tree.isProper = true) {path : List String}
    (hpath : fs.Offers mayRead root location path) : ∀ name ∈ path, isEntryName name = true := by
  obtain ⟨found, hget, -⟩ := hpath.exists_get?
  intro name hname
  exact (FileTree.isProper_of_get? h hget).1 name (List.mem_append_right _ hname)

theorem Offers.ne_nil {path : List String} (h : fs.Offers mayRead root location path) :
    path ≠ [] := by
  rintro rfl
  exact absurd h.2 (by decide)

variable (fs mayRead root location) in
/-- The paths to the files that are to be found. -/
def offered : List (List String) :=
  let entries := ((fs.tree.get? location).map FileTree.entries).getD []
  (visibleEntries (fun path => fs.isFile (entryPath root path))
    (fun path => fs.opens mayRead (entryPath root path)) [] entries).filter
      fun path => discoveredExtension.toList.isSuffixOf ("/".intercalate path).toList

theorem offered_of_get? {entries : List (String × FileTree)}
    (h : fs.tree.get? location = some (.directory entries)) :
    fs.offered mayRead root location = (visibleEntries (fun path => fs.isFile (entryPath root path))
      (fun path => fs.opens mayRead (entryPath root path)) [] entries).filter
        fun path => discoveredExtension.toList.isSuffixOf ("/".intercalate path).toList := by
  rw [offered, h]
  rfl

theorem areProper_getD_entries (h : fs.tree.isProper = true) (location : Location) :
    areProper (((fs.tree.get? location).map FileTree.entries).getD []) = true := by
  cases hget : fs.tree.get? location with
  | none => rfl
  | some tree => exact FileTree.areProper_entries (FileTree.isProper_of_get? h hget).2

theorem nodup_offered (h : fs.tree.isProper = true) (mayRead : Location → Bool) (root : Path)
    (location : Location) : (fs.offered mayRead root location).Nodup :=
  (nodup_visibleEntries (areProper_getD_entries h location)).filter _

theorem mem_offered_iff (h : fs.tree.isProper = true) {path : List String} :
    path ∈ fs.offered mayRead root location ↔ fs.Offers mayRead root location path := by
  rw [offered, List.mem_filter, mem_visibleEntries_iff (areProper_getD_entries h location),
    List.isSuffixOf_iff_suffix, Offers]
  refine and_congr_left fun hsuffix => ?_
  constructor
  · rintro ⟨name, child, rest, rfl, hname, hlookup, hleads⟩
    cases hget : fs.tree.get? location with
    | none =>
      rw [hget] at hlookup
      cases hlookup
    | some tree =>
      rw [hget] at hlookup
      exact ⟨tree, rfl, FileTree.leads_cons_iff.2
        ⟨fun hne => absurd rfl hne, hname, child, hlookup, hleads⟩⟩
  · rintro ⟨tree, hget, hleads⟩
    cases path with
    | nil => exact absurd hsuffix (by decide)
    | cons name rest =>
      obtain ⟨-, hname, child, hlookup, hleads⟩ := FileTree.leads_cons_iff.1 hleads
      rw [hget]
      exact ⟨name, child, rest, rfl, hname, hlookup, hleads⟩

theorem access_of_resolve {path : Path} (h : fs.resolve path = .ok location) :
    fs.access mayRead path =
      if fs.isDirectory path = true ∧ mayRead location = false then .error .denied
      else .ok location := by
  simp [access, h]

theorem access_eq_ok_iff {path : Path} : fs.access mayRead path = .ok location ↔
    fs.resolve path = .ok location ∧ (fs.isDirectory path = true → mayRead location = true) := by
  cases hresolve : fs.resolve path with
  | error e => simp [access, hresolve]
  | ok there =>
    rw [access_of_resolve hresolve]
    by_cases hdenied : fs.isDirectory path = true ∧ mayRead there = false
    · rw [if_pos hdenied]
      refine iff_of_false (by rintro ⟨⟩) ?_
      rintro ⟨⟨⟩, hmay⟩
      simp [hmay hdenied.1] at hdenied
    · rw [if_neg hdenied]
      refine ⟨?_, fun h => h.1⟩
      rintro ⟨⟩
      exact ⟨rfl, by simpa using hdenied⟩

/-- A directory that may not be read is refused, and so is what cannot be found. -/
theorem access_eq_error_iff {path : Path} {e : FileError} : fs.access mayRead path = .error e ↔
    fs.resolve path = .error e ∨ e = .denied ∧ ∃ location, fs.resolve path = .ok location ∧
      fs.isDirectory path = true ∧ mayRead location = false := by
  cases hresolve : fs.resolve path with
  | error e' => simp [access, hresolve]
  | ok there =>
    rw [access_of_resolve hresolve]
    by_cases hdenied : fs.isDirectory path = true ∧ mayRead there = false
    · rw [if_pos hdenied]
      constructor
      · rintro ⟨⟩
        exact .inr ⟨rfl, there, rfl, hdenied⟩
      · rintro (⟨⟨⟩⟩ | ⟨rfl, -⟩)
        rfl
    · rw [if_neg hdenied]
      refine iff_of_false (by rintro ⟨⟩) ?_
      rintro (⟨⟨⟩⟩ | ⟨-, location, ⟨⟩, h⟩)
      exact hdenied h

theorem opens_iff {path : Path} : fs.opens mayRead path = true ↔ fs.isDirectory path = true ∧
    ∃ location, fs.resolve path = .ok location ∧ mayRead location = true := by
  rw [opens, Bool.and_eq_true]
  refine and_congr_right fun hdirectory => ?_
  constructor
  · intro hsome
    cases haccess : fs.access mayRead path with
    | error e =>
      rw [haccess] at hsome
      cases hsome
    | ok location =>
      obtain ⟨hresolve, hmay⟩ := access_eq_ok_iff.1 haccess
      exact ⟨location, hresolve, hmay hdirectory⟩
  · rintro ⟨location, hresolve, hmay⟩
    rw [access_eq_ok_iff.2 ⟨hresolve, fun _ => hmay⟩]
    rfl

theorem discover_eq_ok_iff {dir : Path} {files : List String} :
    fs.discover dir mayRead = .ok files ↔ ∃ location,
      fs.access mayRead (discoveryRoot dir) = .ok location ∧
        files = fs.discoverAt mayRead (discoveryRoot dir) location := by
  rw [discover]
  cases hdir : fs.access mayRead (discoveryRoot dir) with
  | error e => simp
  | ok location => simp [eq_comm]

/-- The discovered files are those that are offered, with slashes for backslashes. -/
theorem discoverAt_perm (fs : FileSystem) (mayRead : Location → Bool) (root : Path)
    (location : Location) : (fs.discoverAt mayRead root location).Perm
      ((fs.offered mayRead root location).map fun path => Path.slashed ("/".intercalate path)) := by
  refine (List.mergeSort_perm _ _).trans (List.Perm.of_eq ?_)
  rw [offered, List.filter_map]
  refine congrArg (List.map _) (List.filter_congr fun path _ => ?_)
  rw [Bool.eq_iff_iff, Function.comp_apply, List.isSuffixOf_iff_suffix, List.isSuffixOf_iff_suffix]
  exact Path.suffix_slashed_iff (by decide) (by decide)

end FileSystem

end LintRun
