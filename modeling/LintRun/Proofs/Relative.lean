import LintRun.Proofs.FileTree.Resolve

/-!
# Names of reported files

A file is reported by an absolute path or by a relative one, and both have dots and slashes that do
not count. The name of the file is the same for all of them: it holds the steps of the path below
the directory, and can be read back as these steps.

## Main definitions

* `Path.steps` are the components of a path that lead somewhere from its start.

## Main statements

* `Path.steps_join`: the steps of a joined path.
* `Path.steps_render`: the name of a file has the steps that it was made of.
* `Directory.relative_agrees`: names of reported files do not depend on the way of reporting.
-/

namespace LintRun

namespace Text

theorem not_mem_of_mem_splitAt {sep : Char} {s piece : List Char} (h : piece ∈ splitAt sep s) :
    sep ∉ piece := by
  induction s generalizing piece with
  | nil => simp_all [splitAt]
  | cons c rest ih =>
    rw [splitAt] at h
    by_cases hc : c = sep
    · rw [if_pos hc] at h
      rcases List.mem_cons.1 h with rfl | h
      · exact List.not_mem_nil
      · exact ih h
    · rw [if_neg hc] at h
      cases hrest : splitAt sep rest with
      | nil => exact absurd hrest (splitAt_ne_nil sep rest)
      | cons first more =>
        rw [hrest] at h ih
        rcases List.mem_cons.1 h with rfl | h
        · simpa [Ne.symm hc] using ih List.mem_cons_self
        · exact ih (List.mem_cons_of_mem first h)

end Text

/-! ## Steps -/

/-- The component leads somewhere, and has a text that says where. -/
structure Component.IsStep (step : Component) : Prop where
  ofPiece?_text : ofPiece? step.text = some step
  slash_not_mem : '/' ∉ step.text.toList

namespace Component

/-- A component has the text of the piece that it was read from. -/
theorem text_of_ofPiece? {piece : String} {step : Component} (h : ofPiece? piece = some step) :
    step.text = piece ∧ ofPiece? step.text = some step := by
  have htext : step.text = piece := by
    rw [ofPiece?] at h
    split at h
    · cases h
    · split at h <;> cases h
      · next hparent => exact hparent.symm
      · rfl
  exact ⟨htext, htext ▸ h⟩

namespace IsStep

variable {step : Component}

theorem text_ne (h : step.IsStep) : step.text ≠ "" ∧ step.text ≠ "." := by
  rw [← not_or]
  intro hskip
  have hnone : ofPiece? step.text = none := if_pos hskip
  rw [h.ofPiece?_text] at hnone
  cases hnone

theorem ne_current (h : step.IsStep) : step ≠ current := by
  rintro rfl
  exact h.text_ne.2 rfl

end IsStep

end Component

namespace Path

/-- The components of a path without the root and the dot in front. -/
def steps (p : Path) : List Component :=
  p.pieces.filterMap Component.ofPiece?

theorem isStep_of_mem_steps {p : Path} {step : Component} (h : step ∈ p.steps) : step.IsStep := by
  obtain ⟨piece, hpiece, hstep⟩ := List.mem_filterMap.1 h
  obtain ⟨htext, hread⟩ := Component.text_of_ofPiece? hstep
  refine ⟨hread, ?_⟩
  obtain ⟨s, hs, rfl⟩ := List.mem_map.1 hpiece
  rw [htext, String.toList_ofList]
  exact Text.not_mem_of_mem_splitAt hs

theorem components_of_isAbsolute {p : Path} (h : p.isAbsolute = true) :
    p.components = .root :: p.steps := by
  rw [components, if_pos h]
  rfl

/-- A dot in front does not count. -/
theorem filter_components {p : Path} (h : p.isAbsolute = false) :
    p.components.filter (· ≠ .current) = p.steps := by
  have hsteps : p.steps.filter (· ≠ .current) = p.steps :=
    List.filter_eq_self.2 fun step hstep => by simpa using (isStep_of_mem_steps hstep).ne_current
  have hinner : p.pieces.filterMap Component.ofPiece? = p.steps := rfl
  rw [components, hinner, h, if_neg Bool.false_ne_true]
  split
  · rw [List.filter_cons, hsteps]
    rfl
  · exact hsteps

/-- The steps of a joined path are those of both paths. -/
theorem steps_join {p q : Path} (hp : p.text ≠ "") (hq : q.isAbsolute = false) :
    (p.join q).steps = p.steps ++ q.steps := by
  obtain ⟨front, empties, hpieces, hempties, hjoin⟩ := exists_pieces_join hp hq
  have hnone : empties.filterMap Component.ofPiece? = [] := by
    refine List.filterMap_eq_nil_iff.2 fun piece hpiece => ?_
    rw [hempties piece hpiece]
    rfl
  rw [steps, steps, hjoin, hpieces, List.filterMap_append, List.filterMap_append, hnone,
    List.append_nil]
  rfl

theorem text_ne_empty_of_isAbsolute {p : Path} (h : p.isAbsolute = true) : p.text ≠ "" := by
  intro hempty
  rw [isAbsolute, hempty] at h
  cases h

theorem isAbsolute_join_of_isAbsolute {p q : Path} (hp : p.isAbsolute = true)
    (hq : q.isAbsolute = false) : (p.join q).isAbsolute = true :=
  (isAbsolute_join (text_ne_empty_of_isAbsolute hp) hq).trans hp

theorem stripPrefix?_join {p q : Path} (hp : p.isAbsolute = true) (hq : q.isAbsolute = false) :
    p.stripPrefix? (p.join q) = some q.steps := by
  have hcomponents : (p.join q).components = p.components ++ q.steps := by
    rw [components_of_isAbsolute (isAbsolute_join_of_isAbsolute hp hq), components_of_isAbsolute hp,
      steps_join (text_ne_empty_of_isAbsolute hp) hq, List.cons_append]
  rw [stripPrefix?, hcomponents, if_pos (List.isPrefixOf_iff_prefix.2 (List.prefix_append _ _)),
    List.drop_left]

section Render

variable {l : List Component} (hsteps : ∀ step ∈ l, step.IsStep)

include hsteps

theorem render_eq_intercalate : render l = "/".intercalate (l.map Component.text) := by
  rw [render, List.filter_eq_self.2]
  intro step hstep
  simpa using (hsteps step hstep).ne_current

theorem pieces_render (hne : l ≠ []) : pieces ⟨render l⟩ = l.map Component.text := by
  rw [render_eq_intercalate hsteps]
  refine pieces_intercalate (by simpa using hne) ?_
  rw [List.forall_mem_map]
  exact fun step hstep => (hsteps step hstep).slash_not_mem

/-- The text of steps has these steps. -/
theorem steps_render : steps ⟨render l⟩ = l := by
  by_cases hne : l = []
  · subst hne
    rfl
  · rw [steps, pieces_render hsteps hne, List.filterMap_map]
    calc l.filterMap (Component.ofPiece? ∘ Component.text) = l.filterMap some :=
          List.filterMap_congr fun step hstep => (hsteps step hstep).ofPiece?_text
      _ = l := List.filterMap_some

theorem isAbsolute_render : isAbsolute ⟨render l⟩ = false := by
  by_cases hne : l = []
  · subst hne
    rfl
  · rw [render_eq_intercalate hsteps]
    refine isAbsolute_intercalate (by simpa using hne) ?_
    rw [List.forall_mem_map]
    exact fun step hstep => ⟨(hsteps step hstep).text_ne.1, (hsteps step hstep).slash_not_mem⟩

/-- No part of the text is empty or a dot, and there is no slash at its end. -/
theorem canonical_render : (render l = "" ∨ ∀ part ∈ pieces ⟨render l⟩, part ≠ "" ∧ part ≠ ".") ∧
    (render l).toList.getLast? ≠ some '/' := by
  by_cases hne : l = []
  · subst hne
    exact ⟨.inl rfl, by decide⟩
  · have hparts : ∀ part ∈ pieces ⟨render l⟩, part ≠ "" ∧ part ≠ "." := by
      rw [pieces_render hsteps hne, List.forall_mem_map]
      exact fun step hstep => (hsteps step hstep).text_ne
    refine ⟨.inr hparts, fun hlast => ?_⟩
    -- A slash at the end has an empty piece behind it.
    obtain ⟨front, hfront⟩ := List.getLast?_eq_some_iff.1 hlast
    have htext : render l = String.ofList front ++ "/" ++ "" := by
      rw [← String.toList_inj, hfront]
      simp
    refine (hparts "" ?_).1 rfl
    rw [htext, pieces_append_slash]
    exact List.mem_append_right _ (List.mem_singleton_self "")

end Render

theorem render_components {p : Path} (h : p.isAbsolute = false) :
    render p.components = render p.steps := by
  rw [render_eq_intercalate fun _ => isStep_of_mem_steps, render, filter_components h]

end Path

/-! ## Names of files -/

theorem FileSystem.isAbsolute_of_canonical? {fs : FileSystem} {path c : Path}
    (h : fs.canonical? path = some c) : c.isAbsolute = true := by
  obtain ⟨location, -, rfl⟩ := Option.map_eq_some_iff.1 h
  simp [Location.path, Path.isAbsolute]

namespace Directory

variable {dir : Directory} {r : String}

theorem relative_of_isRelative (hr : Path.isAbsolute ⟨r⟩ = false) :
    dir.relative r = Path.render (Path.steps ⟨r⟩) := by
  rw [relative, if_neg (by simp [hr]), Path.render_components hr]

theorem relative_join (hdir : dir.path.isAbsolute = true) (hr : Path.isAbsolute ⟨r⟩ = false) :
    dir.relative (dir.path.join ⟨r⟩).text = Path.render (Path.steps ⟨r⟩) := by
  rw [relative, if_pos (Path.isAbsolute_join_of_isAbsolute hdir hr), Path.stripPrefix?_join hdir hr]

/-- A path that is not below the directory by its name can be below its canonical path. -/
theorem relative_join_canonical {c : Path} (hcanonical : dir.canonical? = some c)
    (hc : c.isAbsolute = true) (hr : Path.isAbsolute ⟨r⟩ = false)
    (hout : ¬dir.path.components <+: (c.join ⟨r⟩).components) :
    dir.relative (c.join ⟨r⟩).text = Path.render (Path.steps ⟨r⟩) := by
  have hnone : dir.path.stripPrefix? (c.join ⟨r⟩) = none := by
    rw [Path.stripPrefix?, if_neg (by rwa [List.isPrefixOf_iff_prefix])]
  rw [relative, if_pos (Path.isAbsolute_join_of_isAbsolute hc hr), hnone, hcanonical,
    Option.bind_some, Path.stripPrefix?_join hc hr]

/-- A file has one name for all ways to report it: by an absolute path below the directory or below
its canonical path, and by a relative path with the same components, apart from dots. The name is
such a path itself, without dots and slashes that do not count. -/
theorem relative_agrees (dir : Directory) {r : String} (hr : Path.isAbsolute ⟨r⟩ = false) :
    (dir.path.isAbsolute = true → dir.relative (dir.path.join ⟨r⟩).text = dir.relative r) ∧
    (∀ (fs : FileSystem) (c : Path), fs.canonical? dir.path = some c → dir.canonical? = some c →
      ¬dir.path.components <+: (c.join ⟨r⟩).components →
      dir.relative (c.join ⟨r⟩).text = dir.relative r) ∧
    (dir.relative r = "" ∨
      ∀ part ∈ Path.pieces ⟨dir.relative r⟩, part ≠ "" ∧ part ≠ ".") ∧
    (dir.relative r).toList.head? ≠ some '/' ∧ (dir.relative r).toList.getLast? ≠ some '/' ∧
    (∀ r', Path.isAbsolute ⟨r'⟩ = false → (dir.relative r = dir.relative r' ↔
      (Path.components ⟨r⟩).filter (· ≠ .current) =
        (Path.components ⟨r'⟩).filter (· ≠ .current))) ∧
    dir.relative (dir.relative r) = dir.relative r := by
  have hsteps : ∀ {p : Path}, ∀ step ∈ p.steps, step.IsStep := fun _ => Path.isStep_of_mem_steps
  have hrelative := Path.isAbsolute_render (hsteps (p := ⟨r⟩))
  obtain ⟨hparts, hlast⟩ := Path.canonical_render (hsteps (p := ⟨r⟩))
  rw [relative_of_isRelative hr]
  refine ⟨fun hdir => relative_join hdir hr, fun fs c hfs hcanonical hout => ?_, hparts, ?_, hlast,
    fun r' hr' => ?_, ?_⟩
  · exact relative_join_canonical hcanonical (FileSystem.isAbsolute_of_canonical? hfs) hr hout
  · simpa [Path.isAbsolute] using hrelative
  · rw [relative_of_isRelative hr', Path.filter_components hr, Path.filter_components hr']
    refine ⟨fun heq => ?_, fun heq => heq ▸ rfl⟩
    rw [← Path.steps_render (hsteps (p := ⟨r⟩)), heq, Path.steps_render hsteps]
  · rw [relative_of_isRelative hrelative, Path.steps_render hsteps]

/-- The directory is named by a link, with slashes that do not count. -/
theorem relative_agrees_link :
    let fs : FileSystem := ⟨.directory
      [("real", .directory [("repo", .directory [])]), ("link", .link "real/repo")], []⟩
    let dir : Directory := ⟨⟨"/link//"⟩, fs.canonical? ⟨"/link//"⟩⟩
    dir.relative "/link//./src//../a.js/" = "src/../a.js" ∧
      dir.relative "/real/repo/./src//../a.js/" = "src/../a.js" ∧
      dir.relative "src/.././a.js" = "src/../a.js" ∧
      dir.relative "src/../a.js" = "src/../a.js" := by
  intro fs dir
  have hcanonical : fs.canonical? ⟨"/link//"⟩ = some ⟨"/real/repo"⟩ := by
    have hpieces : Path.pieces ⟨"/link//"⟩ = ["", "link", "", ""] := by decide
    have htarget : Path.pieces ⟨"real/repo"⟩ = ["real", "repo"] := by decide
    have hresolve : fs.resolve ⟨"/link//"⟩ = .ok ["real", "repo"] := by
      refine FileSystem.resolve_eq_ok_iff.2 ⟨by decide, by decide, by decide, ?_⟩
      change FileSystem.walk fs.tree {} _ [] (Path.pieces ⟨"/link//"⟩) = _
      simp +decide [FileSystem.walk, FileSystem.linkLimit, hpieces, htarget, fs, FileTree.get?,
        FileTree.entries, List.lookup_cons]
    rw [FileSystem.canonical?, hresolve]
    rfl
  have hr : Path.isAbsolute ⟨"./src//../a.js/"⟩ = false := by decide
  have hout : ¬dir.path.components <+:
      (Path.join ⟨"/real/repo"⟩ ⟨"./src//../a.js/"⟩).components := by
    decide
  obtain ⟨hdir, hbelow, -, -, -, hsame, hagain⟩ := relative_agrees dir hr
  have hname : dir.relative "./src//../a.js/" = "src/../a.js" := by decide
  have hother : Path.isAbsolute ⟨"src/.././a.js"⟩ = false := by decide
  have hjoin : (dir.path.join ⟨"./src//../a.js/"⟩).text = "/link//./src//../a.js/" := by decide
  have hjoin' : (Path.join ⟨"/real/repo"⟩ ⟨"./src//../a.js/"⟩).text =
      "/real/repo/./src//../a.js/" := by decide
  rw [← hjoin, ← hjoin']
  refine ⟨(hdir (by decide)).trans hname, ?_, ?_, ?_⟩
  · exact (hbelow fs _ hcanonical hcanonical hout).trans hname
  · exact ((hsame _ hother).2 (by decide)).symm.trans hname
  · exact (hname ▸ hagain).trans hname

end Directory

end LintRun
