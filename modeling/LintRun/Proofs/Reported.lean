import LintRun.Proofs.Relative

/-!
# Files behind names

The name of a file that was reported by an absolute path leads to this file: it is the path itself,
or it is relative, and its components are behind those of the directory in the components of the
path. A directory with the empty name is the exception. It has no components, so that every absolute
path starts with them and keeps all of its own, the root included. The name is then an absolute path
with one slash too many.

## Main definitions

* `Directory.LeadsTo` says that a name leads to a reported file.

## Main statements

* `Path.components_render`: the name of a file has the components that it was made of.
* `Directory.leadsTo_relative_iff`: when the name of a file leads to it.
-/

namespace LintRun

namespace Text

variable {sep c : Char}

/-- The first piece starts with the first character, unless this is a separator. -/
theorem exists_splitAt_cons (hc : c ≠ sep) (rest : List Char) :
    ∃ piece more, splitAt sep (c :: rest) = (c :: piece) :: more := by
  rw [splitAt, if_neg hc]
  cases splitAt sep rest with
  | nil => exact ⟨[], [], rfl⟩
  | cons piece more => exact ⟨piece, more, rfl⟩

end Text

/-! ## Components -/

theorem Component.exists_ofPiece?_eq_some {piece : String} (hne : piece ≠ "") (hdot : piece ≠ ".") :
    ∃ step, ofPiece? piece = some step := by
  rw [ofPiece?, if_neg (by simp [hne, hdot])]
  split
  · exact ⟨_, rfl⟩
  · exact ⟨_, rfl⟩

namespace Path

/-- A relative path starts with a piece that is not empty. -/
theorem exists_pieces_eq_cons {p : Path} (hne : p.text ≠ "") (hrelative : p.isAbsolute = false) :
    ∃ first more, p.pieces = first :: more ∧ first ≠ "" := by
  obtain ⟨c, rest, hlist⟩ : ∃ c rest, p.text.toList = c :: rest := by
    rw [← List.ne_nil_iff_exists_cons]
    simpa using hne
  have hc : c ≠ '/' := by
    simpa [isAbsolute, hlist] using hrelative
  obtain ⟨piece, more, hsplit⟩ := Text.exists_splitAt_cons hc rest
  refine ⟨String.ofList (c :: piece), more.map String.ofList, ?_, by simp⟩
  rw [pieces, Text.splitText, hlist, hsplit, List.map_cons]

/-- Only the empty path has no components. -/
theorem components_eq_nil_iff {p : Path} : p.components = [] ↔ p.text = "" := by
  constructor
  · contrapose
    intro hne
    cases habsolute : p.isAbsolute with
    | true => simp [components_of_isAbsolute habsolute]
    | false =>
      obtain ⟨first, more, hpieces, hfirst⟩ := exists_pieces_eq_cons hne habsolute
      -- The first piece is a dot in front, or a step.
      by_cases hdot : first = "."
      · simp [components, habsolute, hpieces, hdot]
      · obtain ⟨step, hstep⟩ := Component.exists_ofPiece?_eq_some hfirst hdot
        simp [components, habsolute, hpieces, hdot, hstep]
  · intro hempty
    rw [components, pieces, isAbsolute, hempty]
    rfl

/-- The text of steps has these steps as its components. -/
theorem components_render {l : List Component} (hsteps : ∀ step ∈ l, step.IsStep) :
    components ⟨render l⟩ = l := by
  have hinner : (pieces ⟨render l⟩).filterMap Component.ofPiece? = l := steps_render hsteps
  have hdot : (pieces ⟨render l⟩).head? ≠ some "." := by
    intro hhead
    rcases (canonical_render hsteps).1 with hempty | hparts
    · rw [hempty] at hhead
      exact absurd hhead (by decide)
    · exact (hparts "." (List.mem_of_head? hhead)).2 rfl
  rw [components, hinner, isAbsolute_render hsteps, if_neg Bool.false_ne_true, if_neg hdot]

theorem stripPrefix?_eq_some_iff {base p : Path} {rest : List Component} :
    base.stripPrefix? p = some rest ↔ base.components ++ rest = p.components := by
  rw [stripPrefix?]
  split
  · next hprefix =>
    obtain ⟨tail, htail⟩ := List.isPrefixOf_iff_prefix.1 hprefix
    rw [← htail, List.drop_left, Option.some_inj, List.append_right_inj, eq_comm]
  · next hprefix =>
    refine iff_of_false (by simp) fun heq => hprefix ?_
    exact List.isPrefixOf_iff_prefix.2 ⟨rest, heq⟩

theorem stripPrefix?_eq_none_iff {base p : Path} :
    base.stripPrefix? p = none ↔ ¬base.components <+: p.components := by
  simp [Option.eq_none_iff_forall_ne_some, stripPrefix?_eq_some_iff,
    List.prefix_iff_exists_append_eq]

/-- The text of the components of an absolute path has a slash for the root, and one more between
the root and the first step. -/
theorem render_root_cons {l : List Component} (hsteps : ∀ step ∈ l, step.IsStep) :
    render (.root :: l) = if l = [] then "/" else "//" ++ render l := by
  have hroot : render (.root :: l) = "/".intercalate ("/" :: l.map Component.text) := by
    rw [render, List.filter_cons_of_pos (by decide), List.filter_eq_self.2]
    · rfl
    · exact fun step hstep => by simpa using (hsteps step hstep).ne_current
  rw [hroot, render_eq_intercalate hsteps]
  cases l with
  | nil => rfl
  | cons step rest =>
    rw [if_neg (List.cons_ne_nil step rest), List.map_cons, String.intercalate_cons_cons]
    rfl

/-- The slashes at its front do not matter to the components of this text. -/
theorem components_render_root_cons {l : List Component} (hsteps : ∀ step ∈ l, step.IsStep) :
    isAbsolute ⟨render (.root :: l)⟩ = true ∧ components ⟨render (.root :: l)⟩ = .root :: l := by
  rw [render_root_cons hsteps]
  split
  · next hnil =>
    subst hnil
    exact ⟨rfl, rfl⟩
  · have habsolute : isAbsolute ⟨"//" ++ render l⟩ = true := by
      simp [isAbsolute]
    have hempty : pieces ⟨"/"⟩ = ["", ""] := rfl
    refine ⟨habsolute, ?_⟩
    have hfront : "//" ++ render l = "/" ++ "/" ++ render l := rfl
    rw [components_of_isAbsolute habsolute, steps, hfront, pieces_append_slash, hempty]
    exact congrArg _ (steps_render hsteps)

/-- The components behind those of a path that is not empty are steps. -/
theorem isStep_of_components_append {base p : Path} {rest : List Component} (hbase : base.text ≠ "")
    (hp : p.isAbsolute = true) (h : base.components ++ rest = p.components) :
    ∀ step ∈ rest, step.IsStep := by
  obtain ⟨first, more, hcons⟩ :=
    List.exists_cons_of_ne_nil (mt components_eq_nil_iff.1 hbase)
  rw [components_of_isAbsolute hp, hcons, List.cons_append] at h
  have hsteps : more ++ rest = p.steps := (List.cons.inj h).2
  intro step hstep
  exact isStep_of_mem_steps (hsteps ▸ List.mem_append_right more hstep)

theorem isAbsolute_slashed {text : String} (h : isAbsolute ⟨text⟩ = true) :
    isAbsolute ⟨slashed text⟩ = true := by
  rw [isAbsolute, beq_iff_eq] at h ⊢
  rw [toList_slashed, List.head?_map, h]
  rfl

end Path

/-! ## Names of files -/

namespace Directory

variable {dir : Directory} {reported : String}

/-- One of the two paths of a directory. -/
def HasPath (dir : Directory) (base : Path) : Prop :=
  base = dir.path ∨ dir.canonical? = some base

/-- The name of a file leads to it. The file was reported by an absolute path. -/
inductive LeadsTo (dir : Directory) (reported name : String) : Prop where
  /-- The name is the path, with slashes for backslashes. -/
  | unchanged (h : name = Path.slashed reported)
  /-- The name is relative, and the components of the path are those of the directory and of the
  name. -/
  | below (base : Path) (hbase : dir.HasPath base) (hrelative : Path.isAbsolute ⟨name⟩ = false)
      (hcomponents : base.components ++ Path.components ⟨name⟩ = Path.components ⟨reported⟩)

/-- The name of a file is what is left behind one of the paths of the directory, or the path of the
file is outside of both. -/
theorem relative_cases (dir : Directory) (hreported : Path.isAbsolute ⟨reported⟩ = true) :
    (∃ base rest, dir.HasPath base ∧ base.components ++ rest = Path.components ⟨reported⟩ ∧
      dir.relative reported = Path.render rest) ∨
    (∀ base, dir.HasPath base → ¬base.components <+: Path.components ⟨reported⟩) ∧
      dir.relative reported = Path.slashed reported := by
  rw [relative, if_pos hreported]
  cases hpath : dir.path.stripPrefix? ⟨reported⟩ with
  | some rest => exact .inl ⟨dir.path, rest, .inl rfl, Path.stripPrefix?_eq_some_iff.1 hpath, rfl⟩
  | none =>
    cases hcanonical : dir.canonical?.bind (·.stripPrefix? ⟨reported⟩) with
    | some rest =>
      obtain ⟨c, hc, hrest⟩ := Option.bind_eq_some_iff.1 hcanonical
      exact .inl ⟨c, rest, .inr hc, Path.stripPrefix?_eq_some_iff.1 hrest, rfl⟩
    | none =>
      refine .inr ⟨?_, rfl⟩
      rintro base (rfl | hbase)
      · exact Path.stripPrefix?_eq_none_iff.1 hpath
      · exact Path.stripPrefix?_eq_none_iff.1 (Option.bind_eq_none_iff.1 hcanonical base hbase)

/-- The name of a directory that is empty is in front of all components. -/
theorem relative_of_text_eq_empty (hdir : dir.path.text = "")
    (hreported : Path.isAbsolute ⟨reported⟩ = true) :
    dir.relative reported = Path.render (.root :: Path.steps ⟨reported⟩) := by
  have hstrip : dir.path.stripPrefix? ⟨reported⟩ = some (Path.components ⟨reported⟩) := by
    rw [Path.stripPrefix?_eq_some_iff, Path.components_eq_nil_iff.2 hdir, List.nil_append]
  rw [relative, if_pos hreported, hstrip, Path.components_of_isAbsolute hreported]

section Named

variable (hdir : dir.path.text ≠ "")
  (hcanonical : ∀ c, dir.canonical? = some c → c.isAbsolute = true)
  (hreported : Path.isAbsolute ⟨reported⟩ = true)

include hdir hcanonical hreported

/-- What is left of a path behind a directory whose name is not empty is a relative name. -/
theorem leadsTo_below {base : Path} {rest : List Component} (hbase : dir.HasPath base)
    (h : base.components ++ rest = Path.components ⟨reported⟩) :
    Path.isAbsolute ⟨Path.render rest⟩ = false ∧ dir.LeadsTo reported (Path.render rest) := by
  have hne : base.text ≠ "" := by
    rcases hbase with rfl | hbase
    · exact hdir
    · exact Path.text_ne_empty_of_isAbsolute (hcanonical base hbase)
  have hsteps := Path.isStep_of_components_append hne hreported h
  have hrelative := Path.isAbsolute_render hsteps
  exact ⟨hrelative, .below base hbase hrelative (by rwa [Path.components_render hsteps])⟩

theorem leadsTo_relative : dir.LeadsTo reported (dir.relative reported) := by
  rcases dir.relative_cases hreported with ⟨base, rest, hbase, h, hname⟩ | ⟨-, hname⟩
  · rw [hname]
    exact (leadsTo_below hdir hcanonical hreported hbase h).2
  · exact .unchanged hname

theorem isAbsolute_relative_iff : Path.isAbsolute ⟨dir.relative reported⟩ = true ↔
    ∀ base, dir.HasPath base → ¬base.components <+: Path.components ⟨reported⟩ := by
  rcases dir.relative_cases hreported with ⟨base, rest, hbase, h, hname⟩ | ⟨hout, hname⟩
  · rw [hname, (leadsTo_below hdir hcanonical hreported hbase h).1]
    exact iff_of_false Bool.false_ne_true fun hout => hout base hbase ⟨rest, h⟩
  · rw [hname]
    exact iff_of_true (Path.isAbsolute_slashed hreported) hout

end Named

/-- The name of a file that was reported by an absolute path leads to the file, and it is relative
if the path is below one of the paths of the directory. This fails for a directory with the empty
name only: all components of the path are left behind it, with two slashes in front of the first
step, and the name is the path only if the path was written like this. -/
theorem leadsTo_relative_iff (dir : Directory)
    (hcanonical : ∀ c, dir.canonical? = some c → c.isAbsolute = true)
    (hreported : Path.isAbsolute ⟨reported⟩ = true) :
    (dir.LeadsTo reported (dir.relative reported) ↔
      (dir.path.text = "" → dir.relative reported = Path.slashed reported)) ∧
    (dir.path.text ≠ "" → (Path.isAbsolute ⟨dir.relative reported⟩ = true ↔
      ∀ base, dir.HasPath base → ¬base.components <+: Path.components ⟨reported⟩)) ∧
    (dir.path.text = "" →
      dir.relative reported = (if Path.steps ⟨reported⟩ = [] then "/"
        else "//" ++ Path.render (Path.steps ⟨reported⟩)) ∧
      Path.components ⟨dir.relative reported⟩ = Path.components ⟨reported⟩) := by
  have hsteps : ∀ step ∈ Path.steps ⟨reported⟩, step.IsStep := fun _ => Path.isStep_of_mem_steps
  refine ⟨⟨fun hleads hdir => ?_, fun hname => ?_⟩, fun hdir => ?_, fun hdir => ⟨?_, ?_⟩⟩
  · cases hleads with
    | unchanged h => exact h
    | below base hbase hrelative =>
      rw [relative_of_text_eq_empty hdir hreported,
        (Path.components_render_root_cons hsteps).1] at hrelative
      cases hrelative
  · by_cases hdir : dir.path.text = ""
    · exact .unchanged (hname hdir)
    · exact leadsTo_relative hdir hcanonical hreported
  · exact isAbsolute_relative_iff hdir hcanonical hreported
  · rw [relative_of_text_eq_empty hdir hreported, Path.render_root_cons hsteps]
  · rw [relative_of_text_eq_empty hdir hreported, (Path.components_render_root_cons hsteps).2,
      Path.components_of_isAbsolute hreported]

/-- The directory is known by a link, and backslashes stay below it. Outside of it they become
slashes. A path with two slashes in front of it is its own name in a directory without one. -/
theorem leadsTo_relative_below_link :
    let dir : Directory := ⟨⟨"../link/./repo/"⟩, some ⟨"/real/repo"⟩⟩
    let nameless : Directory := ⟨⟨""⟩, none⟩
    (dir.relative "/real//repo/./a\\b/../c.js/" = "a\\b/../c.js" ∧
      dir.LeadsTo "/real//repo/./a\\b/../c.js/" "a\\b/../c.js") ∧
    (dir.relative "/real/repo2\\x" = "/real/repo2/x" ∧
      dir.LeadsTo "/real/repo2\\x" "/real/repo2/x" ∧ Path.isAbsolute ⟨"/real/repo2/x"⟩ = true) ∧
    nameless.LeadsTo "//repo/a" "//repo/a" ∧
      Path.components ⟨nameless.relative "/repo//a/."⟩ = Path.components ⟨"/repo//a/."⟩ := by
  intro dir nameless
  have hcanonical : ∀ c, dir.canonical? = some c → c.isAbsolute = true := by
    rintro c ⟨⟩
    decide
  have hbelow : dir.relative "/real//repo/./a\\b/../c.js/" = "a\\b/../c.js" := by decide
  have hout : dir.relative "/real/repo2\\x" = "/real/repo2/x" := by decide +kernel
  have hcanonical' : ∀ c, nameless.canonical? = some c → c.isAbsolute = true := by
    rintro c ⟨⟩
  have hinside : Path.isAbsolute ⟨"/real//repo/./a\\b/../c.js/"⟩ = true := by decide
  have houtside : Path.isAbsolute ⟨"/real/repo2\\x"⟩ = true := by decide
  have hdouble : Path.isAbsolute ⟨"//repo/a"⟩ = true := by decide
  have hsingle : Path.isAbsolute ⟨"/repo//a/."⟩ = true := by decide
  obtain ⟨hleads, -, -⟩ := leadsTo_relative_iff dir hcanonical hinside
  obtain ⟨hleads', -, -⟩ := leadsTo_relative_iff dir hcanonical houtside
  obtain ⟨hleads'', -, -⟩ := leadsTo_relative_iff nameless hcanonical' hdouble
  obtain ⟨-, -, hsame⟩ := leadsTo_relative_iff nameless hcanonical' hsingle
  have hname : dir.path.text ≠ "" := by decide
  refine ⟨⟨hbelow, ?_⟩, ⟨hout, ?_, by decide⟩, hleads''.2 fun _ => by decide +kernel, (hsame rfl).2⟩
  · exact hbelow ▸ hleads.2 fun hempty => absurd hempty hname
  · exact hout ▸ hleads'.2 fun hempty => absurd hempty hname

/-- In a directory with the empty name, a path gets a second slash in front of it. -/
theorem not_leadsTo_relative_nameless :
    let dir : Directory := ⟨⟨""⟩, none⟩
    dir.relative "/repo/a" = "//repo/a" ∧ ¬dir.LeadsTo "/repo/a" (dir.relative "/repo/a") := by
  intro dir
  refine ⟨by decide, fun hleads => ?_⟩
  cases hleads with
  | unchanged h => exact absurd h (by decide +kernel)
  | below base hbase hrelative => exact absurd hrelative (by decide)

end Directory

end LintRun
