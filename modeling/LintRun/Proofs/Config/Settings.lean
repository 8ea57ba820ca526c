import LintRun.Proofs.Config.Jobs

/-!
# The settings of jobs

What settings say about a tool goes before what they say about all tools, and this goes before the
defaults of the tool. What they say about other tools does not matter, and neither does it matter
which tools are enabled, or which others run.

## Main definitions

* `Config.saidOf` is what settings say about how to run a tool.
* `Job.IsSettled` says that a job has the settings that it should have.

## Main statements

* `Job.IsSettled.eq`: a job is settled in one way only.
* `Config.jobs_isSettled`: the jobs for some identifiers are settled, each of them on its own.
-/

namespace LintRun

/-- A value is the one that is said, or `fallback` if nothing is said. -/
inductive IsSaidOr {α : Type} (fallback : α) : Option α → α → Prop where
  | said (value : α) : IsSaidOr fallback (some value) value
  | unsaid : IsSaidOr fallback none fallback

/-- Where a tool runs that is said to run in a directory, as seen from a root. -/
inductive IsDirFrom (root : Path) : Option String → Path → Prop where
  | unsaid : IsDirFrom root none root
  | absolute {dir : String} (h : Path.isAbsolute ⟨dir⟩ = true) : IsDirFrom root (some dir) ⟨dir⟩
  | relative {dir : String} (h : Path.isAbsolute ⟨dir⟩ = false) :
      IsDirFrom root (some dir) (root.join ⟨dir⟩)

/-- What is said about how to run the tool `id`. Whether it is enabled is no part of this. -/
def Config.saidOf (config : Config) (id : String) : ToolConfig :=
  { (config.tools.get? id).getD {} with enabled := true }

/-- A job has its settings from what is said about its tool, or else from what is said about all
tools and from the defaults. -/
structure Job.IsSettled (config : Config) (root : Path) (forceFix : Bool) (job : Job) : Prop where
  dir : IsDirFrom root (config.saidOf job.entry.id).dir? job.settings.dir
  extensions : IsSaidOr job.entry.tool.defaultExtensions (config.saidOf job.entry.id).extensions?
    job.settings.extensions
  arguments : job.settings.arguments = (config.saidOf job.entry.id).arguments
  fix_iff : job.settings.fix = true ↔ forceFix = true ∨
    (config.saidOf job.entry.id).autoFix? = some true ∨
    (config.saidOf job.entry.id).autoFix? = none ∧ config.autoFix = true
  commandPrefix : IsSaidOr config.commandPrefix (config.saidOf job.entry.id).commandPrefix?
    job.settings.commandPrefix

/-! ## What is said about a tool -/

theorem Table.lookup_insert_of_ne {α : Type} {key key' : String} (hne : key' ≠ key) (value : α)
    (entries : List (String × α)) :
    (Table.insert key value entries).lookup key' = entries.lookup key' := by
  have hkey : (key' == key) = false := beq_false_of_ne hne
  induction entries with
  | nil => simp [Table.insert, List.lookup_cons, hkey]
  | cons entry rest ih =>
    rw [Table.insert]
    split
    · rw [List.lookup_cons, hkey]
    · split
      · next heq => rw [List.lookup_cons, List.lookup_cons, ← heq, hkey]
      · rw [List.lookup_cons, List.lookup_cons, ih]

theorem Config.saidOf_set_of_ne (config : Config) {id id' : String} (hne : id' ≠ id)
    (tool : ToolConfig) :
    saidOf { config with tools := config.tools.set id tool } id' = config.saidOf id' := by
  have hget : (config.tools.set id tool).get? id' = config.tools.get? id' :=
    Table.lookup_insert_of_ne hne tool config.tools.entries
  rw [saidOf, saidOf, hget]

/-! ## Settled jobs -/

theorem IsSaidOr.eq {α : Type} {fallback value value' : α} {said? : Option α}
    (h : IsSaidOr fallback said? value) (h' : IsSaidOr fallback said? value') :
    value' = value := by
  cases h with
  | said => cases h' with | said => rfl
  | unsaid => cases h' with | unsaid => rfl

theorem isSaidOr_getD {α : Type} (fallback : α) (said? : Option α) :
    IsSaidOr fallback said? (said?.getD fallback) := by
  cases said? with
  | some value => exact .said value
  | none => exact .unsaid

theorem IsDirFrom.eq {root dir dir' : Path} {said? : Option String}
    (h : IsDirFrom root said? dir) (h' : IsDirFrom root said? dir') : dir' = dir := by
  cases h with
  | unsaid => cases h' with | unsaid => rfl
  | absolute habs =>
    cases h' with
    | absolute => rfl
    | relative hrel => rw [habs] at hrel; cases hrel
  | relative hrel =>
    cases h' with
    | absolute habs => rw [habs] at hrel; cases hrel
    | relative => rfl

theorem isDirFrom_resolveDir (root : Path) (said? : Option String) :
    IsDirFrom root said? (Config.resolveDir root said?) := by
  cases said? with
  | none => exact .unsaid
  | some dir =>
    rw [Config.resolveDir]
    cases habs : Path.isAbsolute ⟨dir⟩ with
    | false => exact .relative habs
    | true =>
      rw [Path.join, if_pos habs]
      exact .absolute habs

/-- Jobs for one entry are the same if the same is said about the tool and about all tools. -/
theorem Job.IsSettled.eq {config other : Config} {root : Path} {forceFix : Bool} {job job' : Job}
    (h : job.IsSettled config root forceFix) (h' : job'.IsSettled other root forceFix)
    (hentry : job'.entry = job.entry) (hfix : other.autoFix = config.autoFix)
    (hfront : other.commandPrefix = config.commandPrefix)
    (hsaid : other.saidOf job.entry.id = config.saidOf job.entry.id) : job' = job := by
  obtain ⟨dir', extensions', arguments', fix', prefix'⟩ := h'
  rw [hentry, hsaid] at dir' extensions' arguments' fix' prefix'
  rw [hfix] at fix'
  rw [hfront] at prefix'
  have hsettings : job'.settings = job.settings := by
    rw [JobSettings.mk.injEq, Tool.CommandSettings.mk.injEq]
    exact ⟨⟨h.extensions.eq extensions', arguments'.trans h.arguments.symm,
      Bool.eq_iff_iff.2 (fix'.trans h.fix_iff.symm), h.commandPrefix.eq prefix'⟩, h.dir.eq dir'⟩
  cases job
  cases job'
  exact congr (congrArg Job.mk hentry) hsettings

namespace Config

variable {config : Config} {root : Path} {names : List String} {forceFix : Bool}
  {jobs : List Job} {job : Job}

theorem isSettled_job (config : Config) (root : Path) (forceFix : Bool) (entry : Entry) :
    (config.job root forceFix entry).IsSettled config root forceFix := by
  have hfix : ∀ said? : Option Bool, (forceFix || said?.getD config.autoFix) = true ↔
      forceFix = true ∨ said? = some true ∨ said? = none ∧ config.autoFix = true := by
    intro said?
    cases said? <;> simp
  exact ⟨isDirFrom_resolveDir _ _, isSaidOr_getD _ _, rfl, hfix _, isSaidOr_getD _ _⟩

theorem isSettled_of_mem_jobs (h : config.jobs root names forceFix = .ok jobs) (hjob : job ∈ jobs) :
    job.IsSettled config root forceFix := by
  obtain ⟨planned, -, rfl⟩ := jobs_eq_ok_iff.1 h
  obtain ⟨entry, -, rfl⟩ := List.mem_map.1 hjob
  exact isSettled_job config root forceFix entry

theorem get?_of_mem_jobs (h : config.jobs root names forceFix = .ok jobs) (hjob : job ∈ jobs) :
    Registry.get? job.entry.id = some job.entry := by
  obtain ⟨planned, hplan, rfl⟩ := jobs_eq_ok_iff.1 h
  obtain ⟨entry, hentry, rfl⟩ := List.mem_map.1 hjob
  exact Registry.get?_eq_some_iff.2 ⟨Registry.mem_entries_of_plan hplan entry hentry, rfl⟩

theorem exists_job_of_mem (h : config.jobs root names forceFix = .ok jobs) {id : String}
    (hid : id ∈ names) : ∃ job ∈ jobs, job.entry.id = id := by
  obtain ⟨planned, hplan, rfl⟩ := jobs_eq_ok_iff.1 h
  obtain ⟨entry, hentry, rfl⟩ := List.mem_map.1 ((Registry.map_id_plan_perm hplan).mem_iff.2 hid)
  exact ⟨_, List.mem_map_of_mem hentry, rfl⟩

theorem fix_of_mem_jobs_of_not_said (h : config.jobs root names false = .ok jobs)
    (hfix : config.autoFix = false)
    (hsaid : ∀ entry ∈ config.tools.entries, entry.2.autoFix? ≠ some true) (hjob : job ∈ jobs) :
    job.settings.fix = false := by
  rw [← Bool.not_eq_true, (isSettled_of_mem_jobs h hjob).fix_iff, hfix]
  have hown : (config.saidOf job.entry.id).autoFix? ≠ some true := by
    rw [saidOf]
    cases hget : config.tools.get? job.entry.id with
    | none => decide
    | some tool => exact hsaid _ (Table.mem_of_get? hget)
  simp [hown]

/-- The jobs for registered identifiers are the entries of their plan in its order, and each is
settled by what is said about its own tool and about all tools. So it is the same job under all
settings that say the same about these, whichever identifiers are named with it. If changes are
forced, every job makes them; if they are not, and nothing says that there should be any, none
does. -/
theorem jobs_isSettled (config : Config) (root : Path) (forceFix : Bool)
    (h : ∀ id ∈ names, id ∈ Registry.ids) :
    ∃ planned jobs, Registry.plan names = .ok planned ∧
      config.jobs root names forceFix = .ok jobs ∧ jobs.map Job.entry = planned ∧
      (∀ job ∈ jobs, job.IsSettled config root forceFix) ∧
      (∀ (other : Config) (names' : List String) (jobs' : List Job),
        other.autoFix = config.autoFix → other.commandPrefix = config.commandPrefix →
        other.jobs root names' forceFix = .ok jobs' →
        ∀ job ∈ jobs, other.saidOf job.entry.id = config.saidOf job.entry.id →
          (job.entry.id ∈ names' → job ∈ jobs') ∧
          ∀ job' ∈ jobs', job'.entry.id = job.entry.id → job' = job) ∧
      (forceFix = true → ∀ job ∈ jobs, job.settings.fix = true) ∧
      (forceFix = false → config.autoFix = false →
        (∀ entry ∈ config.tools.entries, entry.2.autoFix? ≠ some true) →
        ∀ job ∈ jobs, job.settings.fix = false) := by
  obtain ⟨jobs, hjobs⟩ := exists_jobs_iff.2 h
  obtain ⟨planned, hplan, hplanned⟩ := jobs_eq_ok_iff.1 hjobs
  refine ⟨planned, jobs, hplan, hjobs, hplanned ▸ map_entry_job planned,
    fun job hjob => isSettled_of_mem_jobs hjobs hjob, ?_, ?_, ?_⟩
  · intro other names' jobs' hfix hfront hjobs' job hjob hsaid
    have hsame : ∀ job' ∈ jobs', job'.entry.id = job.entry.id → job' = job := by
      intro job' hjob' hid
      have hentry : job'.entry = job.entry := by
        have hget := get?_of_mem_jobs hjobs' hjob'
        rw [hid, get?_of_mem_jobs hjobs hjob] at hget
        exact (Option.some_inj.1 hget).symm
      exact (isSettled_of_mem_jobs hjobs hjob).eq (isSettled_of_mem_jobs hjobs' hjob') hentry hfix
        hfront hsaid
    refine ⟨fun hid => ?_, hsame⟩
    obtain ⟨job', hjob', hid'⟩ := exists_job_of_mem hjobs' hid
    exact hsame job' hjob' hid' ▸ hjob'
  · rintro rfl job hjob
    exact (isSettled_of_mem_jobs hjobs hjob).fix_iff.2 (Or.inl rfl)
  · rintro rfl hfix hsaid job hjob
    exact fix_of_mem_jobs_of_not_said hjobs hfix hsaid hjob

/-- Settings with another tool in them, and runs with other tools, leave a job as it is. An empty
prefix and a flag that is off are said like any other. -/
theorem jobs_isSettled_of_others :
    let eslint : ToolConfig :=
      { dir? := some "/web", autoFix? := some false, commandPrefix? := some "" }
    let config : Config :=
      { autoFix := true, commandPrefix := "nice", tools := Table.empty.set "eslint" eslint }
    let other : Config := { config with
      tools := config.tools.set "black" { enabled := false, autoFix? := some true } }
    ∃ jobs jobs' job, config.jobs ⟨"/work"⟩ ["prettier", "eslint"] false = .ok jobs ∧
      other.jobs ⟨"/work"⟩ ["eslint", "black"] false = .ok jobs' ∧
      jobs.map (·.entry.id) = ["eslint", "prettier"] ∧ job ∈ jobs ∧ job ∈ jobs' ∧
      job.entry.id = "eslint" ∧ job.settings.dir = ⟨"/web"⟩ ∧ job.settings.fix = false ∧
      job.settings.commandPrefix = "" := by
  intro eslint config other
  have hnames : ∀ id ∈ ["prettier", "eslint"], id ∈ Registry.ids := by decide
  have hothers : ∀ id ∈ ["eslint", "black"], id ∈ Registry.ids := by decide
  have hmem : "eslint" ∈ ["prettier", "eslint"] := by simp
  obtain ⟨planned, jobs, hplan, hjobs, hentries, hsettled, hsame, -, -⟩ :=
    jobs_isSettled config ⟨"/work"⟩ false hnames
  obtain ⟨-, jobs', -, hjobs', -⟩ := jobs_isSettled other ⟨"/work"⟩ false hothers
  obtain ⟨job, hjob, hid⟩ := exists_job_of_mem hjobs hmem
  have hsaid : config.saidOf job.entry.id = eslint := by
    rw [hid]
    rfl
  have hother : other.saidOf job.entry.id = config.saidOf job.entry.id :=
    config.saidOf_set_of_ne (hid ▸ by decide) _
  obtain ⟨hdir, -, -, hfix, hfront⟩ := hsettled job hjob
  rw [hsaid] at hdir hfix hfront
  refine ⟨jobs, jobs', job, hjobs, hjobs', ?_, hjob, ?_, hid, ?_, ?_, ?_⟩
  · have hids := Registry.map_id_plan hplan
    rw [← hentries, List.map_map] at hids
    exact hids.trans (by decide)
  · exact (hsame other _ jobs' rfl rfl hjobs' job hjob hother).1 (hid ▸ by simp)
  · exact (IsDirFrom.absolute (by decide)).eq hdir
  · rw [← Bool.not_eq_true, hfix]
    decide
  · exact (IsSaidOr.said "").eq hfront

end Config

end LintRun
