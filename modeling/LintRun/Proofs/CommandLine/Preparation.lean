import LintRun.CommandLine.Run
import LintRun.Proofs.Config.Jobs
import LintRun.Proofs.Dialogue.Exchange
import LintRun.Proofs.FileTree.Resolve

/-!
# Requests

A request can be wrong in many ways at once, and is refused before anything else happens. So a
request of which tools are run is good in every respect.

## Main definitions

* `RunArguments.IsSound` says that nothing is wrong with a request but perhaps its tools.
* `RunArguments.IsGood` says that there are tools to run, all of them registered, and
  `RunArguments.IsIdle` that there are none.

## Main statements

* `RunArguments.prepare_eq_ok_iff`: the requests with jobs.
* `RunArguments.execute_acts_only_if_good`: only good requests have any effect.
-/

namespace LintRun

theorem Refusal.status_eq_of_ne {refusal : Refusal} (h : refusal ≠ .noTools) :
    refusal.status = statusError := by
  cases refusal <;> first | rfl | exact absurd rfl h

namespace RunArguments

/-- The settings of a request are those in its settings file. If it has no such file, there are none
but the defaults. -/
inductive HasConfig (arguments : RunArguments) (fs : FileSystem) (root : Path) : Config → Prop where
  | read {path : Path} {content : List UInt8} {text : String} {config : Config}
      (hpath : arguments.configPath? fs root = some path) (hcontent : fs.content path = .ok content)
      (htext : Text.decode? content = some text) (hconfig : Config.ofText? text = some config) :
      HasConfig arguments fs root config
  | absent (hpath : arguments.configPath? fs root = none) : HasConfig arguments fs root {}

/-- Nothing is wrong with a request but perhaps its tools. -/
structure IsSound (arguments : RunArguments) (fs : FileSystem) (root : Path) (config : Config) :
    Prop where
  format : arguments.format = "pretty" ∨ arguments.format = "json"
  path : ∃ location, fs.resolve ⟨arguments.path⟩ = .ok location ∧ location.path = root
  isDirectory : fs.isDirectory root = true
  hasConfig : arguments.HasConfig fs root config
  inOrder : ∀ entry ∈ config.tools.entries, entry.2.IsInOrder entry.1

/-- There are tools to run, and all of them are registered. -/
def IsGood (arguments : RunArguments) (fs : FileSystem) : Prop :=
  ∃ root config, arguments.IsSound fs root config ∧ arguments.ids config ≠ [] ∧
    ∀ id ∈ arguments.ids config, id ∈ Registry.ids

/-- Nothing is wrong with a request but that there are no tools to run. -/
def IsIdle (arguments : RunArguments) (fs : FileSystem) : Prop :=
  ∃ root config, arguments.IsSound fs root config ∧ arguments.ids config = []

/-- The first check of `RunArguments.prepare`. -/
def checkFormat (arguments : RunArguments) : Except Refusal Unit :=
  if formats.contains arguments.format then .ok () else .error (.unknownFormat arguments.format)

/-- The first part of `RunArguments.prepare`, which finds the directory and the settings. -/
def ground (arguments : RunArguments) (fs : FileSystem) : Except Refusal (Path × Config) := do
  arguments.checkFormat
  let root ← arguments.root fs
  return (root, ← arguments.config fs root)

/-- The second part of `RunArguments.prepare`, which finds the jobs. -/
def select (arguments : RunArguments) (ground : Path × Config) : Except Refusal (List Job) :=
  if (arguments.ids ground.2).isEmpty then .error .noTools
  else (ground.2.jobs ground.1 (arguments.ids ground.2) arguments.fix).mapError .unknownTool

variable {arguments : RunArguments} {fs : FileSystem} {root : Path} {config : Config}

theorem prepare_eq : arguments.prepare fs = arguments.ground fs >>= arguments.select := by
  unfold prepare ground checkFormat
  cases formats.contains arguments.format with
  | false => rfl
  | true =>
    cases arguments.root fs with
    | error e => rfl
    | ok root =>
      dsimp only [bind, Except.bind]
      cases arguments.config fs root <;> rfl

/-! ## Directories and settings -/

theorem root_eq_ok_iff : arguments.root fs = .ok root ↔
    (∃ location, fs.resolve ⟨arguments.path⟩ = .ok location ∧ location.path = root) ∧
      fs.isDirectory root = true := by
  unfold RunArguments.root
  cases fs.resolve ⟨arguments.path⟩ with
  | error e => exact iff_of_false (by rintro ⟨⟩) (by simp)
  | ok location =>
    dsimp only
    split
    · next hdir =>
      constructor
      · rintro ⟨⟩
        exact ⟨⟨location, rfl, rfl⟩, hdir⟩
      · rintro ⟨⟨_, ⟨⟩, rfl⟩, -⟩
        rfl
    · next hdir =>
      refine iff_of_false (by rintro ⟨⟩) ?_
      rintro ⟨⟨_, ⟨⟩, rfl⟩, hdir'⟩
      exact hdir hdir'

theorem readConfig_eq_ok_iff {path : Path} : readConfig fs path = .ok config ↔
    ∃ content, fs.content path = .ok content ∧
      ∃ text, Text.decode? content = some text ∧ Config.ofText? text = some config := by
  rw [readConfig, bind_eq_ok_iff]
  simp only [mapError_eq_ok_iff]
  refine exists_congr fun content => and_congr_right fun _ => ?_
  cases Text.decode? content with
  | none => exact iff_of_false (by rintro ⟨⟩) (by simp)
  | some text =>
    simp only [Option.some.injEq, exists_eq_left']
    cases Config.ofText? text with
    | none => exact iff_of_false (by rintro ⟨⟩) (by rintro ⟨⟩)
    | some found => exact Iff.of_eq ((Except.ok.injEq _ _).trans (Option.some.injEq _ _).symm)

/-- What is read is checked behind it. -/
theorem config_eq : arguments.config fs root =
    ((arguments.configPath? fs root).elim (.ok {}) (readConfig fs) >>= fun config =>
      config.validate.mapError .badConfig >>= fun _ => .ok config) := by
  unfold RunArguments.config
  cases arguments.configPath? fs root <;> rfl

theorem hasConfig_iff : arguments.HasConfig fs root config ↔
    (arguments.configPath? fs root).elim (.ok {}) (readConfig fs) = .ok config := by
  constructor
  · intro h
    cases h with
    | read hpath hcontent htext hconfig =>
      rw [hpath, Option.elim_some, readConfig_eq_ok_iff]
      exact ⟨_, hcontent, _, htext, hconfig⟩
    | absent hpath => rw [hpath, Option.elim_none]
  · intro h
    cases hpath : arguments.configPath? fs root with
    | none =>
      rw [hpath] at h
      obtain rfl := Except.ok.inj h
      exact .absent hpath
    | some path =>
      rw [hpath, Option.elim_some, readConfig_eq_ok_iff] at h
      obtain ⟨content, hcontent, text, htext, hconfig⟩ := h
      exact .read hpath hcontent htext hconfig

theorem config_eq_ok_iff : arguments.config fs root = .ok config ↔
    arguments.HasConfig fs root config ∧
      ∀ entry ∈ config.tools.entries, entry.2.IsInOrder entry.1 := by
  rw [← Config.validate_eq_ok_iff_isInOrder, config_eq, bind_eq_ok_iff, hasConfig_iff]
  simp only [check_bind_eq_ok_iff, mapError_eq_ok_iff, Except.ok.injEq]
  constructor
  · rintro ⟨found, hfound, hok, rfl⟩
    exact ⟨hfound, hok⟩
  · rintro ⟨hfound, hok⟩
    exact ⟨config, hfound, hok, rfl⟩

/-- There is a directory with settings for a sound request and for no other one. -/
theorem ground_eq_ok_iff :
    arguments.ground fs = .ok (root, config) ↔ arguments.IsSound fs root config := by
  have hformat : arguments.checkFormat = .ok () ↔
      arguments.format = "pretty" ∨ arguments.format = "json" := by
    simp [checkFormat, formats, or_iff_not_imp_left]
  rw [ground, check_bind_eq_ok_iff, bind_eq_ok_iff, hformat]
  simp only [bind_eq_ok_iff, root_eq_ok_iff, config_eq_ok_iff]
  constructor
  · rintro ⟨hformat, root', ⟨hpath, hdirectory⟩, config', ⟨hconfig, horder⟩, ⟨⟩⟩
    exact ⟨hformat, hpath, hdirectory, hconfig, horder⟩
  · intro h
    exact ⟨h.format, root, ⟨h.path, h.isDirectory⟩, config, ⟨h.hasConfig, h.inOrder⟩, rfl⟩

/-! ## Refusals -/

theorem root_ne_noTools : arguments.root fs ≠ .error .noTools := by
  unfold RunArguments.root
  cases fs.resolve ⟨arguments.path⟩ with
  | error e => rintro ⟨⟩
  | ok location =>
    dsimp only
    split <;> rintro ⟨⟩

theorem readConfig_ne_noTools {path : Path} : readConfig fs path ≠ .error .noTools := by
  rw [readConfig, ne_eq, bind_eq_error_iff, mapError_eq_error_iff]
  rintro (⟨e, -, ⟨⟩⟩ | ⟨content, -, h⟩)
  split at h
  · cases h
  · split at h <;> cases h

theorem config_ne_noTools : arguments.config fs root ≠ .error .noTools := by
  rw [config_eq, ne_eq, bind_eq_error_iff]
  rintro (h | ⟨config, -, h⟩)
  · cases hpath : arguments.configPath? fs root with
    | none => simp [hpath] at h
    | some path => exact readConfig_ne_noTools (by simpa [hpath] using h)
  · rw [check_bind_eq_error_iff, mapError_eq_error_iff] at h
    rcases h with ⟨mistake, -, ⟨⟩⟩ | ⟨-, ⟨⟩⟩

/-- What is wrong with a request that has no directory or no settings is never that there is nothing
to run. -/
theorem ground_ne_noTools : arguments.ground fs ≠ .error .noTools := by
  rw [ground, ne_eq, check_bind_eq_error_iff, bind_eq_error_iff]
  rintro (h | ⟨-, h | ⟨root, -, h⟩⟩)
  · unfold checkFormat at h
    split at h <;> cases h
  · exact root_ne_noTools h
  · rcases bind_eq_error_iff.1 h with h | ⟨config, -, ⟨⟩⟩
    exact config_ne_noTools h

/-- A request is refused because there is nothing to run only if nothing else is wrong with it. -/
theorem prepare_eq_noTools_iff : arguments.prepare fs = .error .noTools ↔ arguments.IsIdle fs := by
  have hselect : ∀ root config,
      arguments.select (root, config) = .error .noTools ↔ arguments.ids config = [] := by
    intro root config
    unfold select
    by_cases hids : arguments.ids config = []
    · simp [hids]
    · simp [hids, mapError_eq_error_iff]
  rw [prepare_eq, bind_eq_error_iff, or_iff_right ground_ne_noTools, Prod.exists]
  simp only [ground_eq_ok_iff, hselect, IsIdle]

/-- The requests with jobs. -/
theorem prepare_eq_ok_iff {jobs : List Job} : arguments.prepare fs = .ok jobs ↔
    ∃ root config, arguments.IsSound fs root config ∧ arguments.ids config ≠ [] ∧
      config.jobs root (arguments.ids config) arguments.fix = .ok jobs := by
  have hselect : ∀ root config, arguments.select (root, config) = .ok jobs ↔
      arguments.ids config ≠ [] ∧
        config.jobs root (arguments.ids config) arguments.fix = .ok jobs := by
    intro root config
    unfold select
    by_cases hids : arguments.ids config = []
    · simp [hids]
    · simp [hids, mapError_eq_ok_iff]
  rw [prepare_eq, bind_eq_ok_iff, Prod.exists]
  simp only [ground_eq_ok_iff, hselect]

/-- There are jobs for a good request and for no other one. -/
theorem exists_prepare_iff :
    (∃ jobs, arguments.prepare fs = .ok jobs) ↔ arguments.IsGood fs := by
  constructor
  · rintro ⟨jobs, h⟩
    obtain ⟨root, config, hsound, hids, hjobs⟩ := prepare_eq_ok_iff.1 h
    exact ⟨root, config, hsound, hids, Config.exists_jobs_iff.1 ⟨jobs, hjobs⟩⟩
  · rintro ⟨root, config, hsound, hids, hregistered⟩
    obtain ⟨jobs, hjobs⟩ := Config.exists_jobs_iff.2 hregistered
    exact ⟨jobs, prepare_eq_ok_iff.2 ⟨root, config, hsound, hids, hjobs⟩⟩

/-! ## Effects -/

variable {σ : Type} {world : World σ} {shown : Bool}

theorem run_execute_of_ok {jobs : List Job} (h : arguments.prepare fs = .ok jobs) (s : σ) :
    (arguments.execute shown fs).run world s =
      let course := (run [] (!arguments.skipSetupCheck) jobs).run world s
      ⟨{ status := statusOf course.value, stdout := arguments.text shown course.value },
        course.events, course.state⟩ := by
  have hexecute : arguments.execute shown fs =
      (run [] (!arguments.skipSetupCheck) jobs >>= fun report =>
        .done { status := statusOf report, stdout := arguments.text shown report }) := by
    rw [execute, h]
    rfl
  rw [hexecute, Dialogue.run_bind]
  simp only [Dialogue.run, List.append_nil]

theorem run_execute_of_error {refusal : Refusal} (h : arguments.prepare fs = .error refusal)
    (s : σ) : (arguments.execute shown fs).run world s = ⟨refusal.ending, [], s⟩ := by
  rw [execute, h]
  rfl

/-- A request that is not good leaves the world alone. -/
theorem run_execute_of_not_isGood (h : ¬arguments.IsGood fs) (s : σ) :
    let course := (arguments.execute shown fs).run world s
    course.events = [] ∧ course.state = s ∧ course.value.stdout = "" ∧
      (arguments.IsIdle fs → course.value.status = 0) ∧
      (¬arguments.IsIdle fs → course.value.status = 2) := by
  intro course
  cases hprepare : arguments.prepare fs with
  | ok jobs => exact absurd (exists_prepare_iff.1 ⟨jobs, hprepare⟩) h
  | error refusal =>
    have hcourse : course = ⟨refusal.ending, [], s⟩ := run_execute_of_error hprepare s
    rw [hcourse]
    refine ⟨rfl, rfl, rfl, fun hidle => ?_, fun hidle => Refusal.status_eq_of_ne ?_⟩
    · obtain rfl := Except.error.inj (hprepare.symm.trans (prepare_eq_noTools_iff.2 hidle))
      rfl
    · rintro rfl
      exact hidle (prepare_eq_noTools_iff.1 hprepare)

/-- A good request runs its jobs and writes their report. Any other request has no effect on the
world and writes no report. It ends with the status for errors, but for a sound request of no tools
at all. -/
theorem execute_acts_only_if_good (arguments : RunArguments) (shown : Bool) (fs : FileSystem)
    (world : World σ) (s : σ) :
    let course := (arguments.execute shown fs).run world s
    (arguments.IsGood fs → ∃ root config jobs, arguments.IsSound fs root config ∧
      config.jobs root (arguments.ids config) arguments.fix = .ok jobs ∧
      let ran := (run [] (!arguments.skipSetupCheck) jobs).run world s
      course = ⟨{ status := statusOf ran.value, stdout := arguments.text shown ran.value },
        ran.events, ran.state⟩) ∧
    (¬arguments.IsGood fs →
      course.events = [] ∧ course.state = s ∧ course.value.stdout = "" ∧
      (arguments.IsIdle fs → course.value.status = 0) ∧
      (¬arguments.IsIdle fs → course.value.status = 2)) ∧
    ((∃ id ∈ arguments.only, id ∉ Registry.ids) →
      course.events = [] ∧ course.state = s ∧ course.value.stdout = "" ∧
        course.value.status = 2) := by
  intro course
  refine ⟨?_, fun hbad => run_execute_of_not_isGood hbad s, ?_⟩
  · intro hgood
    obtain ⟨jobs, hprepare⟩ := exists_prepare_iff.2 hgood
    obtain ⟨root, config, hsound, -, hjobs⟩ := prepare_eq_ok_iff.1 hprepare
    exact ⟨root, config, jobs, hsound, hjobs, run_execute_of_ok hprepare s⟩
  · rintro ⟨id, hid, hunknown⟩
    -- Tools are named, so the settings have no say in which ones are run.
    have hids : ∀ config, arguments.ids config = arguments.only := fun config =>
      if_neg (by simpa using List.ne_nil_of_mem hid)
    have hbad : ¬arguments.IsGood fs := by
      rintro ⟨root, config, -, -, hregistered⟩
      exact hunknown (hregistered id (hids config ▸ hid))
    have hbusy : ¬arguments.IsIdle fs := by
      rintro ⟨root, config, -, hempty⟩
      exact List.ne_nil_of_mem hid ((hids config).symm.trans hempty)
    obtain ⟨hevents, hstate, hstdout, -, hstatus⟩ :
        course.events = [] ∧ course.state = s ∧ course.value.stdout = "" ∧ _ ∧ _ :=
      run_execute_of_not_isGood hbad s
    exact ⟨hevents, hstate, hstdout, hstatus hbusy⟩

/-- One unknown tool behind a known one keeps both from being run. The known tool alone is run, and
a request of no tools at all ends well. -/
theorem execute_acts_only_if_good_of_unknown :
    let fs : FileSystem := ⟨.emptyDirectory, []⟩
    let world : World Unit :=
      { lookUp := fun _ => pure true
        call := fun _ => pure (.ok .empty)
        listFiles := fun _ => pure (.ok [])
        canonical := fun _ => pure none }
    let ofTools (only : List String) : RunArguments := { fix := true, only }
    let course (only : List String) := ((ofTools only).execute false fs).run world ()
    (∃ jobs, jobs.map (·.entry.id) = ["gofmt"] ∧
      (course ["gofmt"]).events = ((run [] true jobs).run world ()).events) ∧
    (course ["gofmt", "GOFMT"]).events = [] ∧ (course ["gofmt", "GOFMT"]).value.status = 2 ∧
    (course []).events = [] ∧ (course []).value.status = 0 := by
  intro fs world ofTools course
  have hroot : fs.resolve ⟨"/"⟩ = .ok [] :=
    FileSystem.resolve_eq_ok_iff.2 ⟨by decide, by decide, by decide,
      FileSystem.walk_of_empty (by decide +kernel)⟩
  have hsound : ∀ only, (ofTools only).IsSound fs ⟨"/"⟩ {} := by
    intro only
    refine ⟨.inl rfl, ⟨[], FileSystem.resolve_dot fs, rfl⟩, ?_, .absent ?_, List.forall_mem_nil _⟩
    · rw [FileSystem.isDirectory, FileSystem.find, hroot]
      rfl
    · exact List.find?_eq_none.2 fun path _ => by simp [fs, FileSystem.isFile_emptyDirectory]
  have hnone : ¬(ofTools []).IsGood fs := by
    rintro ⟨root, config, hsound', hids, -⟩
    obtain ⟨rfl, rfl⟩ := Prod.mk.inj (Except.ok.inj
      ((ground_eq_ok_iff.2 hsound').symm.trans (ground_eq_ok_iff.2 (hsound []))))
    exact hids rfl
  refine ⟨?_, ?_, ?_, ?_, ?_⟩
  · obtain ⟨root, config, jobs, -, hjobs, hcourse⟩ :=
      (execute_acts_only_if_good (ofTools ["gofmt"]) false fs world ()).1
        ⟨_, _, hsound _, by decide, by decide⟩
    obtain ⟨planned, hplan, rfl⟩ := Config.jobs_eq_ok_iff.1 hjobs
    have hgofmt : Registry.plan ["gofmt"] = .ok planned := hplan
    refine ⟨_, ?_, congrArg Course.events hcourse⟩
    rw [List.map_map]
    exact (Registry.map_id_plan hgofmt).trans (by decide)
  · exact ((execute_acts_only_if_good (ofTools ["gofmt", "GOFMT"]) false fs world ()).2.2
      ⟨"GOFMT", by decide, by decide⟩).1
  · exact ((execute_acts_only_if_good (ofTools ["gofmt", "GOFMT"]) false fs world ()).2.2
      ⟨"GOFMT", by decide, by decide⟩).2.2.2
  · exact ((execute_acts_only_if_good (ofTools []) false fs world ()).2.1 hnone).1
  · exact ((execute_acts_only_if_good (ofTools []) false fs world ()).2.1 hnone).2.2.2.1
      ⟨_, _, hsound [], rfl⟩

end RunArguments

end LintRun
