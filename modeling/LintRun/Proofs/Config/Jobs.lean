import LintRun.Proofs.Config.Validation

/-!
# Jobs from settings

Settings turn each entry of a plan into a job, so there are jobs exactly if there is a plan.
Settings without mistakes have jobs for all tools that they enable, and these jobs have extensions.

## Main statements

* `Config.validate_is_exact_and_sufficient`: what is checked of settings, and that it is enough.
-/

namespace LintRun

/-- What stands for a key in a table is one of its entries. -/
theorem Table.mem_of_get? {α : Type} {t : Table α} {key : String} {value : α}
    (h : t.get? key = some value) : (key, value) ∈ t.entries := by
  obtain ⟨front, rest, hentries, -⟩ := List.lookup_eq_some_iff.1 h
  rw [hentries]
  exact List.mem_append_right _ List.mem_cons_self

namespace Config

variable {config : Config} {root : Path} {names : List String} {forceFix : Bool}

theorem jobs_eq_ok_iff {jobs : List Job} : config.jobs root names forceFix = .ok jobs ↔
    ∃ planned, Registry.plan names = .ok planned ∧
      planned.map (config.job root forceFix) = jobs := by
  rw [Config.jobs, bind_eq_ok_iff]
  exact exists_congr fun planned => and_congr_right fun _ => Iff.of_eq (Except.ok.injEq _ _)

/-- There are jobs for identifiers if all of them are registered. -/
theorem exists_jobs_iff :
    (∃ jobs, config.jobs root names forceFix = .ok jobs) ↔ ∀ id ∈ names, id ∈ Registry.ids := by
  rw [← Registry.exists_plan_iff]
  constructor
  · rintro ⟨jobs, h⟩
    obtain ⟨planned, hplan, -⟩ := jobs_eq_ok_iff.1 h
    exact ⟨planned, hplan⟩
  · rintro ⟨planned, hplan⟩
    exact ⟨_, jobs_eq_ok_iff.2 ⟨planned, hplan, rfl⟩⟩

theorem map_entry_job (planned : List Entry) :
    (planned.map (config.job root forceFix)).map Job.entry = planned := by
  rw [List.map_map]
  exact List.map_id planned

/-! ## Jobs from settings without mistakes -/

/-- Every job has extensions, and each has a character other than a dot. -/
theorem extensions_job (h : config.validate = .ok ()) (entry : Entry) :
    (config.job root forceFix entry).settings.extensions ≠ [] ∧
      ∀ extension ∈ (config.job root forceFix entry).settings.extensions,
        ∃ c ∈ extension.toList, c ≠ '.' := by
  have hdefault : validateExtensions entry.id entry.tool.defaultExtensions = .ok () := by
    cases entry.tool <;> rfl
  rw [validateExtensions_eq_ok_iff] at hdefault
  unfold Config.job
  dsimp only
  cases hget : config.tools.get? entry.id with
  | none => exact hdefault
  | some tool =>
    have htool := validate_eq_ok_iff_isInOrder.1 h _ (Table.mem_of_get? hget)
    cases hextensions : tool.extensions? with
    | none => simpa [hextensions] using hdefault
    | some extensions => simpa [hextensions] using htool.extensions extensions hextensions

theorem pairwise_enabledIds (config : Config) : config.enabledIds.Pairwise (· < ·) :=
  List.pairwise_map.2 (config.tools.ascending.sublist List.filter_sublist)

theorem forall_mem_enabledIds (h : config.validate = .ok ()) :
    ∀ id ∈ config.enabledIds, id ∈ Registry.ids := by
  intro id hid
  obtain ⟨entry, hentry, rfl⟩ := List.mem_map.1 hid
  exact (validate_eq_ok_iff_isInOrder.1 h entry (List.mem_of_mem_filter hentry)).registered

/-- There are jobs for the enabled tools: those that check come first, and each part is in ascending
order. -/
theorem exists_jobs_enabledIds (h : config.validate = .ok ()) (root : Path) (forceFix : Bool) :
    ∃ checks formats, config.jobs root config.enabledIds forceFix = .ok (checks ++ formats) ∧
      (∀ job ∈ checks, job.entry ∈ Registry.entries ∧ job.entry.category = .check) ∧
      (∀ job ∈ formats, job.entry ∈ Registry.entries ∧ job.entry.category = .format) ∧
      (checks.map (·.entry.id)).Pairwise (· < ·) ∧
      (formats.map (·.entry.id)).Pairwise (· < ·) ∧
      ((checks ++ formats).map (·.entry.id)).Perm config.enabledIds := by
  obtain ⟨planned, hplan⟩ := Registry.exists_plan_iff.2 (forall_mem_enabledIds h)
  obtain ⟨found, hids, hfound, rfl⟩ := Registry.plan_eq_ok_iff.1 hplan
  let part (category : Category) : List Job :=
    (found.filter (·.category = category)).map (config.job root forceFix)
  have hpart : ∀ category, ∀ job ∈ part category,
      job.entry ∈ Registry.entries ∧ job.entry.category = category := by
    intro category job hjob
    obtain ⟨entry, hentry, rfl⟩ := List.mem_map.1 hjob
    obtain ⟨hmem, hcategory⟩ := List.mem_filter.1 hentry
    exact ⟨hfound entry hmem, of_decide_eq_true hcategory⟩
  have hid : ∀ entries : List Entry,
      (entries.map (config.job root forceFix)).map (·.entry.id) = entries.map Entry.id :=
    fun entries => List.map_map
  have hascending : ∀ category, ((part category).map (·.entry.id)).Pairwise (· < ·) := by
    intro category
    rw [hid]
    refine (pairwise_enabledIds config).sublist ?_
    rw [← hids]
    exact List.filter_sublist.map Entry.id
  refine ⟨part .check, part .format, jobs_eq_ok_iff.2 ⟨_, hplan, List.map_append⟩, hpart .check,
    hpart .format, hascending .check, hascending .format, ?_⟩
  rw [← List.map_append, hid]
  exact Registry.map_id_plan_perm hplan

/-- There is no mistake in a settings file exactly if all that it says about tools is in order, and
else the first mistake of the first tool that has any is told, with the identifier of that tool. If
there is no mistake, there are jobs in every root: one for each enabled tool and no others, those
that check in front, each part in ascending order of identifiers. All of them have extensions, and
no extension is all dots. -/
theorem validate_is_exact_and_sufficient (config : Config) :
    (config.validate = .ok () ↔ ∀ entry ∈ config.tools.entries, entry.2.IsInOrder entry.1) ∧
    (∀ mistake, config.validate = .error mistake ↔
      ∃ id tool, (id, tool) ∈ config.tools.entries ∧ mistake.IsFirstIn tool id ∧
        ∀ entry ∈ config.tools.entries, entry.1 < id → entry.2.IsInOrder entry.1) ∧
    (∀ (mistake : Mistake) id tool, mistake.IsFirstIn tool id →
      (Text.quoted id).toList <:+: mistake.message.toList) ∧
    (config.validate = .ok () → ∀ root forceFix, ∃ checks formats,
      config.jobs root config.enabledIds forceFix = .ok (checks ++ formats) ∧
      (∀ job ∈ checks, job.entry ∈ Registry.entries ∧ job.entry.category = .check) ∧
      (∀ job ∈ formats, job.entry ∈ Registry.entries ∧ job.entry.category = .format) ∧
      (checks.map (·.entry.id)).Pairwise (· < ·) ∧
      (formats.map (·.entry.id)).Pairwise (· < ·) ∧
      ((checks ++ formats).map (·.entry.id)).Perm
        ((config.tools.entries.filter (·.2.enabled)).map Prod.fst) ∧
      ∀ job ∈ checks ++ formats, job.settings.extensions ≠ [] ∧
        ∀ extension ∈ job.settings.extensions, ∃ c ∈ extension.toList, c ≠ '.') := by
  refine ⟨validate_eq_ok_iff_isInOrder, fun mistake => validate_eq_error_iff,
    fun mistake id tool hfirst => hfirst.quoted_infix_message, fun h root forceFix => ?_⟩
  obtain ⟨checks, formats, hjobs, hchecks, hformats, hcheckIds, hformatIds, hids⟩ :=
    exists_jobs_enabledIds h root forceFix
  refine ⟨checks, formats, hjobs, hchecks, hformats, hcheckIds, hformatIds, hids, ?_⟩
  intro job hjob
  obtain ⟨planned, -, hplanned⟩ := jobs_eq_ok_iff.1 hjobs
  rw [← hplanned] at hjob
  obtain ⟨entry, -, rfl⟩ := List.mem_map.1 hjob
  exact extensions_job h entry

/-- A disabled tool has no job, and an alias has one under its own name. One bad extension is a
mistake even where the tool is disabled. -/
theorem validate_is_exact_and_sufficient_of_disabled :
    let black : ToolConfig := { enabled := false }
    let eslint : ToolConfig := { extensions? := some ["..js", "ts"], dir? := some "web" }
    let tools := ((Table.empty.set "swiftformat" {}).set "black" black).set "eslint" eslint
    let flaws : ToolConfig := { black with extensions? := some ["py", ".."], dir? := some " " }
    let sound : Config := { tools }
    let flawed : Config := { tools := tools.set "black" flaws }
    (∃ jobs, sound.jobs ⟨"/work"⟩ sound.enabledIds true = .ok jobs ∧
      (jobs.map (·.entry.id)).Perm ["eslint", "swiftformat"] ∧
      ∀ job ∈ jobs, job.settings.extensions ≠ []) ∧
    flawed.validate = .error (.emptyExtension "black" "..") := by
  intro black eslint tools flaws sound flawed
  have hsound : sound.enabledIds = ["eslint", "swiftformat"] := by decide +kernel
  have hflawed : flawed.tools.entries.map Prod.fst = ["black", "eslint", "swiftformat"] := by
    decide +kernel
  constructor
  · obtain ⟨checks, formats, hjobs, -, -, -, -, hids, hextensions⟩ :=
      (validate_is_exact_and_sufficient sound).2.2.2 (by decide +kernel) ⟨"/work"⟩ true
    exact ⟨checks ++ formats, hjobs, hsound ▸ hids, fun job hjob => (hextensions job hjob).1⟩
  · refine ((validate_is_exact_and_sufficient flawed).2.1 _).2
      ⟨"black", flaws, by decide +kernel, ?_, ?_⟩
    · have hpy : flaws.extensions? = some (["py"] ++ ".." :: []) := rfl
      have hsolid : ∀ other ∈ ["py"], ∃ c ∈ other.toList, c ≠ '.' :=
        List.forall_mem_singleton.2 ⟨'p', by decide +kernel, by decide⟩
      have hdots := Extension.bare_eq_empty_iff.1 (by decide +kernel : Extension.bare ".." = "")
      exact .emptyExtension (by decide) hpy hsolid hdots
    · -- No other tool is in front of this one.
      intro entry hentry hlt
      have hkey := List.mem_map_of_mem (f := Prod.fst) hentry
      rw [hflawed] at hkey
      have hnone : ∀ id ∈ ["black", "eslint", "swiftformat"], ¬ id < "black" := by decide
      exact absurd hlt (hnone entry.1 hkey)

end Config

end LintRun
