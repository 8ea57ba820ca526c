import LintRun.Proofs.Config.Jobs
import LintRun.Proofs.Run.Outcomes

/-!
# Plans and runs

A plan puts entries in order before anything runs, and a run puts outcomes in order after all tools
ran. Both orders are the same, whichever jobs change files.

## Main statements

* `map_entry_outcomes`: the order of the outcomes.
* `plan_agrees_with_run`: what a plan is, and that a run of its jobs has the outcomes in its order.
-/

namespace LintRun

/-- The outcomes of a run are in the order of a plan of its jobs. -/
theorem map_entry_outcomes {σ : Type} (world : World σ) (schedule : List Nat) (verify : Bool)
    (jobs : List Job) (s : σ) :
    ((run schedule verify jobs).run world s).value.outcomes.map Outcome.entry =
      Registry.checksFirst (jobs.map Job.entry) := by
  obtain ⟨log, -, -, hrun⟩ := exists_log_in_world world schedule verify jobs s
  have hpart : ∀ category, (jobs.zipIdx.filter (·.1.entry.category = category)).map
      (·.1.entry) = (jobs.map Job.entry).filter (·.category = category) := by
    intro category
    have hjobs := map_fst_filter_zipIdx (fun job => decide (job.entry.category = category)) jobs
    rw [List.filter_map]
    calc (jobs.zipIdx.filter (·.1.entry.category = category)).map (·.1.entry)
      _ = ((jobs.zipIdx.filter (·.1.entry.category = category)).map Prod.fst).map Job.entry :=
        List.map_map.symm
      _ = (jobs.filter (·.entry.category = category)).map Job.entry := congrArg _ hjobs
  -- Entry by entry the outcome has the entry of its job.
  have hentries : List.Forall₂ (· = ·)
      ((jobs.zipIdx.filter (·.1.entry.category = .check) ++
        jobs.zipIdx.filter (·.1.entry.category = .format)).map (·.1.entry))
      (((run schedule verify jobs).run world s).value.outcomes.map Outcome.entry) := by
    rw [List.forall₂_map_left_iff, List.forall₂_map_right_iff]
    exact hrun.endsWith.imp fun _ _ hends => (Job.execute_of_outcome hends).1.symm
  rw [List.forall₂_eq_eq_eq, List.map_append, hpart, hpart] at hentries
  exact hentries.symm

/-- There is a plan exactly if all identifiers are registered, and else the first that is not is
named. A plan has the identifiers that check in front of those that format, each as often and in the
order as they were given, and is its own plan. Whatever the settings say, there are jobs for the
plan, and every run of them ends with one outcome for each entry of the plan, in its order. -/
theorem plan_agrees_with_run (names : List String) :
    ((∃ planned, Registry.plan names = .ok planned) ↔ ∀ id ∈ names, id ∈ Registry.ids) ∧
    (∀ e, Registry.plan names = .error e ↔ ∃ front rest, names = front ++ e.id :: rest ∧
      (∀ id ∈ front, id ∈ Registry.ids) ∧ e.id ∉ Registry.ids) ∧
    ∀ planned, Registry.plan names = .ok planned →
      planned.map Entry.id =
        names.filter (Registry.isOf .check) ++ names.filter (Registry.isOf .format) ∧
      (planned.map Entry.id).Perm names ∧
      (∀ entry ∈ planned, Registry.get? entry.id = some entry) ∧
      Registry.plan (planned.map Entry.id) = .ok planned ∧
      ∀ (config : Config) (root : Path) (forceFix : Bool), ∃ jobs,
        config.jobs root names forceFix = .ok jobs ∧
        ∀ {σ : Type} (world : World σ) (schedule : List Nat) (verify : Bool) (s : σ),
          ((run schedule verify jobs).run world s).value.outcomes.map Outcome.entry = planned := by
  refine ⟨Registry.exists_plan_iff, fun e => Registry.plan_eq_error_iff, fun planned h => ?_⟩
  refine ⟨Registry.map_id_plan h, Registry.map_id_plan_perm h, ?_, Registry.plan_map_id h, ?_⟩
  · intro entry hentry
    exact Registry.get?_eq_some_iff.2 ⟨Registry.mem_entries_of_plan h entry hentry, rfl⟩
  · intro config root forceFix
    refine ⟨_, Config.jobs_eq_ok_iff.2 ⟨planned, h, rfl⟩, fun world schedule verify s => ?_⟩
    rw [map_entry_outcomes, Config.map_entry_job, Registry.checksFirst_plan h]

/-- A tool is planned as often as it is named, once for each of its names. One that changes files is
done alone in a run, and still has the outcomes in its place. -/
theorem plan_agrees_with_run_of_repeated :
    let names := ["swiftformat", "eslint", "swift_format_lockwood", "flake8", "eslint"]
    let order := ["eslint", "flake8", "eslint", "swiftformat", "swift_format_lockwood"]
    let config : Config := { tools := Table.empty.set "eslint" { autoFix? := some true } }
    let world : World Unit :=
      { lookUp := fun _ => pure true
        call := fun _ => pure (.ok .empty)
        listFiles := fun _ => pure (.ok ["a.swift"])
        canonical := fun _ => pure none }
    (∃ planned, Registry.plan names = .ok planned ∧ planned.map Entry.id = order) ∧
    ∃ jobs, config.jobs ⟨"."⟩ names false = .ok jobs ∧
      jobs.map (·.settings.fix) = [true, false, true, false, false] ∧
      ((run [1, 0] true jobs).run world ()).value.outcomes.map (·.entry.id) = order := by
  intro names order config world
  obtain ⟨hexists, -, hplanned⟩ := plan_agrees_with_run names
  obtain ⟨planned, hplan⟩ := hexists.2 (by decide)
  obtain ⟨hids, -, -, -, hjobs⟩ := hplanned planned hplan
  have horder : planned.map Entry.id = order := hids.trans (by decide)
  obtain ⟨jobs, hok, hrun⟩ := hjobs config ⟨"."⟩ false
  refine ⟨⟨planned, hplan, horder⟩, jobs, hok, ?_, ?_⟩
  · obtain ⟨planned', hplan', rfl⟩ := Config.jobs_eq_ok_iff.1 hok
    obtain rfl : planned = planned' := Except.ok.inj (hplan.symm.trans hplan')
    let fix (id : String) : Bool := ((config.tools.get? id).getD {}).autoFix?.getD false
    calc (planned.map (config.job ⟨"."⟩ false)).map (·.settings.fix)
      _ = (planned.map Entry.id).map fix := by rw [List.map_map, List.map_map]; rfl
      _ = order.map fix := by rw [horder]
      _ = [true, false, true, false, false] := by decide
  · rw [← horder, ← hrun world [1, 0] true (), List.map_map]
    rfl

end LintRun
