import LintRun.Proofs.Run.Log

/-!
# The outcomes of a run

A report has one outcome for each job, those of the jobs that check in front, and the outcome of a
job is what the job came to by itself. In a world whose answers depend on the questions alone, this
is the same for every schedule.

## Main statements

* `outcomes_run`: the outcomes of a run.
-/

namespace LintRun

theorem map_fst_filter_zipIdx (p : Job → Bool) (jobs : List Job) :
    (jobs.zipIdx.filter (p ·.1)).map Prod.fst = jobs.filter p := by
  have hmap := List.filter_map (f := Prod.fst) (p := p) (l := jobs.zipIdx)
  rw [List.zipIdx_map_fst] at hmap
  exact hmap.symm

/-- In a stateless world, the outcomes that a log tells are those of the jobs alone. -/
theorem IsLogOfRun.outcomes_eq {σ : Type} {world : World σ} (hworld : world.IsStateless)
    {schedule : List Nat} {verify : Bool} {jobs : List Job} {log : Log Exchange} {report : Report}
    (h : IsLogOfRun schedule verify jobs log report)
    (hlog : ∀ exchange ∈ log.map Prod.snd, exchange.IsOf world) (s : σ) :
    report.outcomes = (jobs.filter (·.entry.category = .check) ++
      jobs.filter (·.entry.category = .format)).map
        fun job => ((job.outcome verify).run world s).value := by
  have hvalue : ∀ (job : Job × Nat) (outcome : Outcome),
      (job.1.outcome verify).EndsWith (log.part job.2) outcome →
        ((job.1.outcome verify).run world s).value = outcome := by
    intro job outcome hends
    refine (hends.eq_of_isStateless hworld (fun exchange hexchange => ?_) s).2
    exact hlog exchange (Log.mem_of_mem_part hexchange)
  -- The places have done their work, and are dropped from both sides.
  have heq := List.forall₂_map_left_iff.2 (h.endsWith.imp hvalue)
  rw [List.forall₂_eq_eq_eq, List.map_append] at heq
  rw [← map_fst_filter_zipIdx, ← map_fst_filter_zipIdx, ← List.map_append, List.map_map,
    List.map_append, ← heq]
  rfl

/-- The outcomes of a run are the outcomes of its jobs, first of those that check and then of those
that format. Each has the entry of its job, and the result of what the job went through, and nobody
else went through anything. If the answers of the world depend on the questions alone, neither the
other jobs nor the schedule matter to the outcome of a job. -/
theorem outcomes_run {σ : Type} (world : World σ) (schedule : List Nat) (verify : Bool)
    (jobs : List Job) (s : σ) :
    let order := jobs.zipIdx.filter (·.1.entry.category = .check) ++
      jobs.zipIdx.filter (·.1.entry.category = .format)
    let report := ((run schedule verify jobs).run world s).value
    order.Perm jobs.zipIdx ∧
    (∃ log : Log Exchange, log.map Prod.snd = (run schedule verify jobs).exchanges world s ∧
      (∀ entry ∈ log, entry.1 < jobs.length) ∧
      List.Forall₂ (fun job outcome => outcome.entry = job.1.entry ∧
        (job.1.execute verify).run.EndsWith (log.part job.2) outcome.result)
        order report.outcomes) ∧
    (world.IsStateless → ∀ t : σ,
      report.outcomes = (jobs.filter (·.entry.category = .check) ++
        jobs.filter (·.entry.category = .format)).map
          fun job => ((job.outcome verify).run world t).value) ∧
    (world.IsStateless → ∀ (schedule' : List Nat) (t : σ),
      ((run schedule' verify jobs).run world t).value = report) := by
  intro order report
  obtain ⟨log, hlog, hanswers, hrun⟩ := exists_log_in_world world schedule verify jobs s
  refine ⟨perm_checks_append_formats jobs, ⟨log, hlog, hrun.isInTurns.lt_length, ?_⟩,
    fun hworld => hrun.outcomes_eq hworld hanswers, ?_⟩
  · exact hrun.endsWith.imp fun _ _ hends => Job.execute_of_outcome hends
  · intro hworld schedule' t
    obtain ⟨log', -, hanswers', hrun'⟩ := exists_log_in_world world schedule' verify jobs t
    have heq := (hrun'.outcomes_eq hworld hanswers' t).trans
      (hrun.outcomes_eq hworld hanswers t).symm
    exact congrArg Report.mk heq

/-- A tool that is not installed fails alone, with and without its turn behind the others. The other
tools are content, in every order of the run. -/
theorem outcomes_run_without_npx :
    let world : World Unit :=
      { lookUp := fun executable => pure (executable ≠ "npx")
        call := fun _ => pure (.ok .empty)
        listFiles := fun _ => pure (.ok [])
        canonical := fun _ => pure none }
    let job (entry : Entry) (fix : Bool) : Job :=
      ⟨entry, { JobSettings.default entry.tool ⟨"."⟩ with fix }⟩
    let black : Entry := ⟨"black", .format, .black, none⟩
    let eslint : Entry := ⟨"eslint", .check, .eslint, none⟩
    let flake8 : Entry := ⟨"flake8", .check, .flake8, none⟩
    let jobs := [job black false, job eslint true, job flake8 false, job eslint false]
    world.IsStateless ∧
    ((run [1, 0] true jobs).run world ()).value.outcomes =
      [⟨eslint, .error (Tool.missing .eslint)⟩, ⟨flake8, .ok {}⟩,
        ⟨eslint, .error (Tool.missing .eslint)⟩, ⟨black, .ok {}⟩] ∧
    ((run [] true jobs).run world ()).value = ((run [1, 0] true jobs).run world ()).value := by
  intro world job black eslint flake8 jobs
  have hworld : world.IsStateless :=
    ⟨fun _ _ _ => rfl, fun _ _ _ => rfl, fun _ _ _ => rfl, fun _ _ _ => rfl⟩
  obtain ⟨-, -, houtcomes, hschedule⟩ := outcomes_run world [1, 0] true jobs ()
  refine ⟨hworld, (houtcomes hworld ()).trans ?_, hschedule hworld [] ()⟩
  rfl

end LintRun
