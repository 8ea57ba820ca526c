import LintRun.Proofs.Run.Log

/-!
# Exclusion in a run

The events of the jobs that fix or format are not interrupted by events of other jobs, and the jobs
that format begin when all jobs that check are through.

## Main statements

* `events_run_order`: the order of the events of a run.
-/

namespace LintRun

namespace Log

/-- What can be seen of the exchanges in a log. -/
def events (log : Log Exchange) : Log Event :=
  log.filterMap fun entry => entry.2.event?.map (Prod.mk entry.1)

theorem map_snd_events (log : Log Exchange) :
    log.events.map Prod.snd = (log.map Prod.snd).filterMap Exchange.event? := by
  rw [events, List.map_filterMap, List.filterMap_map]
  refine List.filterMap_congr fun entry _ => ?_
  rw [Function.comp_apply]
  cases entry.2.event? <;> rfl

theorem events_append (front rest : Log Exchange) :
    events (front ++ rest) = front.events ++ rest.events :=
  List.filterMap_append

theorem filter_events (log : Log Exchange) (p : Nat → Bool) :
    log.events.filter (p ·.1) = events (log.filter (p ·.1)) := by
  rw [events, events, List.filter_filterMap, List.filterMap_filter]
  refine List.filterMap_congr fun entry _ => ?_
  cases entry.2.event? <;> cases h : p entry.1 <;> simp [h]

theorem part_events (log : Log Exchange) (place : Nat) :
    log.events.part place = (log.part place).filterMap Exchange.event? := by
  rw [part, filter_events log (· = place), map_snd_events, part]

theorem inOrder_events (log : Log Exchange) (places : List Nat) :
    log.events.inOrder places = (log.inOrder places).events := by
  induction places with
  | nil => rfl
  | cons place places ih =>
    rw [inOrder_cons, inOrder_cons, events_append, ih, filter_events log (· = place)]

theorem IsInTurns.events {log : Log Exchange} {jobs : List Job} (h : log.IsInTurns jobs) :
    log.events.IsInTurns jobs := by
  rw [IsInTurns, filter_events log (· ∈ Turn.report.places jobs), inOrder_events, inOrder_events,
    ← events_append, ← events_append]
  exact congrArg Log.events h

variable {ε : Type} {log : Log ε} {jobs : List Job}

/-- In a log in turns, nothing interrupts a job that fixes or formats. -/
theorem IsInTurns.filter_isInfix (h : log.IsInTurns jobs) {place : Nat} {job : Job}
    (hjob : jobs[place]? = some job) (hturn : job.turn ≠ .report) :
    log.filter (·.1 = place) <:+: log := by
  have hplace : place ∈ job.turn.places jobs := Turn.mem_places.2 ⟨job, hjob, rfl⟩
  cases hjobTurn : job.turn with
  | report => exact absurd hjobTurn hturn
  | fix =>
    -- The job stands in the middle part of the log.
    rw [hjobTurn] at hplace
    refine (filter_isInfix_inOrder hplace).trans ?_
    exact ⟨_, _, (List.append_assoc _ _ _).trans h.symm⟩
  | format =>
    rw [hjobTurn] at hplace
    refine (filter_isInfix_inOrder hplace).trans (List.IsSuffix.isInfix ?_)
    exact ⟨_, (List.append_assoc _ _ _).trans h.symm⟩

/-- In a log in turns, the jobs that format follow all others. -/
theorem IsInTurns.pairwise (h : log.IsInTurns jobs) : log.Pairwise fun a b =>
    a.1 ∈ Turn.format.places jobs → b.1 ∈ Turn.format.places jobs := by
  rw [h, ← List.append_assoc, List.pairwise_append]
  have hformat : ∀ entry ∈ log.inOrder (Turn.format.places jobs),
      entry.1 ∈ Turn.format.places jobs := fun entry hentry => (mem_inOrder.1 hentry).2
  have hcheck : ∀ entry ∈ log.filter (·.1 ∈ Turn.report.places jobs) ++
      log.inOrder (Turn.fix.places jobs), entry.1 ∉ Turn.format.places jobs := by
    intro entry hentry
    rcases List.mem_append.1 hentry with hentry | hentry
    · have hplace : entry.1 ∈ Turn.report.places jobs := by
        simpa using (List.mem_filter.1 hentry).2
      exact Turn.notMem_places (by decide) hplace
    · exact Turn.notMem_places (by decide) (mem_inOrder.1 hentry).2
  refine ⟨?_, ?_, ?_⟩
  · exact List.pairwise_of_forall_mem_list fun a ha b _ hplace => absurd hplace (hcheck a ha)
  · exact List.pairwise_of_forall_mem_list fun a _ b hb _ => hformat b hb
  · exact fun a _ b hb _ => hformat b hb

end Log

/-- A job that fixes or formats does not have its turn with those that report. -/
theorem Job.turn_ne_report {job : Job} (h : job.settings.fix ∨ job.entry.category = .format) :
    job.turn ≠ .report := by
  intro hturn
  obtain ⟨hcheck, hfix⟩ := Job.turn_eq_report_iff.1 hturn
  rcases h with h | h
  · exact hfix h
  · rw [hcheck] at h
    exact absurd h (by decide)

/-- The order of the events of a run, whatever the world answers and whatever the schedule.

There is a log of these events in which the part of each job is what can be seen of its own
execution. The jobs that report come first, in any order, or one by one in theirs if nothing is
scheduled. Then come the jobs that fix and those that format, one by one. So nothing happens between
two events of a job that fixes or formats but other events of that job, and the events of the jobs
that format come after all events of the jobs that check. -/
theorem events_run_order {σ : Type} (world : World σ) (schedule : List Nat) (verify : Bool)
    (jobs : List Job) (s : σ) :
    ∃ log : Log Event,
      log.map Prod.snd = ((run schedule verify jobs).run world s).events ∧
      (∀ (place : Nat) (job : Job), jobs[place]? = some job →
        ∃ (exchanges : List Exchange) (result : Except Failure LintResult),
          (∀ exchange ∈ exchanges, exchange.IsOf world) ∧
          (job.execute verify).run.EndsWith exchanges result ∧
          log.part place = exchanges.filterMap Exchange.event?) ∧
      log = log.filter (·.1 ∈ Turn.report.places jobs) ++
        (log.inOrder (Turn.fix.places jobs) ++ log.inOrder (Turn.format.places jobs)) ∧
      (schedule = [] → log.filter (·.1 ∈ Turn.report.places jobs) =
        log.inOrder (Turn.report.places jobs)) ∧
      (∀ (front between rest : Log Event) (a b : Nat × Event) (job : Job),
        log = front ++ a :: (between ++ b :: rest) → a.1 = b.1 → jobs[a.1]? = some job →
        job.settings.fix ∨ job.entry.category = .format → ∀ entry ∈ between, entry.1 = a.1) ∧
      log.Pairwise fun a b => ∀ job job' : Job, jobs[a.1]? = some job → jobs[b.1]? = some job' →
        job.entry.category = .format → job'.entry.category = .format := by
  obtain ⟨log, hlog, hanswers, hrun⟩ := exists_log_in_world world schedule verify jobs s
  have hturns := hrun.isInTurns.events
  refine ⟨log.events, ?_, ?_, hturns, ?_, ?_, ?_⟩
  · rw [Log.map_snd_events, hlog, Dialogue.events_run]
  · intro place job hjob
    have hmem : (job, place) ∈ jobs.zipIdx.filter (·.1.entry.category = .check) ++
        jobs.zipIdx.filter (·.1.entry.category = .format) :=
      (perm_checks_append_formats jobs).mem_iff.2 (List.mem_zipIdx_iff_getElem?.2 hjob)
    obtain ⟨outcome, houtcome⟩ := exists_of_mem_forall₂ hrun.endsWith hmem
    refine ⟨log.part place, outcome.result, ?_, (Job.execute_of_outcome houtcome).2,
      Log.part_events log place⟩
    exact fun exchange hexchange => hanswers exchange (Log.mem_of_mem_part hexchange)
  · intro hschedule
    rw [Log.filter_events log (· ∈ Turn.report.places jobs), Log.inOrder_events]
    exact congrArg Log.events (hrun.inOrder_of_nil hschedule)
  · intro front between rest a b job hsplit hab hjob hexclusive
    have hwhole := hturns.filter_isInfix hjob (Job.turn_ne_report hexclusive)
    exact Log.fst_eq_of_between hwhole hsplit rfl hab.symm
  · refine hturns.pairwise.imp fun {a b} hformat job job' hjob hjob' hcategory => ?_
    have ha : a.1 ∈ Turn.format.places jobs :=
      Turn.mem_places.2 ⟨job, hjob, Job.turn_eq_format_iff.2 hcategory⟩
    obtain ⟨last, hlast, hturn⟩ := Turn.mem_places.1 (hformat ha)
    obtain rfl : job' = last := Option.some_inj.1 (hjob'.symm.trans hlast)
    exact Job.turn_eq_format_iff.1 hturn

/-- The job that formats is listed first, and the one that fixes next, but two jobs that report run
in front of them, by turns. The second of these has no files, and builds no command. -/
theorem events_run_order_unplanned :
    let world : World Unit :=
      { lookUp := fun _ => pure true
        call := fun _ => pure (.ok .empty)
        listFiles := fun _ => pure (.ok [])
        canonical := fun _ => pure none }
    let job (entry : Entry) (fix : Bool) : Job :=
      ⟨entry, { JobSettings.default entry.tool ⟨"."⟩ with fix }⟩
    let jobs := [job ⟨"gofmt", .format, .gofmt, none⟩ false,
      job ⟨"eslint", .check, .eslint, none⟩ true, job ⟨"flake8", .check, .flake8, none⟩ false,
      job ⟨"apilinter", .check, .apiLinter, none⟩ false]
    let probes (executable command : String) : List Event :=
      [.lookUp executable, .call ⟨command, ⟨"."⟩, false⟩]
    let runs (tool command : String) : List Event :=
      [.notice (.commandBuilt tool command), .call ⟨command, ⟨"."⟩, true⟩,
        .notice (.rawOutput tool .empty)]
    let eslint := "npx --no-install eslint --no-color --format json --fix --ext .js \".\""
    ∃ log : Log Event,
      log.map Prod.snd = ((run [0, 1, 1, 0] true jobs).run world ()).events ∧
      log = [(2, .lookUp "flake8"), (3, .lookUp "api-linter"),
          (3, .call ⟨"api-linter --version", ⟨"."⟩, false⟩),
          (2, .call ⟨"flake8 --version", ⟨"."⟩, false⟩)] ++
        (Log.own 2 (runs "Flake8" "flake8 --filename \"*.py\" \".\"") ++
        (Log.own 3 [.notice (.filesDiscovered "APILinter" ⟨"."⟩ []),
          .notice (.noFilesMatched "APILinter" ⟨"."⟩)] ++
        (Log.own 1 (probes "npx" "npx --no-install eslint -v" ++ runs "ESLint" eslint) ++
        Log.own 0 (probes "go" "go version" ++ runs "gofmt" "gofmt -l -d \".\"")))) := by
  intro world job jobs probes runs eslint
  have hworld : world.IsStateless :=
    ⟨fun _ _ _ => rfl, fun _ _ _ => rfl, fun _ _ _ => rfl, fun _ _ _ => rfl⟩
  obtain ⟨log, hlog, hparts, hturns, -⟩ := events_run_order world [0, 1, 1, 0] true jobs ()
  refine ⟨log, hlog, ?_⟩
  -- No two of the jobs have an event in common, so an event tells its job.
  let owner (event : Event) : Nat :=
    jobs.findIdx fun job => event ∈ ((job.execute true).run.run world ()).events
  have howner : ∀ entry ∈ log, (owner entry.2, entry.2) = entry := by
    intro entry hentry
    have hlt : entry.1 < jobs.length := Log.IsInTurns.lt_length hturns entry hentry
    obtain ⟨exchanges, result, hanswers, hends, hpart⟩ :=
      hparts entry.1 jobs[entry.1] (List.getElem?_eq_getElem hlt)
    have hmem : entry.2 ∈ log.part entry.1 :=
      List.mem_map_of_mem (List.mem_filter.2 ⟨hentry, decide_eq_true rfl⟩)
    rw [hpart, ← (hends.eq_of_isStateless hworld hanswers ()).1, ← Dialogue.events_run] at hmem
    have hall : ∀ place, (hplace : place < jobs.length) →
        ∀ event ∈ ((jobs[place].execute true).run.run world ()).events, owner event = place := by
      decide +kernel
    exact Prod.ext (hall entry.1 hlt entry.2 hmem) rfl
  calc log = log.map id := (List.map_id log).symm
    _ = log.map fun entry => (owner entry.2, entry.2) :=
        List.map_congr_left fun entry hentry => (howner entry hentry).symm
    _ = (log.map Prod.snd).map fun event => (owner event, event) := by
        rw [List.map_map]
        rfl
    _ = _ := by
        rw [hlog]
        decide +kernel

end LintRun
