import LintRun.Proofs.Dialogue.Schedule
import LintRun.Run.Report
import Mathlib.Data.List.Perm.Basic

/-!
# The log of a run

A run of a list of jobs is told by one log, in which the place of a job is its place in the list.
The jobs have three turns: first those that report, then those that fix, and then those that
format.

## Main definitions

* `Turn.placed` gives the jobs of a turn with their places, and `Turn.places` the places alone.
* `Log.IsInTurns` says that the turns follow each other in a log.
* `IsLogOfRun` says that a log tells a run.

## Main statements

* `exists_log_of_run` and `exists_log_in_world`: a run has a log.
-/

namespace LintRun

/-- The turns of a run. -/
inductive Turn where
  /-- The turn of the jobs that check and change no files. -/
  | report
  /-- The turn of the jobs that check and change files. -/
  | fix
  /-- The turn of the jobs that format. -/
  | format
  deriving DecidableEq

/-- The turn of a job. -/
def Job.turn (job : Job) : Turn :=
  match job.entry.category with
  | .check => if job.settings.fix then .fix else .report
  | .format => .format

theorem Job.turn_eq_format_iff {job : Job} :
    job.turn = .format ↔ job.entry.category = .format := by
  unfold Job.turn
  cases job.entry.category <;> cases job.settings.fix <;> simp

theorem Job.turn_eq_fix_iff {job : Job} :
    job.turn = .fix ↔ job.entry.category = .check ∧ job.settings.fix := by
  unfold Job.turn
  cases job.entry.category <;> cases job.settings.fix <;> simp

theorem Job.turn_eq_report_iff {job : Job} :
    job.turn = .report ↔ job.entry.category = .check ∧ ¬ job.settings.fix := by
  unfold Job.turn
  cases job.entry.category <;> cases job.settings.fix <;> simp

/-! ## Places -/

namespace Turn

/-- The jobs of a turn with their places. -/
def placed (turn : Turn) (jobs : List Job) : List (Job × Nat) :=
  jobs.zipIdx.filter (·.1.turn = turn)

/-- The places of the jobs of a turn. -/
def places (turn : Turn) (jobs : List Job) : List Nat :=
  (turn.placed jobs).map Prod.snd

end Turn

variable {turn : Turn} {jobs : List Job}

theorem Turn.mem_places {place : Nat} :
    place ∈ turn.places jobs ↔ ∃ job, jobs[place]? = some job ∧ job.turn = turn := by
  simp only [places, placed, List.mem_map, List.mem_filter, List.mem_zipIdx_iff_getElem?,
    decide_eq_true_eq]
  constructor
  · rintro ⟨job, hjob, rfl⟩
    exact ⟨job.1, hjob⟩
  · rintro ⟨job, hjob⟩
    exact ⟨(job, place), hjob, rfl⟩

theorem Turn.lt_length_of_mem_places {place : Nat} (h : place ∈ turn.places jobs) :
    place < jobs.length := by
  obtain ⟨job, hjob, -⟩ := Turn.mem_places.1 h
  exact (List.getElem?_eq_some_iff.1 hjob).1

/-- A place has one turn. -/
theorem Turn.notMem_places {other : Turn} (hne : turn ≠ other) {place : Nat}
    (h : place ∈ turn.places jobs) : place ∉ other.places jobs := by
  intro h'
  obtain ⟨job, hjob, hturn⟩ := Turn.mem_places.1 h
  obtain ⟨job', hjob', hturn'⟩ := Turn.mem_places.1 h'
  obtain rfl : job = job' := Option.some_inj.1 (hjob.symm.trans hjob')
  exact hne (hturn.symm.trans hturn')

/-- Some jobs of a list keep the order of their places. -/
theorem pairwise_filter_zipIdx (p : Job × Nat → Bool) :
    ((jobs.zipIdx.filter p).map Prod.snd).Pairwise (· < ·) := by
  have hsublist : ((jobs.zipIdx.filter p).map Prod.snd).Sublist (jobs.zipIdx.map Prod.snd) :=
    List.filter_sublist.map Prod.snd
  rw [List.zipIdx_map_snd] at hsublist
  exact List.Pairwise.sublist hsublist List.pairwise_lt_range'

theorem Turn.nodup_places (turn : Turn) (jobs : List Job) : (turn.places jobs).Nodup := by
  have hpairwise : (turn.places jobs).Pairwise (· < ·) := pairwise_filter_zipIdx _
  exact hpairwise.imp fun hlt => Nat.ne_of_lt hlt

theorem placed_report (jobs : List Job) :
    Turn.report.placed jobs = (jobs.zipIdx.filter (·.1.entry.category = .check)).filter
      (!·.1.settings.fix) := by
  rw [List.filter_filter]
  refine List.filter_congr fun job _ => ?_
  rw [Bool.eq_iff_iff]
  simp [Job.turn_eq_report_iff, and_comm]

theorem placed_fix (jobs : List Job) :
    Turn.fix.placed jobs = (jobs.zipIdx.filter (·.1.entry.category = .check)).filter
      (·.1.settings.fix) := by
  rw [List.filter_filter]
  refine List.filter_congr fun job _ => ?_
  rw [Bool.eq_iff_iff]
  simp [Job.turn_eq_fix_iff, and_comm]

theorem placed_format (jobs : List Job) :
    Turn.format.placed jobs = jobs.zipIdx.filter (·.1.entry.category = .format) := by
  refine List.filter_congr fun job _ => ?_
  rw [decide_eq_decide]
  exact Job.turn_eq_format_iff

/-- The jobs that check report or fix. -/
theorem perm_placed_checks (jobs : List Job) :
    (Turn.report.placed jobs ++ Turn.fix.placed jobs).Perm
      (jobs.zipIdx.filter (·.1.entry.category = .check)) := by
  have h := List.filter_append_perm (fun job : Job × Nat => !job.1.settings.fix)
    (jobs.zipIdx.filter (·.1.entry.category = .check))
  simp only [Bool.not_not] at h
  rw [placed_report, placed_fix]
  exact h

/-- The jobs that check and those that format are all jobs. -/
theorem perm_checks_append_formats (jobs : List Job) :
    (jobs.zipIdx.filter (·.1.entry.category = .check) ++
      jobs.zipIdx.filter (·.1.entry.category = .format)).Perm jobs.zipIdx := by
  have hformat : jobs.zipIdx.filter (·.1.entry.category = .format) =
      jobs.zipIdx.filter fun job => !decide (job.1.entry.category = .check) := by
    refine List.filter_congr fun job _ => ?_
    cases job.1.entry.category <;> rfl
  rw [hformat]
  exact List.filter_append_perm _ _

/-! ## Turns -/

/-- A run has the three turns, and sorts the outcomes of the first two. -/
theorem run_eq (schedule : List Nat) (verify : Bool) (jobs : List Job) :
    run schedule verify jobs =
      (Dialogue.together schedule ((Turn.report.placed jobs).map (placedOutcome verify))).bind
        fun reported =>
      (Dialogue.oneByOne ((Turn.fix.placed jobs).map (placedOutcome verify))).bind fun fixed =>
      (Dialogue.oneByOne ((Turn.format.placed jobs).map fun job => job.1.outcome verify)).bind
        fun formatted =>
      .done ⟨((reported ++ fixed).mergeSort fun a b => a.2 ≤ b.2).map Prod.fst ++ formatted⟩ := by
  have hformat : Turn.format.placed jobs = jobs.zipIdx.filter fun job =>
      !decide (job.1.entry.category = .check) := by
    rw [placed_format]
    refine List.filter_congr fun job _ => ?_
    cases job.1.entry.category <;> rfl
  simp only [run, List.partition_eq_filter_filter, placed_report, placed_fix, hformat]
  rfl

/-- A log tells how the dialogues of the jobs of a turn end with some values. -/
structure IsLogOfTurn {α : Type} (f : Job × Nat → Dialogue α) (turn : Turn) (jobs : List Job)
    (log : Log Exchange) (values : List α) : Prop where
  mem_places : ∀ entry ∈ log, entry.1 ∈ turn.places jobs
  endsWith : List.Forall₂ (fun job value => (f job).EndsWith (log.part job.2) value)
    (turn.placed jobs) values

/-- The dialogues of a turn have a log. -/
theorem exists_logOfTurn {α : Type} {f : Job × Nat → Dialogue α} (schedule : List Nat)
    {exchanges : List Exchange} {values : List α}
    (h : (Dialogue.together schedule ((turn.placed jobs).map f)).EndsWith exchanges values) :
    ∃ log : Log Exchange, log.map Prod.snd = exchanges ∧ IsLogOfTurn f turn jobs log values ∧
      (schedule = [] → log = log.inOrder (turn.places jobs)) := by
  have hfst : ((turn.placed jobs).map fun job => (job.2, f job)).map Prod.fst =
      turn.places jobs := by
    rw [List.map_map]
    rfl
  have hsnd : ((turn.placed jobs).map fun job => (job.2, f job)).map Prod.snd =
      (turn.placed jobs).map f := by
    rw [List.map_map]
    rfl
  rw [← hsnd] at h
  obtain ⟨log, hlog, hends, horder⟩ :=
    Dialogue.exists_log_of_together (hfst ▸ turn.nodup_places jobs) h
  rw [hfst] at horder
  refine ⟨log, hlog, ⟨fun entry hentry => hfst ▸ hends.mem_places entry hentry, ?_⟩, horder⟩
  exact List.forall₂_map_left_iff.1 hends.endsWith

/-- The dialogues of a turn that are had one by one have a log in which none is interrupted. -/
theorem exists_logOfTurn_inOrder {α : Type} {f : Job × Nat → Dialogue α}
    {exchanges : List Exchange} {values : List α}
    (h : (Dialogue.oneByOne ((turn.placed jobs).map f)).EndsWith exchanges values) :
    ∃ log : Log Exchange, log.map Prod.snd = exchanges ∧ IsLogOfTurn f turn jobs log values ∧
      log = log.inOrder (turn.places jobs) := by
  obtain ⟨log, hlog, hturn, horder⟩ := exists_logOfTurn [] h
  exact ⟨log, hlog, hturn, horder rfl⟩

theorem IsLogOfTurn.notMem_places {α : Type} {f : Job × Nat → Dialogue α} {log : Log Exchange}
    {values : List α} (h : IsLogOfTurn f turn jobs log values) {other : Turn} (hne : turn ≠ other) :
    ∀ entry ∈ log, entry.1 ∉ other.places jobs :=
  fun entry hentry => Turn.notMem_places hne (h.mem_places entry hentry)

/-- What the jobs of other turns do before and after does not matter to a turn. -/
theorem IsLogOfTurn.endsWith_append {α : Type} {f : Job × Nat → Dialogue α}
    {log : Log Exchange} {values : List α} (h : IsLogOfTurn f turn jobs log values)
    (front rest : Log Exchange) (hfront : ∀ entry ∈ front, entry.1 ∉ turn.places jobs)
    (hrest : ∀ entry ∈ rest, entry.1 ∉ turn.places jobs) :
    List.Forall₂ (fun job value => (f job).EndsWith (Log.part (front ++ (log ++ rest)) job.2) value)
      (turn.placed jobs) values := by
  refine forall₂_imp_of_mem h.endsWith fun job hjob value hvalue => ?_
  have hplace : job.2 ∈ turn.places jobs := List.mem_map_of_mem hjob
  rw [Log.part_append, Log.part_append,
    Log.part_eq_nil fun entry hentry heq => hfront entry hentry (heq ▸ hplace),
    Log.part_eq_nil fun entry hentry heq => hrest entry hentry (heq ▸ hplace),
    List.nil_append, List.append_nil]
  exact hvalue

/-! ## The run -/

/-- Outcomes sorted by their places are the outcomes of the jobs in order. -/
theorem forall₂_mergeSort {R : Job × Nat → Outcome → Prop} {p : Job × Nat → Bool}
    {items : List (Job × Nat)} {outcomes : List (Outcome × Nat)}
    (hperm : items.Perm (jobs.zipIdx.filter p))
    (h : List.Forall₂ (fun job outcome => outcome.2 = job.2 ∧ R job outcome.1) items outcomes) :
    List.Forall₂ R (jobs.zipIdx.filter p)
      ((outcomes.mergeSort fun a b => a.2 ≤ b.2).map Prod.fst) := by
  -- The outcomes can be put in the order of the jobs. Then they are sorted by their places.
  obtain ⟨sorted, hsorted, hsortedPerm⟩ := List.perm_comp_forall₂ hperm.symm h
  have hplaces : sorted.map Prod.snd = (jobs.zipIdx.filter p).map Prod.snd := by
    have heq : List.Forall₂ (· = ·) (sorted.map Prod.snd)
        ((jobs.zipIdx.filter p).map Prod.snd) := by
      rw [List.forall₂_map_left_iff, List.forall₂_map_right_iff]
      exact hsorted.flip.imp fun _ _ h => h.1
    rwa [List.forall₂_eq_eq_eq] at heq
  have hpairwise : (sorted.map Prod.snd).Pairwise (· < ·) := by
    rw [hplaces]
    exact pairwise_filter_zipIdx p
  rw [mergeSort_eq_of_perm hsortedPerm.symm hpairwise, List.forall₂_map_right_iff]
  exact hsorted.imp fun _ _ h => h.2

/-- The outcome of a job is the result of its execution, under the entry of the job. -/
theorem Job.execute_of_outcome {verify : Bool} {job : Job} {log : List Exchange}
    {outcome : Outcome} (h : (job.outcome verify).EndsWith log outcome) :
    outcome.entry = job.entry ∧ (job.execute verify).run.EndsWith log outcome.result := by
  obtain ⟨front, result, rest, rfl, hfront, hrest⟩ := Dialogue.EndsWith.exists_of_bind h
  obtain ⟨rfl, rfl⟩ := Dialogue.endsWith_done_iff.1 hrest
  rw [List.append_nil]
  exact ⟨rfl, hfront⟩

theorem outcome_of_placedOutcome {verify : Bool} {job : Job × Nat} {log : List Exchange}
    {outcome : Outcome × Nat} (h : (placedOutcome verify job).EndsWith log outcome) :
    outcome.2 = job.2 ∧ (job.1.outcome verify).EndsWith log outcome.1 := by
  obtain ⟨front, result, rest, rfl, hfront, hrest⟩ := Dialogue.EndsWith.exists_of_bind h
  obtain ⟨rfl, rfl⟩ := Dialogue.endsWith_done_iff.1 hrest
  rw [List.append_nil]
  exact ⟨rfl, hfront⟩

/-- The turns follow each other in a log, and nothing interrupts the jobs that fix or format. -/
def Log.IsInTurns {ε : Type} (log : Log ε) (jobs : List Job) : Prop :=
  log = log.filter (·.1 ∈ Turn.report.places jobs) ++
    (log.inOrder (Turn.fix.places jobs) ++ log.inOrder (Turn.format.places jobs))

/-- All that is in a log in turns is from the jobs. -/
theorem Log.IsInTurns.lt_length {ε : Type} {log : Log ε} (h : log.IsInTurns jobs) :
    ∀ entry ∈ log, entry.1 < jobs.length := by
  intro entry hentry
  rw [h] at hentry
  rcases List.mem_append.1 hentry with hentry | hentry
  · have hplace : entry.1 ∈ Turn.report.places jobs := by
      simpa using (List.mem_filter.1 hentry).2
    exact Turn.lt_length_of_mem_places hplace
  · rcases List.mem_append.1 hentry with hentry | hentry
    · exact Turn.lt_length_of_mem_places (Log.mem_inOrder.1 hentry).2
    · exact Turn.lt_length_of_mem_places (Log.mem_inOrder.1 hentry).2

/-- A log tells a run: every job ends with its outcome in its part, and the log is in turns. The
jobs that report are not interrupted either if nothing is scheduled. -/
structure IsLogOfRun (schedule : List Nat) (verify : Bool) (jobs : List Job) (log : Log Exchange)
    (report : Report) : Prop where
  endsWith : List.Forall₂
    (fun job outcome => (job.1.outcome verify).EndsWith (log.part job.2) outcome)
    (jobs.zipIdx.filter (·.1.entry.category = .check) ++
      jobs.zipIdx.filter (·.1.entry.category = .format)) report.outcomes
  isInTurns : log.IsInTurns jobs
  inOrder_of_nil : schedule = [] →
    log.filter (·.1 ∈ Turn.report.places jobs) = log.inOrder (Turn.report.places jobs)

/-- A run has a log. -/
theorem exists_log_of_run {schedule : List Nat} {verify : Bool} {exchanges : List Exchange}
    {report : Report} (h : (run schedule verify jobs).EndsWith exchanges report) :
    ∃ log : Log Exchange, log.map Prod.snd = exchanges ∧
      IsLogOfRun schedule verify jobs log report := by
  rw [run_eq] at h
  obtain ⟨_, reported, _, rfl, hreported, h⟩ := Dialogue.EndsWith.exists_of_bind h
  obtain ⟨_, fixed, _, rfl, hfixed, h⟩ := Dialogue.EndsWith.exists_of_bind h
  obtain ⟨_, formatted, _, rfl, hformatted, h⟩ := Dialogue.EndsWith.exists_of_bind h
  obtain ⟨rfl, rfl⟩ := Dialogue.endsWith_done_iff.1 h
  obtain ⟨batch, rfl, hbatch, hbatchOrder⟩ := exists_logOfTurn schedule hreported
  obtain ⟨alone, rfl, halone, haloneOrder⟩ := exists_logOfTurn_inOrder hfixed
  obtain ⟨last, rfl, hlast, hlastOrder⟩ := exists_logOfTurn_inOrder hformatted
  -- No turn has an entry of another one, so that each turn can be found again in the whole log.
  have hafterBatch : ∀ entry ∈ alone ++ last, entry.1 ∉ Turn.report.places jobs := by
    intro entry hentry
    rcases List.mem_append.1 hentry with hentry | hentry
    · exact halone.notMem_places (by decide) entry hentry
    · exact hlast.notMem_places (by decide) entry hentry
  have hbeforeLast : ∀ entry ∈ batch ++ alone, entry.1 ∉ Turn.format.places jobs := by
    intro entry hentry
    rcases List.mem_append.1 hentry with hentry | hentry
    · exact hbatch.notMem_places (by decide) entry hentry
    · exact halone.notMem_places (by decide) entry hentry
  have hreport : (batch ++ (alone ++ last)).filter (·.1 ∈ Turn.report.places jobs) = batch := by
    rw [List.filter_append,
      List.filter_eq_self.2 fun entry hentry => decide_eq_true (hbatch.mem_places entry hentry),
      List.filter_eq_nil_iff.2 fun entry hentry => by simpa using hafterBatch entry hentry,
      List.append_nil]
  have hfix : Log.inOrder (batch ++ (alone ++ last)) (Turn.fix.places jobs) = alone := by
    rw [Log.inOrder_append_right (hbatch.notMem_places (by decide)),
      Log.inOrder_append_left (hlast.notMem_places (by decide)), ← haloneOrder]
  have hformat : Log.inOrder (batch ++ (alone ++ last)) (Turn.format.places jobs) = last := by
    rw [← List.append_assoc, Log.inOrder_append_right hbeforeLast, ← hlastOrder]
  refine ⟨batch ++ (alone ++ last), by simp, ⟨?_, ?_, ?_⟩⟩
  · refine List.rel_append ?_ ?_
    · refine forall₂_mergeSort (perm_placed_checks jobs) (List.rel_append ?_ ?_)
      · refine (hbatch.endsWith_append [] _ (by simp) hafterBatch).imp ?_
        exact fun _ _ hends => outcome_of_placedOutcome hends
      · refine (halone.endsWith_append _ _ (hbatch.notMem_places (by decide))
          (hlast.notMem_places (by decide))).imp ?_
        exact fun _ _ hends => outcome_of_placedOutcome hends
    · have hends := hlast.endsWith_append _ [] hbeforeLast (by simp)
      rw [List.append_nil, List.append_assoc, placed_format] at hends
      exact hends
  · rw [Log.IsInTurns, hreport, hfix, hformat]
  · intro hschedule
    rw [hreport, Log.inOrder_append_left hafterBatch]
    exact hbatchOrder hschedule

/-- A run in a world has a log of its exchanges. -/
theorem exists_log_in_world {σ : Type} (world : World σ) (schedule : List Nat) (verify : Bool)
    (jobs : List Job) (s : σ) : ∃ log : Log Exchange,
      log.map Prod.snd = (run schedule verify jobs).exchanges world s ∧
      (∀ exchange ∈ log.map Prod.snd, exchange.IsOf world) ∧
      IsLogOfRun schedule verify jobs log ((run schedule verify jobs).run world s).value := by
  obtain ⟨log, hlog, hrun⟩ := exists_log_of_run
    (Dialogue.endsWith_exchanges world (run schedule verify jobs) s)
  refine ⟨log, hlog, ?_, hrun⟩
  rw [hlog]
  exact Dialogue.isOf_exchanges world _ s

end LintRun
