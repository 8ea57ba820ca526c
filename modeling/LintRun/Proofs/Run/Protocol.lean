import LintRun.FileTree.Discovery
import LintRun.Proofs.Run.Attempt
import LintRun.Proofs.Run.Log

/-!
# The protocol of a job

What one job asks and tells, in which order, and how it ends. A job tries its tool out, runs it once
and reads what it printed. It stops at the first failure.

## Main definitions

* `Job.RunsTool`, `Job.Lints` and `Job.Follows` are the protocols of one command, of a tool, and of
  a whole job.

## Main statements

* `Job.follows_protocol`: a job follows its protocol in every world.
-/

namespace LintRun

/-- A world lists the files that some file system has. -/
def World.Discovers {σ : Type} (world : World σ) : Prop :=
  ∀ (dir : Path) (s : σ), ∃ (fs : FileSystem) (mayRead : Location → Bool),
    (world.listFiles dir s).1 = fs.discover dir mayRead

/-- Whether an event is the lookup of an executable. -/
def Event.isLookUp : Event → Bool
  | .lookUp _ => true
  | _ => false

/-- Whether an event belongs to the check of a tool: a lookup, a call that may not fail, or the
notice of a failed check. -/
def Event.isSetup : Event → Bool
  | .lookUp _ => true
  | .call c => !c.ignoresErrors
  | .notice (.setupFailed ..) => true
  | .notice _ => false

namespace Job

/-- The call that shows that the tool of a job works. -/
def probe (job : Job) : Call :=
  ⟨job.entry.tool.probe job.settings.commandPrefix, job.settings.dir, false⟩

/-- The reading of an output ends a job. -/
def Reads (job : Job) (output : RawOutput) (log : List Exchange)
    (result : Except Failure LintResult) : Prop :=
  ∃ canonical?, log = [.canonical job.settings.dir canonical?] ∧
    result = job.entry.tool.result ⟨job.settings.dir, canonical?⟩ output

/-- The command of a job is announced and run once. Its output is told and read, if it has one. If
it has none, its failure is the result. -/
def RunsTool (job : Job) (files : List String) (log : List Exchange)
    (result : Except Failure LintResult) : Prop :=
  let command := job.entry.tool.command job.settings.toCommandSettings files
  ∃ answer rest, log = .notice (.commandBuilt job.entry.tool.name command) ::
      .call ⟨command, job.settings.dir, true⟩ answer :: rest ∧
    match answer with
    | .error failure => rest = [] ∧ result = .error failure
    | .ok output => ∃ rest', rest = .notice (.rawOutput job.entry.tool.name output) :: rest' ∧
        job.Reads output rest' result

/-- A job whose tool has to be given files finds them out first. It ends if it cannot, and does not
run the tool if there are none. The other jobs run their tools. -/
def Lints (job : Job) (log : List Exchange) (result : Except Failure LintResult) : Prop :=
  if job.entry.tool = .apiLinter then
    ∃ answer rest, log = .listFiles job.settings.dir answer :: rest ∧
      match answer with
      | .error failure => rest = [] ∧ result = .error failure ∧
          ∃ reason, failure = .discovery (FileSystem.discoveryRoot job.settings.dir).text reason
      | .ok files => ∃ rest',
          rest = .notice (.filesDiscovered job.entry.tool.name job.settings.dir files) :: rest' ∧
          if files = [] then ∃ rest'',
            rest' = .notice (.noFilesMatched job.entry.tool.name job.settings.dir) :: rest'' ∧
            job.Reads .empty rest'' result
          else job.RunsTool files rest' result
  else job.RunsTool [] log result

/-- The failure of the check is told once, and ends a job. It names the tool. -/
def FailsSetup (job : Job) (log : List Exchange) (result : Except Failure LintResult) : Prop :=
  ∃ reason, log = [.notice (.setupFailed job.entry.tool.name (.setup job.entry.tool.name reason))] ∧
    result = .error (.setup job.entry.tool.name reason)

/-- A job looks its executable up and runs the probe of its tool if it is to `verify`. A failure of
either is told, and ends the job. -/
def Follows (verify : Bool) (job : Job) (log : List Exchange)
    (result : Except Failure LintResult) : Prop :=
  if verify then
    ∃ answer rest, log = .lookUp job.entry.tool.executable answer :: rest ∧
      match answer with
      | false => job.FailsSetup rest result
      | true => ∃ answer' rest', rest = .call job.probe answer' :: rest' ∧
          match answer' with
          | .error _ => job.FailsSetup rest' result
          | .ok _ => job.Lints rest' result
  else job.Lints log result

end Job

/-! ## The steps of a job -/

/-- A failed discovery says in which directory. -/
theorem FileSystem.exists_of_discover_eq_error {fs : FileSystem} {mayRead : Location → Bool}
    {dir : Path} {failure : Failure} (h : fs.discover dir mayRead = .error failure) :
    ∃ reason, failure = .discovery (FileSystem.discoveryRoot dir).text reason := by
  unfold FileSystem.discover at h
  dsimp only at h
  split at h
  · cases h
  · cases h
    exact ⟨_, rfl⟩

namespace Tool

variable {tool : Tool} {dir : Path} {log : List Exchange}

/-- What a tool goes through when it is tried out. -/
theorem endsWith_tryOut {commandPrefix : String} {result : Except Failure Unit}
    (h : (tool.tryOut dir commandPrefix).EndsWith log result) :
    ∃ answer rest, log = .lookUp tool.executable answer :: rest ∧
      match answer with
      | false => rest = [] ∧ result = .error tool.missing
      | true => ∃ answer',
          rest = [.call ⟨tool.probe commandPrefix, dir, false⟩ answer'] ∧
          match answer' with
          | .error failure =>
            result = .error (tool.broken (tool.probe commandPrefix) failure)
          | .ok _ => result = .ok () := by
  obtain ⟨answer, rest, rfl, hanswer⟩ := h.of_lookUp
  refine ⟨answer, rest, rfl, ?_⟩
  cases answer with
  | false =>
    have hmissing : Attempt.EndsWith (throw tool.missing) rest result := hanswer
    exact Attempt.endsWith_throw_iff.1 hmissing
  | true =>
    -- The handler makes a failure of the setup of what went wrong with the probe.
    have htry : Attempt.EndsWith (tryCatch
        (discard (Attempt.call ⟨tool.probe commandPrefix, dir, false⟩)) fun failure =>
          throw (tool.broken (tool.probe commandPrefix) failure)) rest result := hanswer
    rcases htry.of_tryCatch with ⟨value, hprobe, rfl⟩ | ⟨front, failure, last, rfl, hprobe, hlast⟩
    · obtain ⟨answer', rfl, hvalue⟩ := hprobe.of_discard_call
      cases answer' with
      | error failure => cases hvalue
      | ok output => exact ⟨_, rfl, rfl⟩
    · obtain ⟨answer', rfl, hfailure⟩ := hprobe.of_discard_call
      obtain ⟨rfl, rfl⟩ := Attempt.endsWith_throw_iff.1 hlast
      cases answer' with
      | error failure =>
        cases hfailure
        exact ⟨_, rfl, rfl⟩
      | ok output => cases hfailure

/-- What a tool goes through when it is checked. A failure is told, and is one of the setup. -/
theorem endsWith_verify {commandPrefix : String} {result : Except Failure Unit}
    (h : (tool.verify dir commandPrefix).EndsWith log result) :
    ∃ answer rest, log = .lookUp tool.executable answer :: rest ∧
      match answer with
      | false => ∃ reason, rest = [.notice (.setupFailed tool.name (.setup tool.name reason))] ∧
          result = .error (.setup tool.name reason)
      | true => ∃ answer' rest',
          rest = .call ⟨tool.probe commandPrefix, dir, false⟩ answer' :: rest' ∧
          match answer' with
          | .error _ => ∃ reason,
            rest' = [.notice (.setupFailed tool.name (.setup tool.name reason))] ∧
              result = .error (.setup tool.name reason)
          | .ok _ => rest' = [] ∧ result = .ok () := by
  rcases h.of_tryCatch with ⟨value, htry, rfl⟩ | ⟨front, failure, last, rfl, htry, hlast⟩
  · obtain ⟨answer, rest, rfl, hanswer⟩ := endsWith_tryOut htry
    refine ⟨answer, rest, rfl, ?_⟩
    cases answer with
    | false => cases hanswer.2
    | true =>
      obtain ⟨answer', rfl, hanswer'⟩ := hanswer
      cases answer' with
      | error failure => cases hanswer'
      | ok output => exact ⟨_, [], rfl, rfl, rfl⟩
  · obtain ⟨answer, rest, rfl, hanswer⟩ := endsWith_tryOut htry
    obtain ⟨last, rfl, hthrow⟩ := hlast.of_notify
    obtain ⟨rfl, rfl⟩ := Attempt.endsWith_throw_iff.1 hthrow
    refine ⟨answer, _, rfl, ?_⟩
    cases answer with
    | false =>
      obtain ⟨rfl, hfailure⟩ := hanswer
      cases hfailure
      exact ⟨_, rfl, rfl⟩
    | true =>
      obtain ⟨answer', rfl, hanswer'⟩ := hanswer
      cases answer' with
      | error failure =>
        cases hanswer'
        exact ⟨_, _, rfl, _, rfl, rfl⟩
      | ok output => cases hanswer'

/-- What a tool goes through when a command of it is run. -/
theorem endsWith_runCommand {command : String} {result : Except Failure RawOutput}
    (h : (tool.runCommand dir command).EndsWith log result) :
    ∃ answer rest, log = .notice (.commandBuilt tool.name command) ::
        .call ⟨command, dir, true⟩ answer :: rest ∧ result = answer ∧
      match answer with
      | .error _ => rest = []
      | .ok output => rest = [.notice (.rawOutput tool.name output)] := by
  obtain ⟨rest, rfl, hcall⟩ := h.of_notify
  obtain ⟨answer, rest, rfl, hanswer⟩ := hcall.of_call
  refine ⟨answer, rest, rfl, ?_⟩
  cases answer with
  | error failure => exact hanswer.symm
  | ok output =>
    obtain ⟨last, rfl, hpure⟩ := Attempt.EndsWith.of_notify hanswer
    obtain ⟨rfl, rfl⟩ := Attempt.endsWith_pure_iff.1 hpure
    exact ⟨rfl, rfl⟩

/-- A tool that has to be given files lists them, and is run if there are some. -/
theorem endsWith_lint_of_eq {settings : JobSettings} {result : Except Failure RawOutput}
    (htool : tool = .apiLinter) (h : (tool.lint settings).EndsWith log result) :
    ∃ answer rest, log = .listFiles settings.dir answer :: rest ∧
      match answer with
      | .error failure => rest = [] ∧ result = .error failure
      | .ok files => ∃ rest',
          rest = .notice (.filesDiscovered tool.name settings.dir files) :: rest' ∧
          if files = [] then
            rest' = [.notice (.noFilesMatched tool.name settings.dir)] ∧ result = .ok .empty
          else (tool.runCommand settings.dir
            (tool.command settings.toCommandSettings files)).EndsWith rest' result := by
  subst htool
  obtain ⟨answer, rest, rfl, hanswer⟩ := Attempt.EndsWith.of_listFiles h
  refine ⟨answer, rest, rfl, ?_⟩
  cases answer with
  | error failure => exact hanswer
  | ok files =>
    obtain ⟨rest', rfl, hfiles⟩ := Attempt.EndsWith.of_notify hanswer
    refine ⟨rest', rfl, ?_⟩
    cases files with
    | nil =>
      obtain ⟨last, rfl, hpure⟩ := Attempt.EndsWith.of_notify hfiles
      obtain ⟨rfl, rfl⟩ := Attempt.endsWith_pure_iff.1 hpure
      exact ⟨rfl, rfl⟩
    | cons file files => exact hfiles

theorem lint_of_ne {settings : JobSettings} (h : tool ≠ .apiLinter) :
    tool.lint settings =
      tool.runCommand settings.dir (tool.command settings.toCommandSettings []) := by
  cases tool with
  | apiLinter => exact absurd rfl h
  | _ => rfl

end Tool

namespace Job

variable {job : Job} {log : List Exchange} {result : Except Failure LintResult}

theorem reads_of_endsWith {output : RawOutput}
    (h : (job.entry.tool.read job.settings.dir output).EndsWith log result) :
    job.Reads output log result := by
  obtain ⟨canonical?, rest, rfl, hresult⟩ := h.of_canonical
  obtain ⟨rfl, rfl⟩ := Dialogue.endsWith_done_iff.1 hresult
  exact ⟨canonical?, rfl, rfl⟩

/-- A job whose command fails ends with that failure. -/
theorem runsTool_of_error {files : List String} {failure : Failure}
    (h : (job.entry.tool.runCommand job.settings.dir
      (job.entry.tool.command job.settings.toCommandSettings files)).EndsWith log
      (.error failure)) : job.RunsTool files log (.error failure) := by
  obtain ⟨answer, rest, rfl, rfl, hrest⟩ := Tool.endsWith_runCommand h
  exact ⟨_, rest, rfl, hrest, rfl⟩

/-- A job whose command has an output ends with the reading of that output. -/
theorem runsTool_of_ok {files : List String} {output : RawOutput} {rest : List Exchange}
    (h : (job.entry.tool.runCommand job.settings.dir
      (job.entry.tool.command job.settings.toCommandSettings files)).EndsWith log (.ok output))
    (hreads : job.Reads output rest result) : job.RunsTool files (log ++ rest) result := by
  obtain ⟨answer, told, rfl, rfl, rfl⟩ := Tool.endsWith_runCommand h
  exact ⟨_, _, rfl, rest, rfl, hreads⟩

/-- What a job goes through when its tool is run and its output is read. -/
theorem lints_of_endsWith
    (h : (job.entry.tool.lint job.settings >>= fun output =>
      job.entry.tool.read job.settings.dir output).EndsWith log result)
    (hfiles : ∀ dir answer, Exchange.listFiles dir answer ∈ log →
      ∃ (fs : FileSystem) (mayRead : Location → Bool), answer = fs.discover dir mayRead) :
    job.Lints log result := by
  by_cases htool : job.entry.tool = .apiLinter
  · rw [Lints, if_pos htool]
    rcases h.of_bind with ⟨failure, hlint, rfl⟩ | ⟨front, output, last, rfl, hlint, hread⟩
    · obtain ⟨answer, rest, rfl, hanswer⟩ := Tool.endsWith_lint_of_eq htool hlint
      refine ⟨answer, rest, rfl, ?_⟩
      cases answer with
      | error failure =>
        obtain ⟨fs, mayRead, hfs⟩ := hfiles _ _ List.mem_cons_self
        obtain ⟨rfl, hfailure⟩ := hanswer
        cases hfailure
        exact ⟨rfl, rfl, FileSystem.exists_of_discover_eq_error hfs.symm⟩
      | ok files =>
        obtain ⟨rest', rfl, hrest'⟩ := hanswer
        refine ⟨rest', rfl, ?_⟩
        by_cases hempty : files = []
        · rw [if_pos hempty] at hrest'
          cases hrest'.2
        · rw [if_neg hempty] at hrest' ⊢
          exact runsTool_of_error hrest'
    · -- There is an output to read, so the files were found out.
      obtain ⟨answer, rest, rfl, hanswer⟩ := Tool.endsWith_lint_of_eq htool hlint
      refine ⟨answer, rest ++ last, rfl, ?_⟩
      cases answer with
      | error failure => cases hanswer.2
      | ok files =>
        obtain ⟨rest', rfl, hrest'⟩ := hanswer
        refine ⟨rest' ++ last, rfl, ?_⟩
        by_cases hempty : files = []
        · rw [if_pos hempty] at hrest' ⊢
          obtain ⟨rfl, houtput⟩ := hrest'
          cases houtput
          exact ⟨last, rfl, reads_of_endsWith hread⟩
        · rw [if_neg hempty] at hrest' ⊢
          exact runsTool_of_ok hrest' (reads_of_endsWith hread)
  · rw [Lints, if_neg htool]
    rw [Tool.lint_of_ne htool] at h
    rcases h.of_bind with ⟨failure, hrun, rfl⟩ | ⟨front, output, rest, rfl, hrun, hread⟩
    · exact runsTool_of_error hrun
    · exact runsTool_of_ok hrun (reads_of_endsWith hread)

/-- What a job goes through. -/
theorem follows_of_endsWith {verify : Bool} (h : (job.execute verify).EndsWith log result)
    (hfiles : ∀ dir answer, Exchange.listFiles dir answer ∈ log →
      ∃ (fs : FileSystem) (mayRead : Location → Bool), answer = fs.discover dir mayRead) :
    job.Follows verify log result := by
  cases verify with
  | false =>
    have hlints : Attempt.EndsWith (job.entry.tool.lint job.settings >>= fun output =>
        job.entry.tool.read job.settings.dir output) log result := h
    rw [Follows, if_neg Bool.false_ne_true]
    exact lints_of_endsWith hlints hfiles
  | true =>
    have hverify : Attempt.EndsWith
        (job.entry.tool.verify job.settings.dir job.settings.commandPrefix >>= fun _ =>
          job.entry.tool.lint job.settings >>= fun output =>
            job.entry.tool.read job.settings.dir output) log result := h
    rw [Follows, if_pos rfl]
    rcases hverify.of_bind with ⟨failure, hcheck, rfl⟩ | ⟨front, _, last, rfl, hcheck, hlints⟩
    · obtain ⟨answer, rest, rfl, hanswer⟩ := Tool.endsWith_verify hcheck
      refine ⟨answer, rest, rfl, ?_⟩
      cases answer with
      | false =>
        obtain ⟨reason, rfl, hfailure⟩ := hanswer
        cases hfailure
        exact ⟨reason, rfl, rfl⟩
      | true =>
        obtain ⟨answer', rest', rfl, hanswer'⟩ := hanswer
        refine ⟨answer', rest', rfl, ?_⟩
        cases answer' with
        | error failure =>
          obtain ⟨reason, rfl, hfailure⟩ := hanswer'
          cases hfailure
          exact ⟨reason, rfl, rfl⟩
        | ok output => cases hanswer'.2
    · -- The check is passed, so both of its questions were answered well.
      obtain ⟨answer, rest, rfl, hanswer⟩ := Tool.endsWith_verify hcheck
      refine ⟨answer, rest ++ last, rfl, ?_⟩
      cases answer with
      | false =>
        obtain ⟨_, -, hfailure⟩ := hanswer
        cases hfailure
      | true =>
        obtain ⟨answer', rest', rfl, hanswer'⟩ := hanswer
        refine ⟨answer', rest' ++ last, rfl, ?_⟩
        cases answer' with
        | error failure =>
          obtain ⟨_, -, hfailure⟩ := hanswer'
          cases hfailure
        | ok output =>
          obtain ⟨rfl, -⟩ := hanswer'
          refine lints_of_endsWith hlints fun dir answer hmem => hfiles dir answer ?_
          exact List.mem_append_right _ hmem

/-! ## Events -/

/-- Running a tool is no check. -/
theorem RunsTool.isSetup_eq_false {files : List String} (h : job.RunsTool files log result) :
    ∀ event ∈ log.filterMap Exchange.event?, event.isSetup = false := by
  obtain ⟨answer, rest, rfl, hanswer⟩ := h
  -- The canonical path is asked for without an event.
  cases answer with
  | error failure =>
    obtain ⟨rfl, -⟩ := hanswer
    exact List.forall_mem_cons.2 ⟨rfl, List.forall_mem_cons.2 ⟨rfl, List.forall_mem_nil _⟩⟩
  | ok output =>
    obtain ⟨rest', rfl, canonical?, rfl, -⟩ := hanswer
    refine List.forall_mem_cons.2 ⟨rfl, List.forall_mem_cons.2 ⟨rfl, ?_⟩⟩
    exact List.forall_mem_cons.2 ⟨rfl, List.forall_mem_nil _⟩

/-- Behind the check of its tool, a job does not check anything. -/
theorem Lints.isSetup_eq_false (h : job.Lints log result) :
    ∀ event ∈ log.filterMap Exchange.event?, event.isSetup = false := by
  by_cases htool : job.entry.tool = .apiLinter
  · rw [Lints, if_pos htool] at h
    obtain ⟨answer, rest, rfl, hanswer⟩ := h
    cases answer with
    | error failure =>
      obtain ⟨rfl, -⟩ := hanswer
      exact List.forall_mem_nil _
    | ok files =>
      obtain ⟨rest', rfl, hrest'⟩ := hanswer
      refine List.forall_mem_cons.2 ⟨rfl, ?_⟩
      by_cases hempty : files = []
      · rw [if_pos hempty] at hrest'
        obtain ⟨rest'', rfl, canonical?, rfl, -⟩ := hrest'
        exact List.forall_mem_cons.2 ⟨rfl, List.forall_mem_nil _⟩
      · rw [if_neg hempty] at hrest'
        exact hrest'.isSetup_eq_false
  · rw [Lints, if_neg htool] at h
    exact h.isSetup_eq_false

/-- Behind the check of its tool, a job does not look its executable up. -/
theorem Lints.countP_isLookUp (h : job.Lints log result) :
    (log.filterMap Exchange.event?).countP Event.isLookUp = 0 := by
  rw [List.countP_eq_zero]
  intro event hevent hlookUp
  have hsetup := h.isSetup_eq_false event hevent
  cases event with
  | lookUp executable => cases hsetup
  | call c => cases hlookUp
  | notice notice => cases hlookUp

/-- A job looks its executable up once if it is to `verify`. -/
theorem Follows.countP_isLookUp {verify : Bool} (h : job.Follows verify log result) :
    (log.filterMap Exchange.event?).countP Event.isLookUp = if verify then 1 else 0 := by
  cases verify with
  | false =>
    rw [Follows, if_neg Bool.false_ne_true] at h
    exact h.countP_isLookUp
  | true =>
    rw [Follows, if_pos rfl] at h
    obtain ⟨answer, rest, rfl, hanswer⟩ := h
    cases answer with
    | false =>
      obtain ⟨reason, rfl, -⟩ := hanswer
      rfl
    | true =>
      obtain ⟨answer', rest', rfl, hanswer'⟩ := hanswer
      cases answer' with
      | error failure =>
        obtain ⟨reason, rfl, -⟩ := hanswer'
        rfl
      | ok output =>
        have hcount := hanswer'.countP_isLookUp
        have hevents : (Exchange.lookUp job.entry.tool.executable true ::
            .call job.probe (.ok output) :: rest').filterMap Exchange.event? =
              .lookUp job.entry.tool.executable :: .call job.probe ::
                rest'.filterMap Exchange.event? := rfl
        rw [hevents, List.countP_cons, List.countP_cons, hcount]
        rfl

/-- A job follows its protocol in every world, whatever the answers are. Its events are what can be
seen of its exchanges. It looks its executable up once if it is to `verify`, and does not check its
tool in any way if it is not. -/
theorem follows_protocol {σ : Type} (world : World σ) (hworld : world.Discovers) (verify : Bool)
    (job : Job) (s : σ) :
    let exchanges := (job.outcome verify).exchanges world s
    let course := (job.outcome verify).run world s
    course.events = exchanges.filterMap Exchange.event? ∧
    course.value.entry = job.entry ∧
    job.Follows verify exchanges course.value.result ∧
    course.events.countP Event.isLookUp = (if verify then 1 else 0) ∧
    (verify = false → ∀ event ∈ course.events, event.isSetup = false) := by
  intro exchanges course
  have hevents : course.events = exchanges.filterMap Exchange.event? :=
    Dialogue.events_run (job.outcome verify) s
  obtain ⟨hentry, hends⟩ := execute_of_outcome
    (Dialogue.endsWith_exchanges world (job.outcome verify) s)
  have hfollows : job.Follows verify exchanges course.value.result := by
    refine follows_of_endsWith hends fun dir answer hmem => ?_
    obtain ⟨t, ht⟩ := Dialogue.isOf_exchanges world _ s _ hmem
    obtain ⟨fs, mayRead, hfs⟩ := hworld dir t
    exact ⟨fs, mayRead, ht.symm.trans hfs⟩
  refine ⟨hevents, hentry, hfollows, ?_, ?_⟩
  · rw [hevents]
    exact hfollows.countP_isLookUp
  · rintro rfl
    rw [hevents]
    rw [Follows, if_neg Bool.false_ne_true] at hfollows
    exact hfollows.isSetup_eq_false

/-- A tool is checked and not run, since no directory has a null character in its name. -/
theorem follows_protocol_undiscovered :
    let fs : FileSystem := { tree := .emptyDirectory, here := [] }
    let world : World Unit :=
      { lookUp := fun _ => pure true
        call := fun _ => pure (.ok .empty)
        listFiles := fun dir => pure (fs.discover dir)
        canonical := fun _ => pure none }
    let job : Job :=
      ⟨⟨"apilinter", .check, .apiLinter, none⟩, JobSettings.default .apiLinter ⟨"\x00"⟩⟩
    let course := (job.outcome true).run world ()
    world.Discovers ∧
    job.Follows true ((job.outcome true).exchanges world ()) course.value.result ∧
    course.events = [.lookUp "api-linter", .call ⟨"api-linter --version", ⟨"\x00"⟩, false⟩] := by
  intro fs world job course
  have hworld : world.Discovers := fun _ _ => ⟨fs, fun _ => true, rfl⟩
  obtain ⟨-, -, hfollows, -⟩ := follows_protocol world hworld true job ()
  refine ⟨hworld, hfollows, ?_⟩
  clear hfollows hworld
  subst course job world fs
  decide +kernel

end Job

end LintRun
