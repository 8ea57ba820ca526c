import LintRun.CommandLine.Run
import LintRun.Proofs.Dialogue.Exchange
import LintRun.Proofs.FileTree.Resolve
import LintRun.Proofs.Report.RoundTrip
import LintRun.Proofs.List

/-!
# What reports say

A report is told in several ways: as JSON, as a text for people whose last line is a verdict, and by
the exit status. All of them say the same about every list of outcomes.

## Main definitions

* `Json.field?` looks up a field of a record.
* `IsEntryOf` says what the entry for an outcome tells a reader.
* `Report.verdict` is a last line with any numbers in it.

## Main statements

* `verdict_suffix_iff`: a text ends with one verdict only.
* `Report.ways_to_tell_agree`: JSON, verdict and exit status agree.
-/

namespace LintRun

/-- The value of a field of an object, if it has one. No other value has fields, and neither does an
object with two of the name. -/
def Json.field? (v : Json) (name : String) : Option (Option Json) :=
  match v with
  | .object members => fieldNamed? members name
  | _ => none

/-- The word for the status in an entry of a report. -/
def Json.entryStatus? (entry : Json) : Option String :=
  match entry.field? "status" with
  | some (some status) => status.text?
  | _ => none

/-- What the entry of an outcome tells a reader. -/
structure IsEntryOf (entry : Json) (outcome : Outcome) : Prop where
  /-- Entries are told apart by the tools. -/
  id : entry.field? "id" = some (some (.string outcome.entry.id))
  /-- The status of the outcome is there. -/
  status : entry.entryStatus? = some outcome.status.text
  /-- There is a result or a failure, and never both. -/
  result_or_error :
    (∃ result, entry.field? "result" = some (some result)) ∧ entry.field? "error" = some none ∨
    (∃ error, entry.field? "error" = some (some error)) ∧ entry.field? "result" = some none
  /-- There is a number of findings exactly if there is a result. -/
  findings_iff_result : (∃ findings, entry.field? "findings" = some (some findings)) ↔
    ∃ result, entry.field? "result" = some (some result)
  /-- The number is that of the warnings and errors in the result. -/
  findings_eq : ∀ result, entry.field? "result" = some (some result) →
    ∃ warnings errors, result.field? "warning" = some (some (.array warnings)) ∧
      result.field? "error" = some (some (.array errors)) ∧
      entry.field? "findings" = some (some (.int (warnings.length + errors.length : Nat)))
  /-- A failure comes with its status. -/
  error_iff : entry.entryStatus? = some "error" ↔
    ∃ error, entry.field? "error" = some (some error)
  /-- The kind of a failure is there. -/
  kind : ∀ error, entry.field? "error" = some (some error) →
    ∃ failure, outcome.result = .error failure ∧
      error.field? "kind" = some (some (.string failure.kind))
  /-- A tool passed exactly if its result is a success. -/
  passed_iff : entry.entryStatus? = some "passed" ↔
    ∃ result, entry.field? "result" = some (some result) ∧
      result.field? "isSuccess" = some (some (.bool true))

/-- What is written for an outcome is an entry of it. -/
theorem Outcome.isEntryOf_toJson (outcome : Outcome) : IsEntryOf outcome.toJson outcome := by
  obtain ⟨entry, result⟩ := outcome
  cases result with
  | ok result =>
    have hresult : (toJson ⟨entry, .ok result⟩).field? "result" = some (some result.toJson) := rfl
    have herror : (toJson ⟨entry, .ok result⟩).field? "error" = some none := rfl
    have hfindings : (toJson ⟨entry, .ok result⟩).field? "findings" =
      some (some (.int result.findingCount)) := rfl
    have hstatus : (toJson ⟨entry, .ok result⟩).entryStatus? =
      some (if result.isSuccess then Status.passed else .failed).text := rfl
    refine ⟨rfl, rfl, .inl ⟨⟨_, hresult⟩, herror⟩, ⟨fun _ => ⟨_, hresult⟩, fun _ => ⟨_, hfindings⟩⟩,
      ?_, ?_, ?_, ?_⟩
    · intro value hvalue
      obtain rfl : result.toJson = value := by simpa [hresult] using hvalue
      refine ⟨result.warning.map Finding.toJson, result.error.map Finding.toJson, rfl, rfl, ?_⟩
      rw [hfindings, LintResult.findingCount, List.length_map, List.length_map]
    · rw [hstatus, herror]
      cases result.isSuccess <;> simp [Status.text]
    · intro error habsurd
      rw [herror] at habsurd
      cases habsurd
    · rw [hstatus, hresult]
      have hsuccess : result.toJson.field? "isSuccess" = some (some (.bool result.isSuccess)) := rfl
      cases hcontent : result.isSuccess <;> simp [Status.text, hsuccess, hcontent]
  | error failure =>
    have hresult : (toJson ⟨entry, .error failure⟩).field? "result" = some none := rfl
    have herror : (toJson ⟨entry, .error failure⟩).field? "error" = some (some failure.toJson) :=
      rfl
    have hfindings : (toJson ⟨entry, .error failure⟩).field? "findings" = some none := rfl
    have hstatus : (toJson ⟨entry, .error failure⟩).entryStatus? = some "error" := rfl
    refine ⟨rfl, rfl, .inr ⟨⟨_, herror⟩, hresult⟩, ?_, ?_, ?_, ?_, ?_⟩
    · simp [hfindings, hresult]
    · simp [hresult]
    · simp [hstatus, herror]
    · intro error hvalue
      obtain rfl : failure.toJson = error := by simpa [herror] using hvalue
      exact ⟨failure, rfl, rfl⟩
    · simp [hstatus, hresult]

/-! ## The last line -/

namespace Report

/-- The word of a verdict. -/
def verdictWord (shown passed : Bool) : String :=
  if passed then Text.boldGreen.paint shown "✓ PASS" else Text.boldRed.paint shown "✗ FAIL"

/-- A verdict on some of the tools, and the empty line behind it. -/
def verdict (shown passed : Bool) (count total : Nat) : String :=
  "  " ++ verdictWord shown passed ++ " " ++ toString count ++ "/" ++ toString total ++
    " adapters passed\n\n"

/-- The front of a verdict, up to its numbers. -/
def verdictFront (shown passed : Bool) : List Char :=
  "  ".toList ++ (verdictWord shown passed).toList

theorem toList_verdict (shown passed : Bool) (count total : Nat) :
    (verdict shown passed count total).toList =
      ((verdictFront shown passed ++ ' ' :: Nat.toDigits 10 count) ++
        '/' :: Nat.toDigits 10 total) ++ " adapters passed\n\n".toList := by
  have hdigits : ∀ n : Nat, (toString n).toList = Nat.toDigits 10 n := fun n => Nat.toList_repr
  simp only [verdict, verdictFront, String.toList_append, hdigits, List.append_assoc]
  rfl

theorem toDigits_injective : Function.Injective (Nat.toDigits 10) := by
  intro n m h
  rw [← Json.ofDigits_toDigits n, h, Json.ofDigits_toDigits]

/-- A text ends with one verdict only. -/
theorem verdict_suffix_iff {front : List Char} {shown passed passed' : Bool}
    {count count' total total' : Nat} :
    (verdict shown passed count total).toList <:+
        front ++ (verdict shown passed' count' total').toList ↔
      passed = passed' ∧ count = count' ∧ total = total' := by
  have hdigits : ∀ n, ∀ c ∈ Nat.toDigits 10 n, c.isDigit = true := fun n c hc =>
    Nat.isDigit_of_mem_toDigits (by omega) (by omega) hc
  constructor
  · intro h
    rw [toList_verdict, toList_verdict, ← List.append_assoc, List.suffix_append_self_iff,
      ← List.append_assoc] at h
    -- The numbers end where no digit is, so they can be told from the right.
    obtain ⟨htotal, h⟩ := eq_of_append_run_suffix (hdigits total) (hdigits total') rfl rfl h
    rw [List.suffix_append_self_iff, ← List.append_assoc] at h
    obtain ⟨hcount, h⟩ := eq_of_append_run_suffix (hdigits count) (hdigits count') rfl rfl h
    rw [List.suffix_append_self_iff] at h
    refine ⟨?_, toDigits_injective hcount, toDigits_injective htotal⟩
    have hlength : (verdictFront shown passed).length = (verdictFront shown passed').length := by
      cases shown <;> cases passed <;> cases passed' <;> decide
    have hfront : verdictFront shown passed = verdictFront shown passed' :=
      (List.suffix_of_suffix_length_le h (List.suffix_append _ _) hlength.le).eq_of_length hlength
    revert hfront
    cases shown <;> cases passed <;> cases passed' <;> decide
  · rintro ⟨rfl, rfl, rfl⟩
    exact List.suffix_append _ _

variable (report : Report) (path : String)

theorem toList_footer (shown : Bool) : (report.footer shown ++ "\n").toList =
    (verdict shown report.passed report.passedCount report.outcomes.length).toList := by
  simp [footer, verdict, verdictWord]

/-- A report that is not empty ends with its verdict. -/
theorem verdict_suffix_pretty_iff (hne : report.outcomes ≠ []) {shown passed : Bool}
    {count total : Nat} :
    (verdict shown passed count total).toList <:+ (report.pretty shown path).toList ↔
      passed = report.passed ∧ count = report.passedCount ∧ total = report.outcomes.length := by
  have htext : (report.pretty shown path).toList =
      (header shown path ++ String.join (report.outcomes.map (Outcome.pretty shown))).toList ++
        (verdict shown report.passed report.passedCount report.outcomes.length).toList := by
    rw [← toList_footer, ← String.toList_append, pretty, if_neg (by simpa using hne),
      String.append_assoc]
  rw [htext, verdict_suffix_iff]

/-! ## The exit status -/

theorem passed_iff : report.passed ↔ ∀ outcome ∈ report.outcomes, outcome.status = .passed := by
  simp [passed]

theorem hasErrors_iff :
    report.hasErrors ↔ ∃ outcome ∈ report.outcomes, outcome.status = .error := by
  simp [hasErrors]

theorem not_hasErrors_of_passed (h : report.passed) : report.hasErrors = false := by
  rw [← Bool.not_eq_true, hasErrors_iff]
  rintro ⟨outcome, hmem, hstatus⟩
  rw [report.passed_iff.1 h outcome hmem] at hstatus
  cases hstatus

theorem statusOf_eq_two_iff : RunArguments.statusOf report = 2 ↔ report.hasErrors := by
  rw [RunArguments.statusOf]
  cases report.hasErrors <;> cases report.passed <;> decide

theorem statusOf_eq_zero_iff : RunArguments.statusOf report = 0 ↔ report.passed := by
  have hpassed := report.not_hasErrors_of_passed
  rw [RunArguments.statusOf]
  revert hpassed
  cases report.hasErrors <;> cases report.passed <;> decide

theorem statusOf_eq_one_iff : RunArguments.statusOf report = 1 ↔
    ¬ report.hasErrors ∧ ¬ report.passed := by
  rw [RunArguments.statusOf]
  cases report.hasErrors <;> cases report.passed <;> decide

/-! ## Agreement -/

theorem entryStatus?_toJson (outcome : Outcome) (status : Status) :
    outcome.toJson.entryStatus? = some status.text ↔ outcome.status = status := by
  rw [outcome.isEntryOf_toJson.status, Option.some_inj]
  cases outcome.status <;> cases status <;> decide

theorem length_filter_entryStatus? :
    ((report.outcomes.map Outcome.toJson).filter (·.entryStatus? = some "passed")).length =
      report.passedCount := by
  rw [List.filter_map, List.length_map, passedCount]
  congr 2
  funext outcome
  exact decide_eq_decide.2 (entryStatus?_toJson outcome .passed)

/-- All ways to tell agree. JSON lists one entry for each outcome, in order, and says whether all of
them passed. A report that is not empty ends with a verdict for people, which says this too, with
the number of entries that passed and of all, and with no other verdict. The exit status is two if
an entry says that there was an error, and else zero or one. What a command leaves behind is this
text and this status. -/
theorem ways_to_tell_agree :
    ∃ document entries, Json.parse (report.json path) = some document ∧
      document.field? "passed" = some (some (.bool report.passed)) ∧
      document.field? "adapters" = some (some (.array entries)) ∧
      (report.passed ↔ ∀ outcome ∈ report.outcomes, outcome.status = .passed) ∧
      List.Forall₂ IsEntryOf entries report.outcomes ∧
      (report.outcomes ≠ [] → ∀ shown passed count total,
        (verdict shown passed count total).toList <:+ (report.pretty shown path).toList ↔
          passed = report.passed ∧
          count = (entries.filter (·.entryStatus? = some "passed")).length ∧
          total = report.outcomes.length) ∧
      (RunArguments.statusOf report = 2 ↔ ∃ entry ∈ entries, entry.entryStatus? = some "error") ∧
      (RunArguments.statusOf report = 0 ↔ report.passed) ∧
      (RunArguments.statusOf report = 1 ↔
        ¬ (∃ entry ∈ entries, entry.entryStatus? = some "error") ∧ ¬ report.passed) ∧
      ∀ (arguments : RunArguments) (fs : FileSystem) (jobs : List Job) (shown : Bool) {σ : Type}
        (world : World σ) (s : σ), arguments.path = path → arguments.prepare fs = .ok jobs →
        ((run [] (!arguments.skipSetupCheck) jobs).run world s).value = report →
        ((arguments.execute shown fs).run world s).value =
          { status := RunArguments.statusOf report
            stdout :=
              if arguments.format = "json" then report.json path
              else report.pretty shown path } := by
  have herror : report.hasErrors ↔
      ∃ entry ∈ report.outcomes.map Outcome.toJson, entry.entryStatus? = some "error" := by
    rw [hasErrors_iff]
    simp only [List.mem_map, exists_exists_and_eq_and]
    exact exists_congr fun outcome => and_congr_right fun _ =>
      (entryStatus?_toJson outcome .error).symm
  refine ⟨report.toJson path, report.outcomes.map Outcome.toJson, report.parse_json path, rfl, rfl,
    report.passed_iff, ?_, fun hne shown passed count total => ?_, ?_, report.statusOf_eq_zero_iff,
    ?_, ?_⟩
  · rw [List.forall₂_map_left_iff, List.forall₂_same]
    exact fun outcome _ => outcome.isEntryOf_toJson
  · rw [length_filter_entryStatus?]
    exact report.verdict_suffix_pretty_iff path hne
  · rw [statusOf_eq_two_iff, herror]
  · rw [statusOf_eq_one_iff, herror]
  · rintro arguments fs jobs shown σ world s rfl hprepare rfl
    rw [RunArguments.execute, hprepare]
    exact Dialogue.value_run_bind _ _ s

/-- One tool passed, one failed and one gave no result: this is no pass, whoever is asked. -/
theorem ways_to_tell_agree_on_a_mixture :
    let fs : FileSystem := ⟨.emptyDirectory, []⟩
    let arguments : RunArguments :=
      { path := "/", format := "json", only := ["flake8", "black", "gofmt"]
        skipSetupCheck := true }
    let world : World Unit :=
      { lookUp := fun _ => pure true
        call := fun c => pure <|
          match c.command.toList.head? with
          | some 'g' => .ok .empty
          | some 'f' => .ok ⟨1, "", ""⟩
          | _ => .error (.spawn c.command "no such command")
        listFiles := fun _ => pure (.ok [])
        canonical := fun _ => pure none }
    let ending := ((arguments.execute false fs).run world ()).value
    ∃ (report : Report) (document : Json) (entries : List Json),
      report.outcomes.map Outcome.status = [.failed, .error, .passed] ∧
      Json.parse ending.stdout = some document ∧
      document.field? "passed" = some (some (.bool false)) ∧
      document.field? "adapters" = some (some (.array entries)) ∧
      (verdict true false (entries.filter (·.entryStatus? = some "passed")).length 3).toList <:+
        (report.pretty true "/").toList ∧
      ¬ (verdict true true 3 3).toList <:+ (report.pretty true "/").toList ∧
      ending.status = 2 := by
  intro fs arguments world ending
  let job (id : String) (category : Category) (tool : Tool) : Job :=
    ⟨⟨id, category, tool, none⟩, JobSettings.default tool ⟨"/"⟩⟩
  let jobs := [job "flake8" .check .flake8, job "black" .format .black,
    job "gofmt" .format .gofmt]
  have hresolve : fs.resolve ⟨arguments.path⟩ = .ok [] := by
    have hpieces : (⟨"/"⟩ : Path).pieces = ["", ""] := by decide
    simp [FileSystem.resolve, arguments, hpieces, FileSystem.walk]
    decide
  have hroot : arguments.root fs = .ok ⟨"/"⟩ := by
    rw [RunArguments.root, hresolve]
    have hdirectory : fs.isDirectory ⟨arguments.path⟩ := by
      rw [FileSystem.isDirectory, FileSystem.find, hresolve]
      rfl
    exact if_pos hdirectory
  have hpath : arguments.configPath? fs ⟨"/"⟩ = none := by
    simp [RunArguments.configPath?, arguments, fs, FileSystem.isFile_emptyDirectory]
  have hconfig : arguments.config fs ⟨"/"⟩ = .ok {} := by
    rw [RunArguments.config, hpath]
    rfl
  have hplan : Registry.plan arguments.only = .ok (jobs.map Job.entry) := by
    have hresolved : arguments.only.mapM Registry.resolve = .ok (jobs.map Job.entry) := rfl
    rw [Registry.plan, hresolved]
    exact congrArg Except.ok (List.mergeSort_of_pairwise (by decide))
  have hprepare : arguments.prepare fs = .ok jobs := by
    have hids : arguments.ids {} = arguments.only := rfl
    rw [RunArguments.prepare, if_neg (by decide), hroot]
    simp only [bind, Except.bind, hconfig, hids, Config.jobs, hplan]
    rfl
  obtain ⟨report, hreport⟩ : ∃ report, ((run [] false jobs).run world ()).value = report :=
    ⟨_, rfl⟩
  have hstatus : report.outcomes.map Outcome.status = [.failed, .error, .passed] := by
    rw [← hreport]
    decide +kernel
  have hlength : report.outcomes.length = 3 := by
    rw [← List.length_map Outcome.status, hstatus]
    rfl
  have hpassed : report.passed = false := by
    rw [← hreport]
    decide +kernel
  have herror : RunArguments.statusOf report = 2 := by
    rw [← hreport]
    decide +kernel
  obtain ⟨document, entries, hparse, hflag, hadapters, -, -, hverdict, -, -, -, hending⟩ :=
    ways_to_tell_agree report "/"
  have hends := hverdict (by rintro hnil; simp [hnil] at hlength) true
  have hfull : ending = { status := RunArguments.statusOf report, stdout := report.json "/" } :=
    hending arguments fs jobs false world () rfl hprepare hreport
  rw [hpassed] at hflag hends
  refine ⟨report, document, entries, hstatus, ?_, hflag, hadapters, ?_, ?_, ?_⟩
  · rw [hfull, hparse]
  · exact (hends _ _ _).2 ⟨rfl, rfl, hlength.symm⟩
  · intro habsurd
    cases ((hends _ _ _).1 habsurd).1
  · rw [hfull, herror]

end Report

end LintRun
