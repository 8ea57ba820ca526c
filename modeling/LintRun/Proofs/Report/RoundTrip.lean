import LintRun.Format.Document
import LintRun.Format.Records
import LintRun.Proofs.Json.RoundTrip
import LintRun.Report.Json

/-!
# Reading results from reports

A result that was written as JSON is read back as long as its line numbers are counts, wherever in a
report it was written. So a report says what the results were, and nothing that is written in a
finding can change what is read.

## Main definitions

* `LintResult.HasCounts` holds of the results whose line numbers are counts.
* `Report.readResults` reads the results in a report.

## Main statements

* `results_read_back`: results and lists of findings are read back, alone and from a report.
-/

namespace LintRun

/-- The line numbers of a finding are counts. -/
def Finding.HasCounts (finding : Finding) : Prop :=
  finding.firstLine ≤ Count.max ∧ finding.lastLine ≤ Count.max

/-- The line numbers of all findings of a result are counts. -/
def LintResult.HasCounts (result : LintResult) : Prop :=
  ∀ finding ∈ result.warning ++ result.error, finding.HasCounts

theorem Json.count_int {n : Nat} (h : n ≤ Count.max) :
    Format.count (Json.int n) = some n := by
  have hbounds : (0 : Int) ≤ n ∧ (n : Int) ≤ Count.max := by omega
  change (if (0 : Int) ≤ n ∧ (n : Int) ≤ Count.max then some (n : Int) else none).map Int.toNat = _
  rw [if_pos hbounds]
  rfl

theorem Finding.read_toJson {finding : Finding} (h : finding.HasCounts) :
    Finding.read finding.toJson = some finding := by
  have hfields : Format.fields ["path", "firstLine", "lastLine", "message"] finding.toJson =
      some [some (.string finding.path), some (.int finding.firstLine),
        some (.int finding.lastLine), some (.string finding.message)] := rfl
  rw [Finding.read, hfields]
  simp [Format.required, Json.count_int h.1, Json.count_int h.2, Format.text, Json.text?]

/-- A list is read back if its items are. -/
theorem Json.list_read_map {α β : Type} {read : Json → Option β} {write : α → Json} {value : α → β}
    {items : List α} (h : ∀ item ∈ items, read (write item) = some (value item)) :
    Format.list read (.array (items.map write)) = some (items.map value) := by
  change (items.map write).mapM read = some (items.map value)
  induction items with
  | nil => rfl
  | cons item items ih =>
    rw [List.map_cons, List.mapM_cons, h item List.mem_cons_self,
      ih fun item hitem => h item (List.mem_cons_of_mem _ hitem)]
    rfl

theorem Finding.list_read_listToJson {findings : List Finding}
    (h : ∀ finding ∈ findings, finding.HasCounts) :
    Format.list Finding.read (Finding.listToJson findings) = some findings := by
  have hread : Format.list Finding.read (Finding.listToJson findings) = some (findings.map id) :=
    Json.list_read_map fun finding hfinding => Finding.read_toJson (h finding hfinding)
  rwa [List.map_id] at hread

theorem LintResult.read_toJson {result : LintResult} (h : result.HasCounts) :
    LintResult.read result.toJson = some result := by
  have hfields : Format.fields ["isSuccess", "warning", "error"] result.toJson =
      some [some (.bool result.isSuccess), some (Finding.listToJson result.warning),
        some (Finding.listToJson result.error)] := rfl
  have hwarning := Finding.list_read_listToJson fun finding hfinding =>
    h finding (List.mem_append_left result.error hfinding)
  have herror := Finding.list_read_listToJson fun finding hfinding =>
    h finding (List.mem_append_right result.warning hfinding)
  rw [LintResult.read, hfields]
  simp [Format.required, hwarning, herror, Format.flag, Json.flag?]

/-! ## Written values can be read -/

theorem Json.areReadable_iff {items : List Json} :
    Json.areReadable items ↔ ∀ item ∈ items, item.isReadable := by
  induction items with
  | nil => simp [areReadable]
  | cons item items ih => simp [areReadable, ih]

theorem Finding.isReadable_listToJson (findings : List Finding) :
    (Finding.listToJson findings).isReadable := by
  rw [listToJson, Json.isReadable, Json.areReadable_iff, List.forall_mem_map]
  exact fun finding _ => rfl

theorem LintResult.isReadable_toJson (result : LintResult) : result.toJson.isReadable := by
  simp [toJson, Json.isReadable, Json.haveReadable, Finding.isReadable_listToJson]

theorem Outcome.isReadable_toJson (outcome : Outcome) : outcome.toJson.isReadable := by
  rw [toJson, resultMembers]
  split
  · simp [Json.isReadable, Json.haveReadable, LintResult.isReadable_toJson]
  · rfl

theorem Report.isReadable_toJson (report : Report) (path : String) :
    (report.toJson path).isReadable := by
  have houtcomes : Json.areReadable (report.outcomes.map Outcome.toJson) := by
    rw [Json.areReadable_iff, List.forall_mem_map]
    exact fun outcome _ => outcome.isReadable_toJson
  simp [toJson, Json.isReadable, Json.haveReadable, houtcomes]

/-- A report is read back as it was written. -/
theorem Report.parse_json (report : Report) (path : String) :
    Json.parse (report.json path) = some (report.toJson path) := by
  refine Json.parse_render_append (report.isReadable_toJson path) 0 "\n" ?_
  rintro c hc
  rw [List.mem_singleton.1 hc]
  rfl

/-! ## Documents -/

/-- A text with a value in it is read, unless it starts with a blank. -/
theorem Document.json?_of_parse {α : Type} {read : Json → Option α} {default : α} {text : String}
    {v : Json} {c : Char} (hhead : text.toList.head? = some c) (hc : Text.isBlank c = false)
    (hparse : Json.parse text = some v) : Document.json? read default text = read v := by
  have hblank : Text.isBlankText text ≠ true := by
    intro hall
    have hmem := List.all_eq_true.1 hall c (List.mem_of_head? hhead)
    rw [hc] at hmem
    cases hmem
  rw [Document.json?, if_neg hblank, hparse]
  rfl

theorem Document.json?_toJson (default : LintResult) (level : Nat) {result : LintResult}
    (h : result.HasCounts) :
    Document.json? LintResult.read default (result.toJson.render level) = some result := by
  have hhead : (result.toJson.render level).toList.head? = some '{' :=
    Json.head?_render_object level _
  rw [json?_of_parse hhead (by decide) (Json.parse_render result.isReadable_toJson level),
    LintResult.read_toJson h]

theorem Document.json?_listToJson (default : List Finding) (level : Nat) {findings : List Finding}
    (h : ∀ finding ∈ findings, finding.HasCounts) :
    Document.json? (Format.list Finding.read) default
      ((Finding.listToJson findings).render level) = some findings := by
  have hhead : ((Finding.listToJson findings).render level).toList.head? = some '[' :=
    Json.head?_render_array level _
  rw [json?_of_parse hhead (by decide)
    (Json.parse_render (Finding.isReadable_listToJson findings) level),
    Finding.list_read_listToJson h]

namespace Report

/-- Reads the result in an entry of a report, if there is one. -/
def readEntry (v : Json) : Option (Option LintResult) := do
  let [result?] ← Format.fields ["result"] v | none
  Format.orElse none (fun result => some <$> LintResult.read result) result?

/-- Reads the results in a report. -/
def readResults (v : Json) : Option (List (Option LintResult)) := do
  let [entries] ← Format.fields ["adapters"] v | none
  Format.required (Format.list readEntry) entries

/-- The line numbers of all results are counts. -/
def HasCounts (report : Report) : Prop :=
  ∀ outcome ∈ report.outcomes, ∀ result, outcome.result = .ok result → result.HasCounts

theorem readEntry_toJson {outcome : Outcome}
    (h : ∀ result, outcome.result = .ok result → result.HasCounts) :
    readEntry outcome.toJson = some outcome.result.toOption := by
  rw [readEntry, Outcome.toJson, Outcome.resultMembers]
  cases hresult : outcome.result with
  | error failure => rfl
  | ok result =>
    have hread := LintResult.read_toJson (h result hresult)
    change (LintResult.read result.toJson).map some = _
    rw [hread]
    rfl

theorem readResults_toJson {report : Report} (h : report.HasCounts) (path : String) :
    readResults (report.toJson path) =
      some (report.outcomes.map fun outcome => outcome.result.toOption) := by
  exact Json.list_read_map fun outcome houtcome => readEntry_toJson (h outcome houtcome)

theorem json?_json {report : Report} (h : report.HasCounts) (path : String)
    (default : List (Option LintResult)) :
    Document.json? readResults default (report.json path) =
      some (report.outcomes.map fun outcome => outcome.result.toOption) := by
  have hhead : (report.json path).toList.head? = some '{' := by
    have hobject : ((report.toJson path).render 0).toList.head? = some '{' :=
      Json.head?_render_object 0 _
    rw [json, String.toList_append, List.head?_append, hobject]
    rfl
  rw [Document.json?_of_parse hhead (by decide) (report.parse_json path),
    readResults_toJson h]

end Report

/-! ## Where results stand -/

/-- In a report, a result stands behind its key, three levels deep. -/
theorem Report.infix_json {report : Report} {outcome : Outcome} {result : LintResult}
    (hmem : outcome ∈ report.outcomes) (hresult : outcome.result = .ok result) (path : String) :
    "\"result\": ".toList ++ (result.toJson.render 3).toList <:+: (report.json path).toList := by
  have hentry : Json.memberText 2 "result" result.toJson <:+: (outcome.toJson.render 2).toList := by
    refine Json.memberText_infix_render_object ?_ 2
    simp [Outcome.resultMembers, hresult]
  have hentries : (outcome.toJson.render 2).toList <:+:
      ((Json.array (report.outcomes.map Outcome.toJson)).render 1).toList :=
    Json.render_infix_render_array (List.mem_map_of_mem hmem) 1
  have hreport : Json.memberText 0 "adapters" (.array (report.outcomes.map Outcome.toJson)) <:+:
      ((report.toJson path).render 0).toList := by
    refine Json.memberText_infix_render_object ?_ 0
    simp
  have hvalue : ((Json.array (report.outcomes.map Outcome.toJson)).render 1).toList <:+:
      Json.memberText 0 "adapters" (.array (report.outcomes.map Outcome.toJson)) :=
    List.infix_append_of_infix_right
      (List.infix_cons (List.infix_cons List.infix_rfl))
  have hjson : ((report.toJson path).render 0).toList <:+: (report.json path).toList := by
    rw [json, String.toList_append]
    exact (List.prefix_append _ _).isInfix
  exact hentry.trans (hentries.trans (hvalue.trans (hreport.trans hjson)))

/-- A result whose line numbers are counts is read back from what is written for it at any level,
and so is a list of findings. What is written for a result stands in the report as well, and all
results of a report are read back from it. -/
theorem Document.results_read_back (tool : String) :
    (∀ (result default : LintResult) (level : Nat), result.HasCounts →
      Document.orFailure tool
        (Document.json? LintResult.read default (result.toJson.render level)) = .ok result) ∧
    (∀ (findings default : List Finding) (level : Nat),
      (∀ finding ∈ findings, finding.HasCounts) →
        Document.orFailure tool (Document.json? (Format.list Finding.read) default
          ((Finding.listToJson findings).render level)) = .ok findings) ∧
    ∀ (report : Report) (path : String), report.HasCounts →
      (∀ outcome ∈ report.outcomes, ∀ result, outcome.result = .ok result →
        "\"result\": ".toList ++ (result.toJson.render 3).toList <:+:
          (report.json path).toList) ∧
      ∀ default, Document.json? Report.readResults default (report.json path) =
        some (report.outcomes.map fun outcome => outcome.result.toOption) := by
  refine ⟨fun result default level h => ?_, fun findings default level h => ?_,
    fun report path h => ⟨fun outcome hmem result hresult => ?_, fun default => ?_⟩⟩
  · rw [Document.json?_toJson default level h]
    rfl
  · rw [Document.json?_listToJson default level h]
    rfl
  · exact Report.infix_json hmem hresult path
  · exact Report.json?_json h path default

/-- Quotes, line breaks, control characters and characters of every plane are read back, and so is
the largest line number. -/
theorem Document.result_with_escapes_reads_back :
    let finding : Finding := ⟨"a \"b\\c\x01.py", 1, 18446744073709551615, "😀\r\n\t\x0c/\u2028\x7f"⟩
    let result : LintResult := { isSuccess := false, error := [finding] }
    let outcome : Outcome := ⟨⟨"eslint", .check, .eslint, none⟩, .ok result⟩
    let report : Report := ⟨[outcome, ⟨outcome.entry, .error (Tool.missing .eslint)⟩]⟩
    result.HasCounts ∧
      orFailure "eslint" (json? LintResult.read {} (result.toJson.render 3)) = .ok result ∧
      orFailure "eslint" (json? (Format.list Finding.read) []
        ((Finding.listToJson [finding, finding]).render 0)) = .ok [finding, finding] ∧
      json? Report.readResults [] (report.json ".") = some [some result, none] := by
  intro finding result outcome report
  have hfinding : finding.HasCounts := ⟨by decide, by decide⟩
  have hresult : result.HasCounts := by
    intro finding hmem
    rw [List.mem_singleton.1 hmem]
    exact hfinding
  have hfindings : ∀ other ∈ [finding, finding], other.HasCounts := by
    simp [hfinding]
  have hreport : report.HasCounts := by
    intro outcome hmem result hok
    rcases List.mem_pair.1 hmem with rfl | rfl
    · cases hok
      exact hresult
    · cases hok
  obtain ⟨hone, hlist, hall⟩ := results_read_back "eslint"
  exact ⟨hresult, hone result {} 3 hresult, hlist _ [] 0 hfindings, (hall report "." hreport).2 []⟩

end LintRun
