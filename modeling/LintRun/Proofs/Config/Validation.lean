import LintRun.Config.Basic
import LintRun.Proofs.Except
import LintRun.Proofs.Extension
import LintRun.Proofs.Registry

/-!
# Settings without mistakes

A settings file has no mistake exactly if all that it says about single tools is in order: the
tools exist, the extensions are not empty, and the directories are not blank. Otherwise the mistake
is the first one of the first tool that has any.

## Main definitions

* `ToolConfig.IsInOrder` says when there is no mistake in what is said about a tool.
* `Config.Mistake.IsFirstIn` says which mistake is the first one in it.

## Main statements

* `Config.validate_eq_ok_iff` and `Config.validateTool_eq_ok_iff`: the settings without mistakes.
* `Config.validate_eq_error_iff` and `Config.validateTool_eq_error_iff`: the first mistakes.
-/

namespace LintRun

/-- What is said about the tool `id` is in order. -/
structure ToolConfig.IsInOrder (tool : ToolConfig) (id : String) : Prop where
  registered : id ∈ Registry.ids
  extensions : ∀ extensions, tool.extensions? = some extensions →
    extensions ≠ [] ∧ ∀ extension ∈ extensions, ∃ c ∈ extension.toList, c ≠ '.'
  dir : ∀ dir, tool.dir? = some dir → ∃ c ∈ dir.toList, Text.isBlank c = false

namespace Config

/-- The first mistake in what is said about the tool `id`: the identifier counts before the
extensions, and these before the directory. -/
inductive Mistake.IsFirstIn (tool : ToolConfig) (id : String) : Mistake → Prop where
  | unknownTool (hid : id ∉ Registry.ids) : IsFirstIn tool id (.unknownTool ⟨id⟩)
  | noExtensions (hid : id ∈ Registry.ids) (hextensions : tool.extensions? = some []) :
      IsFirstIn tool id (.noExtensions id)
  | emptyExtension {front rest : List String} {extension : String} (hid : id ∈ Registry.ids)
      (hextensions : tool.extensions? = some (front ++ extension :: rest))
      (hfront : ∀ other ∈ front, ∃ c ∈ other.toList, c ≠ '.')
      (hdots : ∀ c ∈ extension.toList, c = '.') : IsFirstIn tool id (.emptyExtension id extension)
  | blankDir {dir : String} (hid : id ∈ Registry.ids)
      (hextensions : ∀ extensions, tool.extensions? = some extensions →
        extensions ≠ [] ∧ ∀ extension ∈ extensions, ∃ c ∈ extension.toList, c ≠ '.')
      (hdir : tool.dir? = some dir) (hblank : ∀ c ∈ dir.toList, Text.isBlank c = true) :
      IsFirstIn tool id (.blankDir id)

/-! ## Settings in order -/

/-- Every extension of a list in order has a character other than a dot, and there is one. -/
theorem validateExtensions_eq_ok_iff {id : String} {extensions : List String} :
    validateExtensions id extensions = .ok () ↔
      extensions ≠ [] ∧ ∀ extension ∈ extensions, ∃ c ∈ extension.toList, c ≠ '.' := by
  have hbare : ∀ extension : String,
      ¬ decide (Extension.bare extension = "") = true ↔ ∃ c ∈ extension.toList, c ≠ '.' := by
    intro extension
    rw [decide_eq_true_eq, Extension.bare_eq_empty_iff]
    simp
  unfold validateExtensions
  by_cases hempty : extensions = []
  · simp [hempty]
  · rw [if_neg hempty]
    cases hfind : extensions.find? (Extension.bare · = "") with
    | none =>
      rw [List.find?_eq_none] at hfind
      exact iff_of_true rfl ⟨hempty, fun e he => (hbare e).1 (hfind e he)⟩
    | some extension =>
      have hmem := List.mem_of_find?_eq_some hfind
      have hdots := List.find?_some hfind
      refine iff_of_false (by simp) fun h => ?_
      exact (hbare extension).2 (h.2 extension hmem) hdots

/-- The checks are made one behind the other, so that each can be taken off in front. -/
theorem validateTool_eq (id : String) (tool : ToolConfig) : validateTool id tool =
    ((Registry.resolve id).mapError Mistake.unknownTool >>= fun _ =>
      tool.extensions?.elim (.ok ()) (validateExtensions id) >>= fun _ =>
      if tool.dir?.any Text.isBlankText then .error (.blankDir id) else .ok ()) := by
  unfold validateTool
  cases tool.extensions? <;> rfl

/-- What is said about a tool is in order if the tool exists, its extensions are in order and its
directory is not blank, as far as they are given. -/
theorem validateTool_eq_ok_iff {id : String} {tool : ToolConfig} :
    validateTool id tool = .ok () ↔ (Registry.get? id).isSome ∧
      (∀ extensions, tool.extensions? = some extensions →
        validateExtensions id extensions = .ok ()) ∧
      (tool.dir?.any Text.isBlankText) = false := by
  have hresolve : (∃ entry, (Registry.resolve id).mapError Mistake.unknownTool = .ok entry) ↔
      (Registry.get? id).isSome := by
    unfold Registry.resolve
    cases Registry.get? id <;> simp [Except.mapError]
  have hextensions : tool.extensions?.elim (.ok ()) (validateExtensions id) = .ok () ↔
      ∀ extensions, tool.extensions? = some extensions →
        validateExtensions id extensions = .ok () := by
    cases tool.extensions? <;> simp
  have hdir : (if tool.dir?.any Text.isBlankText then .error (.blankDir id) else .ok ()) =
      (.ok () : Except Mistake Unit) ↔ tool.dir?.any Text.isBlankText = false := by
    cases tool.dir?.any Text.isBlankText <;> simp
  rw [validateTool_eq, bind_eq_ok_iff, ← hresolve, ← hextensions, ← hdir]
  simp only [check_bind_eq_ok_iff, exists_and_right]

/-- A settings file is in order if all that it says about tools is. -/
theorem validate_eq_ok_iff {config : Config} :
    config.validate = .ok () ↔
      ∀ entry ∈ config.tools.entries, validateTool entry.1 entry.2 = .ok () := by
  rw [validate]
  induction config.tools.entries with
  | nil => simp; rfl
  | cons entry rest ih =>
    have hsteps : ∀ check : String × ToolConfig → Except Mistake Unit,
        (entry :: rest).forM check = (check entry >>= fun _ => rest.forM check) := fun _ => rfl
    rw [hsteps, check_bind_eq_ok_iff, List.forall_mem_cons, ← ih]

theorem any_isBlankText_iff {dir? : Option String} : dir?.any Text.isBlankText = true ↔
    ∃ dir, dir? = some dir ∧ ∀ c ∈ dir.toList, Text.isBlank c = true := by
  cases dir? <;> simp [Text.isBlankText]

theorem validateTool_eq_ok_iff_isInOrder {id : String} {tool : ToolConfig} :
    validateTool id tool = .ok () ↔ tool.IsInOrder id := by
  have hdir : tool.dir?.any Text.isBlankText = false ↔
      ∀ dir, tool.dir? = some dir → ∃ c ∈ dir.toList, Text.isBlank c = false := by
    rw [← Bool.not_eq_true, any_isBlankText_iff]
    simp
  rw [validateTool_eq_ok_iff, Registry.isSome_get?_iff, hdir]
  simp only [validateExtensions_eq_ok_iff]
  exact ⟨fun ⟨hid, hextensions, hdir⟩ => ⟨hid, hextensions, hdir⟩,
    fun h => ⟨h.registered, h.extensions, h.dir⟩⟩

/-! ## First mistakes -/

theorem validateExtensions_eq_error_iff {id : String} {extensions : List String}
    {mistake : Mistake} : validateExtensions id extensions = .error mistake ↔
      extensions = [] ∧ mistake = .noExtensions id ∨
      ∃ front extension rest, extensions = front ++ extension :: rest ∧
        (∀ other ∈ front, ∃ c ∈ other.toList, c ≠ '.') ∧ (∀ c ∈ extension.toList, c = '.') ∧
        mistake = .emptyExtension id extension := by
  have hfind : ∀ extension, extensions.find? (Extension.bare · = "") = some extension ↔
      ∃ front rest, extensions = front ++ extension :: rest ∧
        (∀ other ∈ front, ∃ c ∈ other.toList, c ≠ '.') ∧ ∀ c ∈ extension.toList, c = '.' := by
    intro extension
    rw [List.find?_eq_some_iff_append]
    simp only [Bool.not_eq_true', decide_eq_true_eq, decide_eq_false_iff_not,
      Extension.bare_eq_empty_iff, not_forall, exists_prop]
    exact ⟨fun ⟨hdots, front, rest, h, hfront⟩ => ⟨front, rest, h, hfront, hdots⟩,
      fun ⟨front, rest, h, hfront, hdots⟩ => ⟨hdots, front, rest, h, hfront⟩⟩
  unfold validateExtensions
  by_cases hempty : extensions = []
  · simp [hempty, eq_comm]
  · rw [if_neg hempty]
    constructor
    · intro h
      split at h
      · next extension hextension =>
        obtain ⟨front, rest, hextensions, hfront, hdots⟩ := (hfind extension).1 hextension
        exact .inr ⟨front, extension, rest, hextensions, hfront, hdots, (Except.error.inj h).symm⟩
      · cases h
    · rintro (⟨hnil, -⟩ | ⟨front, extension, rest, hextensions, hfront, hdots, rfl⟩)
      · exact absurd hnil hempty
      · rw [(hfind extension).2 ⟨front, rest, hextensions, hfront, hdots⟩]

/-- The mistake that is found in what is said about a tool is the first one. -/
theorem validateTool_eq_error_iff {id : String} {tool : ToolConfig} {mistake : Mistake} :
    validateTool id tool = .error mistake ↔ mistake.IsFirstIn tool id := by
  have hpasses : tool.extensions?.elim (.ok ()) (validateExtensions id) = .ok () ↔
      ∀ extensions, tool.extensions? = some extensions →
        extensions ≠ [] ∧ ∀ extension ∈ extensions, ∃ c ∈ extension.toList, c ≠ '.' := by
    cases tool.extensions? <;> simp [validateExtensions_eq_ok_iff]
  have hfails : tool.extensions?.elim (.ok ()) (validateExtensions id) = .error mistake ↔
      ∃ extensions, tool.extensions? = some extensions ∧
        validateExtensions id extensions = .error mistake := by
    cases tool.extensions? <;> simp
  have hlast : (if tool.dir?.any Text.isBlankText then .error (.blankDir id) else .ok ()) =
      (.error mistake : Except Mistake Unit) ↔
      (∃ dir, tool.dir? = some dir ∧ ∀ c ∈ dir.toList, Text.isBlank c = true) ∧
        mistake = .blankDir id := by
    rw [← any_isBlankText_iff]
    cases tool.dir?.any Text.isBlankText <;> simp [eq_comm]
  rw [validateTool_eq, bind_eq_error_iff, mapError_eq_error_iff]
  simp only [mapError_eq_ok_iff, exists_and_right, Registry.exists_resolve_eq_ok_iff,
    Registry.resolve_eq_error_iff, check_bind_eq_error_iff, hpasses, hfails, hlast,
    validateExtensions_eq_error_iff]
  constructor
  · rintro (⟨e, ⟨rfl, hid⟩, rfl⟩ | ⟨hid, ⟨extensions, hext, hcases⟩ | ⟨hext, hcases⟩⟩)
    · exact .unknownTool hid
    · rcases hcases with ⟨rfl, rfl⟩ | ⟨front, extension, ⟨rest, rfl⟩, hfront, hdots, rfl⟩
      · exact .noExtensions hid hext
      · exact .emptyExtension hid hext hfront hdots
    · obtain ⟨⟨dir, hdir, hblank⟩, rfl⟩ := hcases
      exact .blankDir hid hext hdir hblank
  · intro h
    cases h with
    | unknownTool hid => exact .inl ⟨_, ⟨rfl, hid⟩, rfl⟩
    | noExtensions hid hext => exact .inr ⟨hid, .inl ⟨_, hext, .inl ⟨rfl, rfl⟩⟩⟩
    | emptyExtension hid hext hfront hdots =>
      exact .inr ⟨hid, .inl ⟨_, hext, .inr ⟨_, _, ⟨_, rfl⟩, hfront, hdots, rfl⟩⟩⟩
    | blankDir hid hext hdir hblank => exact .inr ⟨hid, .inr ⟨hext, ⟨_, hdir, hblank⟩, rfl⟩⟩

/-- The wording of a mistake names the tool. -/
theorem Mistake.IsFirstIn.quoted_infix_message {id : String} {tool : ToolConfig} {mistake : Mistake}
    (h : mistake.IsFirstIn tool id) : (Text.quoted id).toList <:+: mistake.message.toList := by
  have hinfix : ∀ front rest : String,
      (Text.quoted id).toList <:+: (front ++ Text.quoted id ++ rest).toList := by
    intro front rest
    rw [String.toList_append, String.toList_append]
    exact ⟨front.toList, rest.toList, rfl⟩
  cases h with
  | unknownTool =>
    unfold Mistake.message UnknownTool.message
    generalize ", ".intercalate Registry.ids = available
    dsimp only
    rw [String.append_assoc, String.append_assoc]
    exact hinfix _ _
  | noExtensions => exact hinfix _ _
  | emptyExtension =>
    rw [Mistake.message, String.append_assoc]
    exact hinfix _ _
  | blankDir => exact hinfix _ _

theorem validate_eq_ok_iff_isInOrder {config : Config} :
    config.validate = .ok () ↔ ∀ entry ∈ config.tools.entries, entry.2.IsInOrder entry.1 := by
  simp only [validate_eq_ok_iff, validateTool_eq_ok_iff_isInOrder]

/-- The mistake that is found in a settings file is the first one of the first tool that has any, in
ascending order of identifiers. -/
theorem validate_eq_error_iff {config : Config} {mistake : Mistake} :
    config.validate = .error mistake ↔ ∃ id tool, (id, tool) ∈ config.tools.entries ∧
      mistake.IsFirstIn tool id ∧
      ∀ entry ∈ config.tools.entries, entry.1 < id → entry.2.IsInOrder entry.1 := by
  have hascending := config.tools.ascending
  rw [validate, forM_eq_error_iff]
  generalize config.tools.entries = entries at hascending ⊢
  constructor
  · rintro ⟨front, ⟨id, tool⟩, rest, rfl, hfront, hmistake⟩
    refine ⟨id, tool, by simp, validateTool_eq_error_iff.1 hmistake, fun entry hentry hlt => ?_⟩
    rcases List.mem_append.1 hentry with hmem | hmem
    · exact validateTool_eq_ok_iff_isInOrder.1 (hfront entry hmem)
    · -- Nothing from the first bad tool on is below it.
      have hrest := List.pairwise_cons.1 (List.pairwise_append.1 hascending).2.1
      rcases List.mem_cons.1 hmem with rfl | hmem
      · exact absurd hlt (String.lt_irrefl _)
      · exact absurd hlt (String.lt_asymm (hrest.1 entry hmem))
  · rintro ⟨id, tool, hmem, hmistake, hbelow⟩
    obtain ⟨front, rest, rfl⟩ := List.append_of_mem hmem
    refine ⟨front, (id, tool), rest, rfl, fun entry hentry => ?_,
      validateTool_eq_error_iff.2 hmistake⟩
    have hlt := (List.pairwise_append.1 hascending).2.2 entry hentry (id, tool) List.mem_cons_self
    exact validateTool_eq_ok_iff_isInOrder.2
      (hbelow entry (List.mem_append_left _ hentry) hlt)

end Config

end LintRun
