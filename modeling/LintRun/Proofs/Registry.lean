import LintRun.Proofs.Except
import LintRun.Proofs.List
import LintRun.Registry

/-!
# Plans

A plan lists the entries for some identifiers, those that check in front. There is one exactly if
all identifiers are registered, and it is its own plan.

## Main definitions

* `Registry.isOf` says whether an identifier is registered for a category.
* `Registry.checksFirst` is the order of a plan.

## Main statements

* `Registry.plan_eq_ok_iff` and `Registry.plan_eq_error_iff`: the plans, and where there is none.
* `Registry.plan_map_id`: a plan is planned as it is.
-/

namespace LintRun.Registry

/-- Whether an identifier is registered for tools of a category. -/
def isOf (category : Category) (id : String) : Bool :=
  (get? id).any (·.category = category)

/-- Entries that check, and those that format behind them. -/
def checksFirst (found : List Entry) : List Entry :=
  found.filter (·.category = .check) ++ found.filter (·.category = .format)

/-! ## Identifiers -/

theorem get?_eq_some_iff {id : String} {entry : Entry} :
    get? id = some entry ↔ entry ∈ entries ∧ entry.id = id := by
  have hown : ∀ entry ∈ entries, get? entry.id = some entry := by decide
  constructor
  · intro h
    exact ⟨List.mem_of_find?_eq_some h, by simpa using List.find?_some h⟩
  · rintro ⟨hmem, rfl⟩
    exact hown entry hmem

theorem isSome_get?_iff {id : String} : (get? id).isSome ↔ id ∈ ids := by
  simp [Option.isSome_iff_exists, get?_eq_some_iff, ids]

theorem isOf_id {entry : Entry} (h : entry ∈ entries) (category : Category) :
    isOf category entry.id = decide (entry.category = category) := by
  rw [isOf, get?_eq_some_iff.2 ⟨h, rfl⟩, Option.any_some]

theorem resolve_eq_ok_iff {id : String} {entry : Entry} :
    resolve id = .ok entry ↔ entry ∈ entries ∧ entry.id = id := by
  rw [← get?_eq_some_iff, resolve]
  cases get? id <;> simp

theorem exists_resolve_eq_ok_iff {id : String} :
    (∃ entry, resolve id = .ok entry) ↔ id ∈ ids := by
  simp only [resolve_eq_ok_iff, ids, List.mem_map]

theorem resolve_eq_error_iff {id : String} {e : UnknownTool} :
    resolve id = .error e ↔ e = ⟨id⟩ ∧ id ∉ ids := by
  rw [← isSome_get?_iff, resolve]
  cases get? id <;> simp [eq_comm]

theorem mapM_resolve_eq_ok_iff {names : List String} {found : List Entry} :
    names.mapM resolve = .ok found ↔
      found.map Entry.id = names ∧ ∀ entry ∈ found, entry ∈ entries := by
  rw [mapM_eq_ok_iff]
  simp only [resolve_eq_ok_iff]
  constructor
  · intro h
    induction h with
    | nil => simp
    | cons hfirst _ ih =>
      rw [List.map_cons, hfirst.2, ih.1, List.forall_mem_cons]
      exact ⟨rfl, hfirst.1, ih.2⟩
  · rintro ⟨rfl, hfound⟩
    rw [List.forall₂_map_left_iff, List.forall₂_same]
    exact fun entry hentry => ⟨hfound entry hentry, rfl⟩

/-! ## The order of a plan -/

theorem mem_checksFirst {found : List Entry} {entry : Entry} :
    entry ∈ checksFirst found ↔ entry ∈ found := by
  rw [checksFirst, List.mem_append, List.mem_filter, List.mem_filter, ← and_or_left]
  cases entry.category <;> simp

theorem checksFirst_perm (found : List Entry) : (checksFirst found).Perm found := by
  have hformat : found.filter (·.category = .format) =
      found.filter fun entry => !decide (entry.category = .check) := by
    refine List.filter_congr fun entry _ => ?_
    cases entry.category <;> rfl
  rw [checksFirst, hformat]
  exact List.filter_append_perm _ _

theorem filter_checksFirst (category : Category) (found : List Entry) :
    (checksFirst found).filter (·.category = category) = found.filter (·.category = category) := by
  have hother : ∀ other, other ≠ category →
      (found.filter (·.category = other)).filter (·.category = category) = [] := by
    intro other hne
    rw [List.filter_eq_nil_iff]
    intro entry hentry
    simpa using (of_decide_eq_true (List.mem_filter.1 hentry).2) ▸ hne
  rw [checksFirst, List.filter_append]
  cases category with
  | check => simp [hother .format]
  | format => simp [hother .check]

theorem checksFirst_checksFirst (found : List Entry) :
    checksFirst (checksFirst found) = checksFirst found := by
  rw [checksFirst, filter_checksFirst, filter_checksFirst, checksFirst]

theorem map_id_checksFirst {found : List Entry} (h : ∀ entry ∈ found, entry ∈ entries) :
    (checksFirst found).map Entry.id =
      (found.map Entry.id).filter (isOf .check) ++ (found.map Entry.id).filter (isOf .format) := by
  have hpart : ∀ category, (found.map Entry.id).filter (isOf category) =
      (found.filter (·.category = category)).map Entry.id := by
    intro category
    rw [List.filter_map]
    exact congrArg _ (List.filter_congr fun entry hentry => isOf_id (h entry hentry) category)
  rw [checksFirst, List.map_append, hpart, hpart]

/-! ## Plans -/

theorem plan_eq (names : List String) :
    plan names = names.mapM resolve >>= fun found => .ok (checksFirst found) := by
  have hsort : ∀ found : List Entry,
      (found.mergeSort fun a b => a.category.rank ≤ b.category.rank) = checksFirst found := by
    intro found
    have hle : (fun a b : Entry => decide (a.category.rank ≤ b.category.rank)) =
        fun a b => decide (a.category = .check) || !decide (b.category = .check) := by
      funext a b
      cases a.category <;> cases b.category <;> rfl
    rw [hle, mergeSort_eq_filter_append_filter, checksFirst]
    congr 1
    refine List.filter_congr fun entry _ => ?_
    cases entry.category <;> rfl
  simp only [plan, hsort]
  rfl

theorem plan_eq_ok_iff {names : List String} {planned : List Entry} :
    plan names = .ok planned ↔ ∃ found, found.map Entry.id = names ∧
      (∀ entry ∈ found, entry ∈ entries) ∧ planned = checksFirst found := by
  rw [plan_eq, bind_eq_ok_iff]
  refine exists_congr fun found => ?_
  rw [mapM_resolve_eq_ok_iff, and_assoc, Except.ok.injEq, eq_comm (a := checksFirst found)]

/-- There is no plan if there is an identifier that is not registered. The first one is named. -/
theorem plan_eq_error_iff {names : List String} {e : UnknownTool} :
    plan names = .error e ↔ ∃ front rest, names = front ++ e.id :: rest ∧
      (∀ id ∈ front, id ∈ ids) ∧ e.id ∉ ids := by
  rw [plan_eq, bind_eq_error_iff, mapM_eq_error_iff]
  simp only [reduceCtorEq, and_false, exists_false, or_false, exists_resolve_eq_ok_iff,
    resolve_eq_error_iff]
  constructor
  · rintro ⟨front, id, rest, hnames, hfront, rfl, hid⟩
    exact ⟨front, rest, hnames, hfront, hid⟩
  · rintro ⟨front, rest, hnames, hfront, hid⟩
    exact ⟨front, e.id, rest, hnames, hfront, rfl, hid⟩

theorem exists_plan_iff {names : List String} :
    (∃ planned, plan names = .ok planned) ↔ ∀ id ∈ names, id ∈ ids := by
  constructor
  · rintro ⟨planned, h⟩ id hid
    obtain ⟨found, rfl, hfound, -⟩ := plan_eq_ok_iff.1 h
    obtain ⟨entry, hentry, rfl⟩ := List.mem_map.1 hid
    exact List.mem_map_of_mem (hfound entry hentry)
  · intro h
    cases hplan : plan names with
    | ok planned => exact ⟨planned, rfl⟩
    | error e =>
      obtain ⟨front, rest, rfl, -, hid⟩ := plan_eq_error_iff.1 hplan
      exact absurd (h e.id (by simp)) hid

variable {names : List String} {planned : List Entry}

theorem map_id_plan (h : plan names = .ok planned) :
    planned.map Entry.id = names.filter (isOf .check) ++ names.filter (isOf .format) := by
  obtain ⟨found, rfl, hfound, rfl⟩ := plan_eq_ok_iff.1 h
  exact map_id_checksFirst hfound

theorem map_id_plan_perm (h : plan names = .ok planned) : (planned.map Entry.id).Perm names := by
  obtain ⟨found, rfl, -, rfl⟩ := plan_eq_ok_iff.1 h
  exact (checksFirst_perm found).map Entry.id

theorem mem_entries_of_plan (h : plan names = .ok planned) :
    ∀ entry ∈ planned, entry ∈ entries := by
  obtain ⟨found, -, hfound, rfl⟩ := plan_eq_ok_iff.1 h
  exact fun entry hentry => hfound entry (mem_checksFirst.1 hentry)

theorem checksFirst_plan (h : plan names = .ok planned) : checksFirst planned = planned := by
  obtain ⟨found, -, -, rfl⟩ := plan_eq_ok_iff.1 h
  exact checksFirst_checksFirst found

/-- A plan is planned as it is. -/
theorem plan_map_id (h : plan names = .ok planned) : plan (planned.map Entry.id) = .ok planned :=
  plan_eq_ok_iff.2 ⟨planned, rfl, mem_entries_of_plan h, (checksFirst_plan h).symm⟩

end LintRun.Registry
