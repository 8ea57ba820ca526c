import Mathlib.Data.List.Forall2
import Mathlib.Logic.Basic

/-!
# Results that may be errors

When a computation in parts has a value, and when it has an error. A list is gone through up to the
first entry with an error.
-/

namespace LintRun

variable {ε α β : Type}

/-- A computation in two parts has a value if both parts have one. -/
theorem bind_eq_ok_iff {x : Except ε α} {f : α → Except ε β} {b : β} :
    x >>= f = .ok b ↔ ∃ a, x = .ok a ∧ f a = .ok b := by
  cases x with
  | error e => exact iff_of_false (by rintro ⟨⟩) (by simp)
  | ok a => simp [bind, Except.bind]

/-- A check and what comes behind it have a value if the check passes. -/
theorem check_bind_eq_ok_iff {x : Except ε PUnit} {f : PUnit → Except ε β} {b : β} :
    x >>= f = .ok b ↔ x = .ok () ∧ f () = .ok b := by
  rw [bind_eq_ok_iff]
  exact ⟨fun ⟨_, h⟩ => h, fun h => ⟨(), h⟩⟩

theorem bind_eq_error_iff {x : Except ε α} {f : α → Except ε β} {e : ε} :
    x >>= f = .error e ↔ x = .error e ∨ ∃ a, x = .ok a ∧ f a = .error e := by
  cases x <;> simp [bind, Except.bind]

/-- A check and what comes behind it have an error if the check has one, or if it passes and what
comes behind it has one. -/
theorem check_bind_eq_error_iff {x : Except ε PUnit} {f : PUnit → Except ε β} {e : ε} :
    x >>= f = .error e ↔ x = .error e ∨ x = .ok () ∧ f () = .error e := by
  rw [bind_eq_error_iff]
  exact or_congr_right ⟨fun ⟨_, h⟩ => h, fun h => ⟨(), h⟩⟩

theorem mapError_eq_ok_iff {ε' : Type} {x : Except ε α} {f : ε → ε'} {a : α} :
    x.mapError f = .ok a ↔ x = .ok a := by
  cases x <;> simp [Except.mapError]

theorem mapError_eq_error_iff {ε' : Type} {x : Except ε α} {f : ε → ε'} {e' : ε'} :
    x.mapError f = .error e' ↔ ∃ e, x = .error e ∧ f e = e' := by
  cases x <;> simp [Except.mapError]

theorem toOption_eq_some_iff {x : Except ε α} {a : α} : x.toOption = some a ↔ x = .ok a := by
  cases x <;> simp [Except.toOption]

/-! ## Lists -/

theorem mapM_eq_ok_iff {f : α → Except ε β} {l : List α} {l' : List β} :
    l.mapM f = .ok l' ↔ List.Forall₂ (fun a b => f a = .ok b) l l' := by
  induction l generalizing l' with
  | nil =>
    rw [List.forall₂_nil_left_iff, List.mapM_nil]
    exact ⟨fun h => (Except.ok.inj h).symm, fun h => h ▸ rfl⟩
  | cons a l ih =>
    rw [List.mapM_cons, bind_eq_ok_iff, List.forall₂_cons_left_iff]
    simp only [bind_eq_ok_iff, ih]
    constructor
    · rintro ⟨b, hb, bs, hbs, ⟨⟩⟩
      exact ⟨b, bs, hb, hbs, rfl⟩
    · rintro ⟨b, bs, hb, hbs, rfl⟩
      exact ⟨b, hb, bs, hbs, rfl⟩

/-- The error of a list is that of the first entry that has one. -/
theorem mapM_eq_error_iff {f : α → Except ε β} {l : List α} {e : ε} :
    l.mapM f = .error e ↔ ∃ front a rest, l = front ++ a :: rest ∧
      (∀ b ∈ front, ∃ c, f b = .ok c) ∧ f a = .error e := by
  induction l with
  | nil =>
    refine iff_of_false (by rintro ⟨⟩) ?_
    rintro ⟨front, a, rest, h, -⟩
    cases front <;> cases h
  | cons a l ih =>
    rw [List.mapM_cons, bind_eq_error_iff]
    constructor
    · rintro (h | ⟨c, hc, h⟩)
      · exact ⟨[], a, l, rfl, by simp, h⟩
      · rcases bind_eq_error_iff.1 h with h | ⟨_, -, ⟨⟩⟩
        obtain ⟨front, b, rest, rfl, hfront, hb⟩ := ih.1 h
        exact ⟨a :: front, b, rest, rfl, List.forall_mem_cons.2 ⟨⟨c, hc⟩, hfront⟩, hb⟩
    · rintro ⟨front, b, rest, h, hfront, hb⟩
      cases front with
      | nil =>
        obtain ⟨rfl, -⟩ := List.cons.inj h
        exact .inl hb
      | cons first front =>
        obtain ⟨rfl, rfl⟩ := List.cons.inj h
        obtain ⟨⟨c, hc⟩, hfront⟩ := List.forall_mem_cons.1 hfront
        have hrest := ih.2 ⟨front, b, rest, rfl, hfront, hb⟩
        exact .inr ⟨c, hc, bind_eq_error_iff.2 (.inl hrest)⟩

/-- Checks have the error of the first check that has one. -/
theorem forM_eq_error_iff {f : α → Except ε PUnit} {l : List α} {e : ε} :
    l.forM f = .error e ↔ ∃ front a rest, l = front ++ a :: rest ∧
      (∀ b ∈ front, f b = .ok ()) ∧ f a = .error e := by
  have hmapM : l.forM f = l.mapM f >>= fun _ => .ok () := by
    induction l with
    | nil => rfl
    | cons a l ih =>
      have hsteps : (a :: l).forM f = (f a >>= fun _ => l.forM f) := rfl
      rw [hsteps, ih, List.mapM_cons]
      cases f a <;> cases l.mapM f <;> rfl
  have hpasses : ∀ a, (∃ u, f a = .ok u) ↔ f a = .ok () :=
    fun a => ⟨fun ⟨_, h⟩ => h, fun h => ⟨(), h⟩⟩
  rw [hmapM, bind_eq_error_iff, mapM_eq_error_iff]
  simp [hpasses]

end LintRun
