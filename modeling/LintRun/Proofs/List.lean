import Mathlib.Data.List.Forall2
import Mathlib.Data.List.Nodup
import Mathlib.Data.List.TakeWhile

/-!
# Lists

Facts about lists that are related entry by entry, about lists in the order of numbers, and about
runs at the ends of a list.
-/

namespace LintRun

/-- What is related to a list of two parts has two parts as well. -/
theorem exists_of_forall₂_append {α β : Type} {R : α → β → Prop} {front rest : List α}
    {l : List β} (h : List.Forall₂ R (front ++ rest) l) :
    ∃ l₁ l₂, l = l₁ ++ l₂ ∧ List.Forall₂ R front l₁ ∧ List.Forall₂ R rest l₂ :=
  ⟨l.take front.length, l.drop front.length, (List.take_append_drop _ _).symm,
    (List.forall₂_take_append l front rest h.flip).flip,
    (List.forall₂_drop_append l front rest h.flip).flip⟩

/-- Every entry of the one list is related to some entry of the other. -/
theorem exists_of_mem_forall₂ {α β : Type} {R : α → β → Prop} {l : List α} {l' : List β}
    (h : List.Forall₂ R l l') {a : α} (ha : a ∈ l) : ∃ b, R a b := by
  induction h with
  | nil => cases ha
  | @cons _ b _ _ h _ ih =>
    rcases List.mem_cons.1 ha with rfl | ha
    · exact ⟨b, h⟩
    · exact ih ha

/-- A relation can be changed as long as it is for the entries of the list. -/
theorem forall₂_imp_of_mem {α β : Type} {R S : α → β → Prop} {l : List α} {l' : List β}
    (h : List.Forall₂ R l l') (himp : ∀ a ∈ l, ∀ b, R a b → S a b) : List.Forall₂ S l l' := by
  induction h with
  | nil => exact .nil
  | cons h _ ih =>
    refine .cons (himp _ List.mem_cons_self _ h) ?_
    exact ih fun a ha => himp a (List.mem_cons_of_mem _ ha)

/-- Two lists that are related to one list in between are related to each other. -/
theorem forall₂_comp {α β γ : Type} {R : α → β → Prop} {S : β → γ → Prop} {T : α → γ → Prop}
    {l : List α} {m : List β} {n : List γ} (h : List.Forall₂ R l m) (h' : List.Forall₂ S m n)
    (hcomp : ∀ a b c, R a b → S b c → T a c) : List.Forall₂ T l n := by
  induction h generalizing n with
  | nil =>
    cases h'
    exact .nil
  | cons h _ ih =>
    cases h' with
    | cons hd tl => exact .cons (hcomp _ _ _ h hd) (ih tl)

/-- Sorting by numbers finds the one list that is in their order. -/
theorem mergeSort_eq_of_perm {α : Type} {l l' : List (α × Nat)} (h : l.Perm l')
    (hsorted : (l'.map Prod.snd).Pairwise (· < ·)) :
    (l.mergeSort fun a b => a.2 ≤ b.2) = l' := by
  have hnodup : (l'.map Prod.snd).Nodup := hsorted.imp fun hlt => Nat.ne_of_lt hlt
  have hperm := (List.mergeSort_perm l fun a b => a.2 ≤ b.2).trans h
  refine hperm.eq_of_pairwise ?_ ?_ ((List.pairwise_map.1 hsorted).imp Nat.le_of_lt)
  · intro a b ha hb hab hba
    exact List.inj_on_of_nodup_map hnodup (hperm.mem_iff.1 ha) hb (Nat.le_antisymm hab hba)
  · have hpairwise : (l.mergeSort fun a b => a.2 ≤ b.2).Pairwise
        fun a b => decide (a.2 ≤ b.2) = true := by
      refine List.pairwise_mergeSort (fun a b c hab hbc => ?_) (fun a b => ?_) l
      · simp only [decide_eq_true_eq] at hab hbc ⊢
        exact Nat.le_trans hab hbc
      · simpa using Nat.le_total a.2 b.2
    simpa using hpairwise

/-- Sorting by one property puts what has it in front, and changes nothing else in the order. -/
theorem mergeSort_eq_filter_append_filter {α : Type} (p : α → Bool) (l : List α) :
    (l.mergeSort fun a b => p a || !p b) = l.filter p ++ l.filter (!p ·) := by
  have htrans : ∀ a b c : α, (p a || !p b) = true → (p b || !p c) = true →
      (p a || !p c) = true := by
    intro a b c
    cases p a <;> cases p b <;> cases p c <;> simp
  have htotal : ∀ a b : α, ((p a || !p b) || (p b || !p a)) = true := by
    intro a b
    cases p a <;> cases p b <;> rfl
  have hsplit : ∀ m : List α, m.Pairwise (fun a b => (p a || !p b) = true) →
      m = m.filter p ++ m.filter (!p ·) := by
    intro m hm
    induction hm with
    | nil => rfl
    | @cons a m ha _ ih =>
      cases hp : p a with
      | true =>
        rw [List.filter_cons_of_pos hp, List.filter_cons_of_neg (by simp [hp]), List.cons_append,
          ← ih]
      | false =>
        have hnone : ∀ b ∈ m, ¬ p b = true := fun b hb => by simpa [hp] using ha b hb
        rw [List.filter_cons_of_neg (by simp [hp]), List.filter_cons_of_pos (by simp [hp]),
          List.filter_eq_nil_iff.2 hnone, List.filter_eq_self.2 fun b hb => by simp [hnone b hb],
          List.nil_append]
  -- Each of the two parts is in order as it stands, so that a stable sort keeps it.
  have hkept : ∀ q : α → Bool, (l.filter q).Pairwise (fun a b => (p a || !p b) = true) →
      (l.mergeSort fun a b => p a || !p b).filter q = l.filter q := by
    intro q hq
    have hsublist := (List.sublist_mergeSort htrans htotal hq List.filter_sublist).filter q
    rw [List.filter_filter] at hsublist
    simp only [Bool.and_self] at hsublist
    exact (hsublist.eq_of_length ((List.mergeSort_perm l _).filter q).length_eq.symm).symm
  rw [hsplit _ (List.pairwise_mergeSort htrans htotal l), hkept, hkept]
  · refine List.pairwise_of_forall_mem_list fun a _ b hb => ?_
    rw [(List.mem_filter.1 hb).2, Bool.or_true]
  · refine List.pairwise_of_forall_mem_list fun a ha _ _ => ?_
    rw [(List.mem_filter.1 ha).2, Bool.true_or]

/-- A run at the front goes up to the first entry that does not belong to it. -/
theorem takeWhile_append_of_stop {α : Type} {p : α → Bool} {run rest : List α}
    (hrun : ∀ a ∈ run, p a = true) (hrest : ∀ a, rest.head? = some a → p a = false) :
    (run ++ rest).takeWhile p = run ∧ (run ++ rest).dropWhile p = rest := by
  rw [List.takeWhile_append_of_pos hrun, List.dropWhile_append_of_pos hrun]
  cases rest with
  | nil => simp
  | cons a rest => simp [hrest a rfl]

/-- Runs of one kind at the ends of two lists are the same if each starts behind something else. -/
theorem eq_of_append_run_suffix {α : Type} {p : α → Bool} {front front' run run' : List α} {a b : α}
    (hrun : ∀ c ∈ run, p c = true) (hrun' : ∀ c ∈ run', p c = true) (ha : p a = false)
    (hb : p b = false) (h : front ++ a :: run <:+ front' ++ b :: run') :
    run = run' ∧ front ++ [a] <:+ front' ++ [b] := by
  obtain ⟨more, hmore⟩ := h
  have hends : run.reverse ++ (more ++ front ++ [a]).reverse =
      run'.reverse ++ (front' ++ [b]).reverse := by
    rw [← List.reverse_append, ← List.reverse_append, List.reverse_inj]
    simpa using hmore
  have htake := congrArg (List.takeWhile p) hends
  rw [(takeWhile_append_of_stop (by simpa using hrun) (by simpa using ha)).1,
    (takeWhile_append_of_stop (by simpa using hrun') (by simpa using hb)).1,
    List.reverse_inj] at htake
  subst htake
  rw [List.append_cancel_left_eq, List.reverse_inj] at hends
  exact ⟨rfl, more, by rw [← List.append_assoc, hends]⟩

end LintRun
