import LintRun.Dialogue.Schedule
import LintRun.Proofs.Dialogue.Exchange
import LintRun.Proofs.List
import LintRun.Proofs.Log

/-!
# Exchanges of several dialogues

However dialogues are scheduled, each one goes through exchanges as if it were alone. One log tells
the exchanges of all of them, with the places of the dialogues.

## Main definitions

* `Dialogue.AllGoOn` says that dialogues go through their parts of a log, and what is left of them.
* `Dialogue.AllEndWith` says that nothing but values is left.

## Main statements

* `Dialogue.exists_log_of_together`: dialogues that are had together have a log.
* `Dialogue.exists_log_of_oneByOne`: dialogues that are had one by one have a log in which none is
  interrupted.
-/

namespace LintRun.Dialogue

variable {α : Type}

/-- Dialogues at places go through their parts of a log, and others are left at the places. -/
def AllGoOn (placed : List (Nat × Dialogue α)) (log : Log Exchange)
    (left : List (Nat × Dialogue α)) : Prop :=
  List.Forall₂ (fun p q => p.1 = q.1 ∧ p.2.GoesOn (log.part p.1) q.2) placed left

/-- A log tells how the dialogues at some places end with some values. -/
structure AllEndWith (placed : List (Nat × Dialogue α)) (log : Log Exchange)
    (values : List α) : Prop where
  mem_places : ∀ entry ∈ log, entry.1 ∈ placed.map Prod.fst
  endsWith : List.Forall₂ (fun p value => p.2.EndsWith (log.part p.1) value) placed values

/-- A dialogue goes through its first step. -/
theorem goesOn_of_step {dialogue left : Dialogue α} {log : List Exchange}
    (h : dialogue.step.EndsWith log left) : dialogue.GoesOn log left := by
  cases dialogue with
  | done value =>
    obtain ⟨rfl, rfl⟩ := endsWith_done_iff.1 h
    exact .refl _
  | lookUp executable next =>
    cases h with
    | lookUp h =>
      obtain ⟨rfl, rfl⟩ := endsWith_done_iff.1 h
      exact .lookUp (.refl _)
  | call c next =>
    cases h with
    | call h =>
      obtain ⟨rfl, rfl⟩ := endsWith_done_iff.1 h
      exact .call (.refl _)
  | listFiles dir next =>
    cases h with
    | listFiles h =>
      obtain ⟨rfl, rfl⟩ := endsWith_done_iff.1 h
      exact .listFiles (.refl _)
  | canonical dir next =>
    cases h with
    | canonical h =>
      obtain ⟨rfl, rfl⟩ := endsWith_done_iff.1 h
      exact .canonical (.refl _)
  | notify notice next =>
    cases h with
    | notify h =>
      obtain ⟨rfl, rfl⟩ := endsWith_done_iff.1 h
      exact .notify (.refl _)

theorem AllGoOn.refl (placed : List (Nat × Dialogue α)) : AllGoOn placed [] placed := by
  refine List.forall₂_same.2 fun p _ => ⟨rfl, ?_⟩
  exact .refl _

/-- One dialogue goes on first. The others are as they were. -/
theorem AllGoOn.of_set {placed left : List (Nat × Dialogue α)} {log : Log Exchange}
    (hplaces : (placed.map Prod.fst).Nodup) {number place : Nat} {dialogue middle : Dialogue α}
    (hget : placed[number]? = some (place, dialogue)) {front : List Exchange}
    (hfront : dialogue.GoesOn front middle)
    (h : AllGoOn (placed.set number (place, middle)) log left) :
    AllGoOn placed (Log.own place front ++ log) left := by
  obtain ⟨hnumber, hdialogue⟩ := List.getElem?_eq_some_iff.1 hget
  obtain ⟨hlength, hall⟩ := List.forall₂_iff_get.1 h
  rw [List.length_set] at hlength
  refine List.forall₂_iff_get.2 ⟨hlength, fun i hi hi' => ?_⟩
  have hi'' : i < (placed.set number (place, middle)).length := by simpa using hi
  obtain ⟨heq, hleft⟩ := hall i hi'' hi'
  simp only [List.get_eq_getElem, List.getElem_set] at heq hleft ⊢
  -- The new entries are in front of the part at `place`, and in no other part.
  by_cases hin : number = i
  · subst hin
    rw [if_pos rfl] at heq hleft
    rw [hdialogue, Log.part_append, Log.part_own_self]
    exact ⟨heq, hfront.trans hleft⟩
  · rw [if_neg hin] at heq hleft
    have hne : place ≠ placed[i].1 := by
      intro hplace
      have hlt : number < (placed.map Prod.fst).length := by simpa using hnumber
      have hlt' : i < (placed.map Prod.fst).length := by simpa using hi
      have heq : (placed.map Prod.fst)[number] = (placed.map Prod.fst)[i] := by
        rw [List.getElem_map, List.getElem_map, hdialogue]
        exact hplace
      exact hin ((List.Nodup.getElem_inj_iff hplaces).1 heq)
    rw [Log.part_append, Log.part_own_of_ne hne, List.nil_append]
    exact ⟨heq, hleft⟩

theorem AllGoOn.map_fst_eq {placed left : List (Nat × Dialogue α)} {log : Log Exchange}
    (h : AllGoOn placed log left) : left.map Prod.fst = placed.map Prod.fst := by
  induction h with
  | nil => rfl
  | cons h _ ih => rw [List.map_cons, List.map_cons, ih, h.1]

/-- A dialogue at a place can be exchanged without a change of the places. -/
theorem map_fst_set {placed : List (Nat × Dialogue α)} {number place : Nat} {dialogue : Dialogue α}
    (hget : placed[number]? = some (place, dialogue)) (middle : Dialogue α) :
    (placed.set number (place, middle)).map Prod.fst = placed.map Prod.fst := by
  obtain ⟨hnumber, hdialogue⟩ := List.getElem?_eq_some_iff.1 hget
  have hlt : number < (placed.map Prod.fst).length := by simpa using hnumber
  have hplace : (placed.map Prod.fst)[number] = place := by
    rw [List.getElem_map, hdialogue]
  rw [List.map_set, ← hplace, List.set_getElem_self]

/-- Dialogues that are interleaved have a log of what they went through. -/
theorem exists_log_of_interleave {schedule : List Nat} {placed : List (Nat × Dialogue α)}
    (hplaces : (placed.map Prod.fst).Nodup) {exchanges : List Exchange} {left : List (Dialogue α)}
    (h : (interleave schedule (placed.map Prod.snd)).EndsWith exchanges left) :
    ∃ (log : Log Exchange) (rest : List (Nat × Dialogue α)), log.map Prod.snd = exchanges ∧
      rest.map Prod.snd = left ∧ (∀ entry ∈ log, entry.1 ∈ placed.map Prod.fst) ∧
      AllGoOn placed log rest := by
  -- Every number in the schedule puts one step in front of the log, at the place it leads to.
  induction schedule generalizing placed exchanges with
  | nil =>
    obtain ⟨rfl, rfl⟩ := endsWith_done_iff.1 h
    exact ⟨[], placed, rfl, rfl, by simp, .refl placed⟩
  | cons number schedule ih =>
    rw [interleave, List.getElem?_map] at h
    cases hget : placed[number]? with
    | none =>
      rw [hget] at h
      exact ih hplaces h
    | some p =>
      obtain ⟨place, dialogue⟩ := p
      rw [hget] at h
      obtain ⟨front, middle, rest, rfl, hfront, hrest⟩ := EndsWith.exists_of_bind h
      have hset : (placed.map Prod.snd).set number middle =
          (placed.set number (place, middle)).map Prod.snd := by
        rw [List.map_set]
      have hfst := map_fst_set hget middle
      rw [hset] at hrest
      obtain ⟨log, final, hlog, hfinal, hmem, hall⟩ := ih (hfst ▸ hplaces) hrest
      rw [hfst] at hmem
      have hplace : place ∈ placed.map Prod.fst :=
        List.mem_map.2 ⟨_, List.mem_of_getElem? hget, rfl⟩
      refine ⟨Log.own place front ++ log, final, ?_, hfinal, ?_, ?_⟩
      · rw [List.map_append, Log.map_snd_own, hlog]
      · exact Log.forall_mem_own_append hplace hmem
      · exact hall.of_set hplaces hget (goesOn_of_step hfront)

/-- A dialogue at another place that ends first is told in front of the others. -/
theorem AllEndWith.cons {placed : List (Nat × Dialogue α)} {log : Log Exchange} {values : List α}
    (h : AllEndWith placed log values) {place : Nat} (hplace : place ∉ placed.map Prod.fst)
    {dialogue : Dialogue α} {front : List Exchange} {value : α}
    (hfront : dialogue.EndsWith front value) :
    AllEndWith ((place, dialogue) :: placed) (Log.own place front ++ log) (value :: values) := by
  refine ⟨?_, .cons ?_ (forall₂_imp_of_mem h.endsWith fun p hp value hvalue => ?_)⟩
  · exact Log.forall_mem_own_append List.mem_cons_self
      fun entry hentry => List.mem_cons_of_mem _ (h.mem_places entry hentry)
  · have hlater : ∀ entry ∈ log, entry.1 ≠ place := by
      rintro entry hentry rfl
      exact hplace (h.mem_places entry hentry)
    rw [Log.part_append, Log.part_own_self, Log.part_eq_nil hlater, List.append_nil]
    exact hfront
  · have hne : place ≠ p.1 := by
      rintro rfl
      exact hplace (List.mem_map.2 ⟨p, hp, rfl⟩)
    rw [Log.part_append, Log.part_own_of_ne hne, List.nil_append]
    exact hvalue

/-- Dialogues that are had one by one have a log in which none is interrupted. -/
theorem exists_log_of_oneByOne {placed : List (Nat × Dialogue α)}
    (hplaces : (placed.map Prod.fst).Nodup) {exchanges : List Exchange} {values : List α}
    (h : (oneByOne (placed.map Prod.snd)).EndsWith exchanges values) :
    ∃ log : Log Exchange, log.map Prod.snd = exchanges ∧ AllEndWith placed log values ∧
      log = log.inOrder (placed.map Prod.fst) := by
  induction placed generalizing exchanges values with
  | nil =>
    obtain ⟨rfl, rfl⟩ := endsWith_done_iff.1 h
    exact ⟨[], rfl, ⟨by simp, .nil⟩, rfl⟩
  | cons p placed ih =>
    obtain ⟨place, dialogue⟩ := p
    obtain ⟨hplace, hplaces⟩ := List.nodup_cons.1 hplaces
    obtain ⟨front, value, rest, rfl, hfront, hrest⟩ := EndsWith.exists_of_bind h
    obtain ⟨others, values, last, rfl, hothers, hlast⟩ := EndsWith.exists_of_bind hrest
    obtain ⟨rfl, rfl⟩ := endsWith_done_iff.1 hlast
    obtain ⟨log, hlog, hends, horder⟩ := ih hplaces hothers
    refine ⟨Log.own place front ++ log, ?_, hends.cons hplace hfront, ?_⟩
    · rw [List.map_append, Log.map_snd_own, hlog, List.append_nil]
    · rw [List.map_cons, Log.inOrder_own_append front hplace hends.mem_places, ← horder]

/-- Dialogues that are had together have a log. Nothing of it is interrupted if the schedule is
empty. -/
theorem exists_log_of_together {schedule : List Nat} {placed : List (Nat × Dialogue α)}
    (hplaces : (placed.map Prod.fst).Nodup) {exchanges : List Exchange} {values : List α}
    (h : (together schedule (placed.map Prod.snd)).EndsWith exchanges values) :
    ∃ log : Log Exchange, log.map Prod.snd = exchanges ∧ AllEndWith placed log values ∧
      (schedule = [] → log = log.inOrder (placed.map Prod.fst)) := by
  obtain ⟨first, left, second, rfl, hfirst, hsecond⟩ := EndsWith.exists_of_bind h
  obtain ⟨log, rest, rfl, rfl, hmem, hall⟩ := exists_log_of_interleave hplaces hfirst
  have hfst := hall.map_fst_eq
  obtain ⟨log', rfl, hends, horder⟩ := exists_log_of_oneByOne (hfst ▸ hplaces) hsecond
  rw [hfst] at horder
  refine ⟨log ++ log', List.map_append, ⟨?_, ?_⟩, ?_⟩
  · intro entry hentry
    rcases List.mem_append.1 hentry with hentry | hentry
    · exact hmem entry hentry
    · exact hfst ▸ hends.mem_places entry hentry
  · refine forall₂_comp hall hends.endsWith fun p q value hp hq => ?_
    rw [Log.part_append]
    exact hp.2.trans (hp.1 ▸ hq)
  · -- Without a schedule, all is left for the second half.
    rintro rfl
    obtain ⟨hexchanges, -⟩ := endsWith_done_iff.1 hfirst
    rw [List.map_eq_nil_iff.1 hexchanges, List.nil_append]
    exact horder

end LintRun.Dialogue
