import Mathlib.Data.List.Basic

/-!
# Logs

Several parties do something, and one log tells all of it in order. Each entry carries the place of
its party.

## Main definitions

* `Log.part` is what the party at a place did.
* `Log.inOrder` tells what the parties at some places did one after the other.
-/

namespace LintRun

/-- Entries with the places of their parties. -/
abbrev Log (ε : Type) := List (Nat × ε)

namespace Log

variable {ε : Type}

/-- The log of one party alone. -/
def own (place : Nat) (entries : List ε) : Log ε :=
  entries.map (Prod.mk place)

/-- What the party at a place did. -/
def part (log : Log ε) (place : Nat) : List ε :=
  (log.filter (·.1 = place)).map Prod.snd

/-- What the parties at some places did, one after the other and each without a break. -/
def inOrder (log : Log ε) (places : List Nat) : Log ε :=
  places.flatMap fun place => log.filter (·.1 = place)

@[simp]
theorem map_snd_own (place : Nat) (entries : List ε) :
    (own place entries).map Prod.snd = entries := by
  simp [own, Function.comp_def]

theorem fst_eq_of_mem_own {place : Nat} {entries : List ε} {entry : Nat × ε}
    (h : entry ∈ own place entries) : entry.1 = place := by
  obtain ⟨e, -, rfl⟩ := List.mem_map.1 h
  rfl

@[simp]
theorem filter_own_self (place : Nat) (entries : List ε) :
    (own place entries).filter (·.1 = place) = own place entries := by
  rw [List.filter_eq_self]
  intro entry hentry
  simpa using fst_eq_of_mem_own hentry

theorem filter_own_of_ne {place other : Nat} (h : place ≠ other) (entries : List ε) :
    (own place entries).filter (·.1 = other) = [] := by
  rw [List.filter_eq_nil_iff]
  intro entry hentry
  have hplace := fst_eq_of_mem_own hentry
  simpa [hplace] using h

@[simp]
theorem part_append (front rest : Log ε) (place : Nat) :
    part (front ++ rest) place = part front place ++ part rest place := by
  simp [part]

@[simp]
theorem part_own_self (place : Nat) (entries : List ε) :
    part (own place entries) place = entries := by
  simp [part]

theorem part_own_of_ne {place other : Nat} (h : place ≠ other) (entries : List ε) :
    part (own place entries) other = [] := by
  rw [part, filter_own_of_ne h, List.map_nil]

theorem filter_eq_nil {log : Log ε} {place : Nat} (h : ∀ entry ∈ log, entry.1 ≠ place) :
    log.filter (·.1 = place) = [] := by
  rw [List.filter_eq_nil_iff]
  intro entry hentry
  simpa using h entry hentry

theorem part_eq_nil {log : Log ε} {place : Nat} (h : ∀ entry ∈ log, entry.1 ≠ place) :
    part log place = [] := by
  rw [part, filter_eq_nil h, List.map_nil]

theorem mem_of_mem_part {log : Log ε} {place : Nat} {e : ε} (h : e ∈ log.part place) :
    e ∈ log.map Prod.snd := by
  obtain ⟨entry, hentry, rfl⟩ := List.mem_map.1 h
  exact List.mem_map_of_mem (List.mem_filter.1 hentry).1

@[simp]
theorem inOrder_cons (log : Log ε) (place : Nat) (places : List Nat) :
    log.inOrder (place :: places) = log.filter (·.1 = place) ++ log.inOrder places :=
  rfl

theorem mem_inOrder {log : Log ε} {places : List Nat} {entry : Nat × ε} :
    entry ∈ log.inOrder places ↔ entry ∈ log ∧ entry.1 ∈ places := by
  simp only [inOrder, List.mem_flatMap, List.mem_filter, decide_eq_true_eq]
  constructor
  · rintro ⟨place, hplace, hentry, rfl⟩
    exact ⟨hentry, hplace⟩
  · rintro ⟨hentry, hplace⟩
    exact ⟨entry.1, hplace, hentry, rfl⟩

/-- What holds of the place of one party, and of all places of a log, holds of both together. -/
theorem forall_mem_own_append {p : Nat → Prop} {log : Log ε} {place : Nat} {front : List ε}
    (hplace : p place) (hlog : ∀ entry ∈ log, p entry.1) :
    ∀ entry ∈ own place front ++ log, p entry.1 := by
  intro entry hentry
  rcases List.mem_append.1 hentry with hentry | hentry
  · rw [fst_eq_of_mem_own hentry]
    exact hplace
  · exact hlog entry hentry

/-- What other parties do later does not matter. -/
theorem inOrder_append_left {front rest : Log ε} {places : List Nat}
    (h : ∀ entry ∈ rest, entry.1 ∉ places) :
    inOrder (front ++ rest) places = front.inOrder places := by
  refine List.flatMap_congr fun place hplace => ?_
  have hrest : rest.filter (·.1 = place) = [] := by
    refine filter_eq_nil fun entry hentry heq => h entry hentry ?_
    rw [heq]
    exact hplace
  rw [List.filter_append, hrest, List.append_nil]

/-- What other parties did before does not matter. -/
theorem inOrder_append_right {front rest : Log ε} {places : List Nat}
    (h : ∀ entry ∈ front, entry.1 ∉ places) :
    inOrder (front ++ rest) places = rest.inOrder places := by
  refine List.flatMap_congr fun place hplace => ?_
  have hfront : front.filter (·.1 = place) = [] := by
    refine filter_eq_nil fun entry hentry heq => h entry hentry ?_
    rw [heq]
    exact hplace
  rw [List.filter_append, hfront, List.nil_append]

/-- One party in front of an order of others makes an order with them. -/
theorem inOrder_own_append {log : Log ε} {place : Nat} {places : List Nat} (front : List ε)
    (hplace : place ∉ places) (hlog : ∀ entry ∈ log, entry.1 ∈ places) :
    inOrder (own place front ++ log) (place :: places) = own place front ++ log.inOrder places := by
  have hlater : ∀ entry ∈ log, entry.1 ≠ place := by
    rintro entry hentry rfl
    exact hplace (hlog entry hentry)
  have hfront : ∀ entry ∈ own place front, entry.1 ∉ places := by
    intro entry hentry
    rw [fst_eq_of_mem_own hentry]
    exact hplace
  rw [inOrder_cons, List.filter_append, filter_own_self, filter_eq_nil hlater, List.append_nil,
    inOrder_append_right hfront]

/-- What a party in an order did stands there without a break. -/
theorem filter_isInfix_inOrder {log : Log ε} {places : List Nat} {place : Nat}
    (h : place ∈ places) : log.filter (·.1 = place) <:+: log.inOrder places := by
  obtain ⟨before, after, rfl⟩ := List.append_of_mem h
  refine ⟨log.inOrder before, log.inOrder after, ?_⟩
  rw [inOrder, inOrder, inOrder, List.flatMap_append, List.flatMap_cons, List.append_assoc]

/-- If what a party did stands without a break, nothing of the others stands in between. -/
theorem fst_eq_of_between {log : Log ε} {place : Nat} (h : log.filter (·.1 = place) <:+: log)
    {front between rest : Log ε} {a b : Nat × ε}
    (hlog : log = front ++ a :: (between ++ b :: rest)) (ha : a.1 = place) (hb : b.1 = place) :
    ∀ entry ∈ between, entry.1 = place := by
  obtain ⟨before, after, hwhole⟩ := h
  -- Nothing of the party is left over on either side.
  have hsides : before.filter (·.1 = place) = [] ∧ after.filter (·.1 = place) = [] := by
    have hfilter := congrArg (List.filter (·.1 = place)) hwhole
    have hlength := congrArg List.length hfilter
    simp only [List.filter_append, List.filter_filter, Bool.and_self, List.length_append]
      at hlength
    exact ⟨List.length_eq_zero_iff.1 (by omega), List.length_eq_zero_iff.1 (by omega)⟩
  have hbefore : a ∉ before := by
    intro hmem
    exact List.filter_eq_nil_iff.1 hsides.1 a hmem (decide_eq_true ha)
  have hafter : b ∉ after := by
    intro hmem
    exact List.filter_eq_nil_iff.1 hsides.2 b hmem (decide_eq_true hb)
  have hsplit : (before ++ log.filter (·.1 = place)) ++ after =
      (front ++ a :: between) ++ b :: rest := by
    rw [hwhole, hlog]
    simp
  intro entry hentry
  suffices hmem : entry ∈ log.filter (·.1 = place) by
    simpa using (List.mem_filter.1 hmem).2
  rcases List.append_eq_append_iff.1 hsplit with ⟨d, -, hd⟩ | ⟨d, hd, -⟩
  · exact absurd (hd ▸ List.mem_append_right d List.mem_cons_self) hafter
  · rw [List.append_assoc] at hd
    rcases List.append_eq_append_iff.1 hd with ⟨c, -, hc⟩ | ⟨c, hc, hcons⟩
    · rw [hc]
      simp [hentry]
    · cases c with
      | nil =>
        rw [← List.nil_append (log.filter _), ← hcons]
        simp [hentry]
      | cons e c =>
        obtain ⟨rfl, -⟩ := List.cons.inj hcons
        exact absurd (hc ▸ List.mem_append_right front List.mem_cons_self) hbefore

end Log

end LintRun
