import LintRun.Proofs.Dialogue.Exchange
import LintRun.Run.Basic

/-!
# Exchanges of attempts

An attempt is a dialogue that may end with a failure. For each operation it is said what an attempt
went through and how it ended.

## Main definitions

* `Attempt.EndsWith` says that an attempt goes through some exchanges and ends with a result.

## Main statements

* `Attempt.EndsWith.of_bind`: an attempt in two parts fails in the first, or goes on with the other.
* `Attempt.EndsWith.of_tryCatch`: an attempt with a handler succeeds, or goes on with the handler.
-/

namespace LintRun.Attempt

variable {α β : Type} {log : List Exchange}

/-- An attempt goes through some exchanges, and ends with a result. -/
def EndsWith (attempt : Attempt α) (log : List Exchange) (result : Except Failure α) : Prop :=
  Dialogue.EndsWith attempt.run log result

theorem endsWith_pure_iff {value : α} {result : Except Failure α} :
    EndsWith (pure value) log result ↔ log = [] ∧ result = .ok value :=
  Dialogue.endsWith_done_iff

theorem endsWith_throw_iff {failure : Failure} {result : Except Failure α} :
    EndsWith (throw failure) log result ↔ log = [] ∧ result = .error failure :=
  Dialogue.endsWith_done_iff

/-- An attempt in two parts fails in the first, or goes on with the other. -/
theorem EndsWith.of_bind {attempt : Attempt α} {f : α → Attempt β} {result : Except Failure β}
    (h : EndsWith (attempt >>= f) log result) :
    (∃ failure, attempt.EndsWith log (.error failure) ∧ result = .error failure) ∨
      ∃ front value rest, log = front ++ rest ∧ attempt.EndsWith front (.ok value) ∧
        (f value).EndsWith rest result := by
  obtain ⟨front, middle, rest, rfl, hfront, hrest⟩ := Dialogue.EndsWith.exists_of_bind h
  cases middle with
  | error failure =>
    obtain ⟨rfl, rfl⟩ := Dialogue.endsWith_done_iff.1 hrest
    refine .inl ⟨failure, ?_, rfl⟩
    rw [List.append_nil]
    exact hfront
  | ok value => exact .inr ⟨front, value, rest, rfl, hfront, hrest⟩

/-- An attempt with a handler succeeds, or fails and goes on with the handler. -/
theorem EndsWith.of_tryCatch {attempt : Attempt α} {handler : Failure → Attempt α}
    {result : Except Failure α} (h : EndsWith (tryCatch attempt handler) log result) :
    (∃ value, attempt.EndsWith log (.ok value) ∧ result = .ok value) ∨
      ∃ front failure rest, log = front ++ rest ∧ attempt.EndsWith front (.error failure) ∧
        (handler failure).EndsWith rest result := by
  obtain ⟨front, middle, rest, rfl, hfront, hrest⟩ := Dialogue.EndsWith.exists_of_bind h
  cases middle with
  | error failure => exact .inr ⟨front, failure, rest, rfl, hfront, hrest⟩
  | ok value =>
    obtain ⟨rfl, rfl⟩ := Dialogue.endsWith_done_iff.1 hrest
    refine .inl ⟨value, ?_, rfl⟩
    rw [List.append_nil]
    exact hfront

/-! ## Operations -/

variable {result : Except Failure β}

theorem EndsWith.of_lookUp {executable : String} {f : Bool → Attempt β}
    (h : EndsWith (lookUp executable >>= f) log result) :
    ∃ answer rest, log = .lookUp executable answer :: rest ∧ (f answer).EndsWith rest result := by
  cases h with
  | @lookUp _ _ answer rest _ h => exact ⟨answer, rest, rfl, h⟩

theorem EndsWith.of_call {c : Call} {f : RawOutput → Attempt β}
    (h : EndsWith (call c >>= f) log result) :
    ∃ answer rest, log = .call c answer :: rest ∧
      match answer with
      | .error failure => rest = [] ∧ result = .error failure
      | .ok output => (f output).EndsWith rest result := by
  cases h with
  | @call _ _ answer rest _ h =>
    refine ⟨answer, rest, rfl, ?_⟩
    cases answer with
    | error failure => exact Dialogue.endsWith_done_iff.1 h
    | ok output => exact h

theorem EndsWith.of_discard_call {c : Call} {result : Except Failure PUnit}
    (h : EndsWith (discard (call c)) log result) :
    ∃ answer, log = [.call c answer] ∧ result = answer.map fun _ => () := by
  have hbind : EndsWith (call c >>= fun _ => pure ()) log result := h
  obtain ⟨answer, rest, rfl, hanswer⟩ := hbind.of_call
  cases answer with
  | error failure =>
    obtain ⟨rfl, rfl⟩ := hanswer
    exact ⟨_, rfl, rfl⟩
  | ok output =>
    obtain ⟨rfl, rfl⟩ := endsWith_pure_iff.1 hanswer
    exact ⟨_, rfl, rfl⟩

theorem EndsWith.of_listFiles {dir : Path} {f : List String → Attempt β}
    (h : EndsWith (listFiles dir >>= f) log result) :
    ∃ answer rest, log = .listFiles dir answer :: rest ∧
      match answer with
      | .error failure => rest = [] ∧ result = .error failure
      | .ok files => (f files).EndsWith rest result := by
  cases h with
  | @listFiles _ _ answer rest _ h =>
    refine ⟨answer, rest, rfl, ?_⟩
    cases answer with
    | error failure => exact Dialogue.endsWith_done_iff.1 h
    | ok files => exact h

theorem EndsWith.of_canonical {dir : Path} {f : Option Path → Attempt β}
    (h : EndsWith (canonical dir >>= f) log result) :
    ∃ answer rest, log = .canonical dir answer :: rest ∧ (f answer).EndsWith rest result := by
  cases h with
  | @canonical _ _ answer rest _ h => exact ⟨answer, rest, rfl, h⟩

theorem EndsWith.of_notify {notice : Notice} {f : Unit → Attempt β}
    (h : EndsWith (notify notice >>= f) log result) :
    ∃ rest, log = .notice notice :: rest ∧ (f ()).EndsWith rest result := by
  cases h with
  | @notify _ _ rest _ h => exact ⟨rest, rfl, h⟩

end LintRun.Attempt
