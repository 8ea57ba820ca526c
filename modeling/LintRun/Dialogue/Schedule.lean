import LintRun.Dialogue.Basic

/-!
# Several dialogues

Dialogues can be had one after the other, or together. A schedule says which one goes on next when
they are had together.

## Main definitions

* `Dialogue.oneByOne` has dialogues one after the other.
* `Dialogue.together` has dialogues together under a schedule.
-/

namespace LintRun.Dialogue

variable {α : Type}

/-- Has dialogues one after the other. -/
def oneByOne : List (Dialogue α) → Dialogue (List α)
  | [] => done []
  | dialogue :: dialogues => do
    let value ← dialogue
    let values ← oneByOne dialogues
    return value :: values

/-- Does the first step of a dialogue, and gives what is left of it. -/
def step : Dialogue α → Dialogue (Dialogue α)
  | done value => done (done value)
  | lookUp executable next => lookUp executable fun answer => done (next answer)
  | call c next => call c fun answer => done (next answer)
  | listFiles dir next => listFiles dir fun answer => done (next answer)
  | canonical dir next => canonical dir fun answer => done (next answer)
  | notify notice next => notify notice (done next)

/-- Does one step of a dialogue for every number in a schedule, and gives what is left of the
dialogues. A number without a dialogue is skipped. -/
def interleave (schedule : List Nat) (dialogues : List (Dialogue α)) :
    Dialogue (List (Dialogue α)) :=
  match schedule with
  | [] => done dialogues
  | number :: schedule =>
    match dialogues[number]? with
    | none => interleave schedule dialogues
    | some dialogue => do
      let left ← dialogue.step
      interleave schedule (dialogues.set number left)

/-- Has dialogues together under a schedule. What is left at its end is done one after the other. -/
def together (schedule : List Nat) (dialogues : List (Dialogue α)) : Dialogue (List α) := do
  oneByOne (← interleave schedule dialogues)

end LintRun.Dialogue
