import LintRun.Notice

/-!
# Dialogues

A run asks the world around it: whether an executable is there, what a command does, which files a
directory has. A `Dialogue` is such a conversation with all its possible answers, and a `World`
gives the answers. What a run does can so be said without any world, and holds in all of them.

## Main definitions

* `Dialogue` is a conversation that ends with a value.
* `World` answers, and may change with every answer.
* `Dialogue.run` has a conversation with a world, and logs its events.
-/

namespace LintRun

/-- A command to run. -/
structure Call where
  /-- The command line. -/
  command : String
  /-- The directory to run it in. -/
  dir : Path
  /-- Whether a status other than zero is regular output and no failure. -/
  ignoresErrors : Bool
  deriving DecidableEq, Repr

/-- A conversation that ends with a value. -/
inductive Dialogue (α : Type) where
  /-- The conversation is over. -/
  | done (value : α)
  /-- Asks whether an executable is there. -/
  | lookUp (executable : String) (next : Bool → Dialogue α)
  /-- Has a command run. -/
  | call (call : Call) (next : Except Failure RawOutput → Dialogue α)
  /-- Asks for the files to lint in a directory. -/
  | listFiles (dir : Path) (next : Except Failure (List String) → Dialogue α)
  /-- Asks for the canonical path of a directory. -/
  | canonical (dir : Path) (next : Option Path → Dialogue α)
  /-- Tells the observer something. -/
  | notify (notice : Notice) (next : Dialogue α)

namespace Dialogue

/-- Goes on with the value of a conversation. -/
def bind {α β : Type} (dialogue : Dialogue α) (f : α → Dialogue β) : Dialogue β :=
  match dialogue with
  | done value => f value
  | lookUp executable next => lookUp executable fun answer => (next answer).bind f
  | call c next => call c fun answer => (next answer).bind f
  | listFiles dir next => listFiles dir fun answer => (next answer).bind f
  | canonical dir next => canonical dir fun answer => (next answer).bind f
  | notify notice next => notify notice (next.bind f)

instance : Monad Dialogue where
  pure := done
  bind := bind

end Dialogue

/-- What can be seen of a conversation from outside. -/
inductive Event where
  /-- An executable was looked up. -/
  | lookUp (executable : String)
  /-- A command was run. -/
  | call (call : Call)
  /-- The observer was told something. -/
  | notice (notice : Notice)
  deriving DecidableEq, Repr

/-- A world with states of type `σ`. -/
structure World (σ : Type) where
  /-- Says whether an executable is there. -/
  lookUp : String → StateM σ Bool
  /-- Runs a command. -/
  call : Call → StateM σ (Except Failure RawOutput)
  /-- Gives the files to lint in a directory. -/
  listFiles : Path → StateM σ (Except Failure (List String))
  /-- Gives the canonical path of a directory. -/
  canonical : Path → StateM σ (Option Path)

/-- What came of a conversation. -/
structure Course (σ α : Type) where
  /-- The value at the end. -/
  value : α
  /-- The events in order. -/
  events : List Event
  /-- The state of the world at the end. -/
  state : σ

namespace Course

/-- The course that begins with one more event. -/
def after {σ α : Type} (event : Event) (course : Course σ α) : Course σ α :=
  { course with events := event :: course.events }

end Course

namespace Dialogue

/-- Has a conversation with a world in a state. -/
def run {σ α : Type} (world : World σ) : Dialogue α → σ → Course σ α
  | done value, s => ⟨value, [], s⟩
  | lookUp executable next, s =>
    let (answer, s) := world.lookUp executable s
    ((next answer).run world s).after (.lookUp executable)
  | call c next, s =>
    let (answer, s) := world.call c s
    ((next answer).run world s).after (.call c)
  | listFiles dir next, s =>
    let (answer, s) := world.listFiles dir s
    (next answer).run world s
  | canonical dir next, s =>
    let (answer, s) := world.canonical dir s
    (next answer).run world s
  | notify notice next, s => (next.run world s).after (.notice notice)

end Dialogue

end LintRun
