import LintRun.Dialogue.Basic

/-!
# Exchanges

A conversation is a sequence of exchanges: questions with their answers, and notices. What a
`Dialogue` can do is said by the exchanges that it can go through, whoever answers. A world gives
one such sequence, with answers of its own.

## Main definitions

* `Exchange` is a question with its answer, or a notice.
* `Dialogue.GoesOn` says that a dialogue goes through some exchanges, and what is left of it.
* `Dialogue.EndsWith` says that nothing but a value is left.
* `Dialogue.exchanges` are the exchanges with a world.
* `World.IsStateless` says that the answers of a world depend on the questions alone.

## Main statements

* `Dialogue.endsWith_exchanges`: with a world, a dialogue goes through its exchanges and ends with
  its value.
* `Dialogue.EndsWith.exists_of_bind`: a dialogue in two parts goes through two parts.
* `Dialogue.EndsWith.eq_of_isStateless`: answers of a stateless world lead through the same
  exchanges to one value.
-/

namespace LintRun

/-- A question with its answer, or a notice. -/
inductive Exchange where
  | lookUp (executable : String) (answer : Bool)
  | call (call : Call) (answer : Except Failure RawOutput)
  | listFiles (dir : Path) (answer : Except Failure (List String))
  | canonical (dir : Path) (answer : Option Path)
  | notice (notice : Notice)

namespace Exchange

/-- What can be seen of an exchange from outside. -/
def event? : Exchange → Option Event
  | lookUp executable _ => some (.lookUp executable)
  | call c _ => some (.call c)
  | listFiles .. => none
  | canonical .. => none
  | notice n => some (.notice n)

/-- Whether a world gives the answer in one of its states. -/
def IsOf {σ : Type} (world : World σ) : Exchange → Prop
  | lookUp executable answer => ∃ s, (world.lookUp executable s).1 = answer
  | call c answer => ∃ s, (world.call c s).1 = answer
  | listFiles dir answer => ∃ s, (world.listFiles dir s).1 = answer
  | canonical dir answer => ∃ s, (world.canonical dir s).1 = answer
  | notice _ => True

end Exchange

/-- A world whose answers depend on the questions alone. -/
structure World.IsStateless {σ : Type} (world : World σ) : Prop where
  lookUp_eq : ∀ executable s t, (world.lookUp executable s).1 = (world.lookUp executable t).1
  call_eq : ∀ c s t, (world.call c s).1 = (world.call c t).1
  listFiles_eq : ∀ dir s t, (world.listFiles dir s).1 = (world.listFiles dir t).1
  canonical_eq : ∀ dir s t, (world.canonical dir s).1 = (world.canonical dir t).1

namespace Dialogue

variable {α β σ : Type}

/-- A dialogue goes through some exchanges, and another one is left. -/
inductive GoesOn : Dialogue α → List Exchange → Dialogue α → Prop where
  | refl (dialogue : Dialogue α) : GoesOn dialogue [] dialogue
  | lookUp {executable : String} {next : Bool → Dialogue α} {answer : Bool}
      {log : List Exchange} {left : Dialogue α} (h : GoesOn (next answer) log left) :
      GoesOn (.lookUp executable next) (.lookUp executable answer :: log) left
  | call {c : Call} {next : Except Failure RawOutput → Dialogue α}
      {answer : Except Failure RawOutput} {log : List Exchange} {left : Dialogue α}
      (h : GoesOn (next answer) log left) : GoesOn (.call c next) (.call c answer :: log) left
  | listFiles {dir : Path} {next : Except Failure (List String) → Dialogue α}
      {answer : Except Failure (List String)} {log : List Exchange} {left : Dialogue α}
      (h : GoesOn (next answer) log left) :
      GoesOn (.listFiles dir next) (.listFiles dir answer :: log) left
  | canonical {dir : Path} {next : Option Path → Dialogue α} {answer : Option Path}
      {log : List Exchange} {left : Dialogue α} (h : GoesOn (next answer) log left) :
      GoesOn (.canonical dir next) (.canonical dir answer :: log) left
  | notify {notice : Notice} {next : Dialogue α} {log : List Exchange} {left : Dialogue α}
      (h : GoesOn next log left) : GoesOn (.notify notice next) (.notice notice :: log) left

/-- A dialogue goes through some exchanges, and ends with a value. -/
def EndsWith (dialogue : Dialogue α) (log : List Exchange) (value : α) : Prop :=
  dialogue.GoesOn log (.done value)

/-- A dialogue goes on from where it was left. -/
theorem GoesOn.trans {dialogue middle left : Dialogue α} {front rest : List Exchange}
    (h : dialogue.GoesOn front middle) (hrest : middle.GoesOn rest left) :
    dialogue.GoesOn (front ++ rest) left := by
  induction h with
  | refl => exact hrest
  | lookUp _ ih => exact .lookUp (ih hrest)
  | call _ ih => exact .call (ih hrest)
  | listFiles _ ih => exact .listFiles (ih hrest)
  | canonical _ ih => exact .canonical (ih hrest)
  | notify _ ih => exact .notify (ih hrest)

/-- A dialogue that is over ends with its value, without any exchange. -/
theorem endsWith_done_iff {value value' : α} {log : List Exchange} :
    (done value).EndsWith log value' ↔ log = [] ∧ value' = value := by
  constructor
  · intro h
    cases h
    exact ⟨rfl, rfl⟩
  · rintro ⟨rfl, rfl⟩
    exact .refl _

/-- A dialogue that goes on with the value of another goes through the exchanges of both. -/
theorem EndsWith.exists_of_bind {dialogue : Dialogue α} {f : α → Dialogue β}
    {log : List Exchange} {value : β} (h : (dialogue.bind f).EndsWith log value) :
    ∃ front middle rest, log = front ++ rest ∧ dialogue.EndsWith front middle ∧
      (f middle).EndsWith rest value := by
  -- Each exchange is one of the first part until that part is over.
  induction dialogue generalizing log with
  | done middle => exact ⟨[], middle, log, rfl, .refl _, h⟩
  | lookUp executable next ih =>
    cases h with
    | lookUp h =>
      obtain ⟨front, middle, rest, rfl, hfront, hrest⟩ := ih _ h
      exact ⟨_ :: front, middle, rest, rfl, .lookUp hfront, hrest⟩
  | call c next ih =>
    cases h with
    | call h =>
      obtain ⟨front, middle, rest, rfl, hfront, hrest⟩ := ih _ h
      exact ⟨_ :: front, middle, rest, rfl, .call hfront, hrest⟩
  | listFiles dir next ih =>
    cases h with
    | listFiles h =>
      obtain ⟨front, middle, rest, rfl, hfront, hrest⟩ := ih _ h
      exact ⟨_ :: front, middle, rest, rfl, .listFiles hfront, hrest⟩
  | canonical dir next ih =>
    cases h with
    | canonical h =>
      obtain ⟨front, middle, rest, rfl, hfront, hrest⟩ := ih _ h
      exact ⟨_ :: front, middle, rest, rfl, .canonical hfront, hrest⟩
  | notify notice next ih =>
    cases h with
    | notify h =>
      obtain ⟨front, middle, rest, rfl, hfront, hrest⟩ := ih h
      exact ⟨_ :: front, middle, rest, rfl, .notify hfront, hrest⟩

/-! ## Exchanges with a world -/

/-- The exchanges with a world that begins in a state. -/
def exchanges (world : World σ) : Dialogue α → σ → List Exchange
  | done _, _ => []
  | lookUp executable next, s =>
    let (answer, s) := world.lookUp executable s
    .lookUp executable answer :: (next answer).exchanges world s
  | call c next, s =>
    let (answer, s) := world.call c s
    .call c answer :: (next answer).exchanges world s
  | listFiles dir next, s =>
    let (answer, s) := world.listFiles dir s
    .listFiles dir answer :: (next answer).exchanges world s
  | canonical dir next, s =>
    let (answer, s) := world.canonical dir s
    .canonical dir answer :: (next answer).exchanges world s
  | notify notice next, s => .notice notice :: next.exchanges world s

variable {world : World σ}

/-- With a world, a dialogue goes through its exchanges and ends with its value. -/
theorem endsWith_exchanges (world : World σ) (dialogue : Dialogue α) (s : σ) :
    dialogue.EndsWith (dialogue.exchanges world s) (dialogue.run world s).value := by
  induction dialogue generalizing s with
  | done => exact .refl _
  | lookUp executable next ih => exact .lookUp (ih _ _)
  | call c next ih => exact .call (ih _ _)
  | listFiles dir next ih => exact .listFiles (ih _ _)
  | canonical dir next ih => exact .canonical (ih _ _)
  | notify notice next ih => exact .notify (ih _)

/-- The events with a world are what can be seen of the exchanges. -/
theorem events_run (dialogue : Dialogue α) (s : σ) :
    (dialogue.run world s).events =
      (dialogue.exchanges world s).filterMap Exchange.event? := by
  induction dialogue generalizing s with
  | done => rfl
  | lookUp executable next ih => exact congrArg (List.cons _) (ih _ _)
  | call c next ih => exact congrArg (List.cons _) (ih _ _)
  | listFiles dir next ih => exact ih _ _
  | canonical dir next ih => exact ih _ _
  | notify notice next ih => exact congrArg (List.cons _) (ih _)

/-- The second part of a dialogue begins where the first part has left the world. -/
theorem run_bind (dialogue : Dialogue α) (f : α → Dialogue β) (s : σ) :
    (dialogue >>= f).run world s =
      let first := dialogue.run world s
      let second := (f first.value).run world first.state
      ⟨second.value, first.events ++ second.events, second.state⟩ := by
  induction dialogue generalizing s with
  | done => rfl
  | lookUp executable next ih => exact congrArg (Course.after _) (ih _ _)
  | call c next ih => exact congrArg (Course.after _) (ih _ _)
  | listFiles dir next ih => exact ih _ _
  | canonical dir next ih => exact ih _ _
  | notify notice next ih => exact congrArg (Course.after _) (ih _)

/-- A dialogue in two parts ends as its second part does, where the first part has left the
world. -/
theorem value_run_bind (dialogue : Dialogue α) (f : α → Dialogue β) (s : σ) :
    ((dialogue >>= f).run world s).value =
      ((f (dialogue.run world s).value).run world (dialogue.run world s).state).value := by
  rw [run_bind]

/-- The answers in the exchanges with a world are those of the world. -/
theorem isOf_exchanges (world : World σ) (dialogue : Dialogue α) (s : σ) :
    ∀ exchange ∈ dialogue.exchanges world s, exchange.IsOf world := by
  induction dialogue generalizing s with
  | done => exact List.forall_mem_nil _
  | lookUp executable next ih => exact List.forall_mem_cons.2 ⟨⟨s, rfl⟩, ih _ _⟩
  | call c next ih => exact List.forall_mem_cons.2 ⟨⟨s, rfl⟩, ih _ _⟩
  | listFiles dir next ih => exact List.forall_mem_cons.2 ⟨⟨s, rfl⟩, ih _ _⟩
  | canonical dir next ih => exact List.forall_mem_cons.2 ⟨⟨s, rfl⟩, ih _ _⟩
  | notify notice next ih => exact List.forall_mem_cons.2 ⟨trivial, ih _⟩

/-- Whatever else a stateless world is asked, its answers lead a dialogue through the same exchanges
to one value. -/
theorem EndsWith.eq_of_isStateless {dialogue : Dialogue α} {log : List Exchange} {value : α}
    (h : dialogue.EndsWith log value) (hworld : world.IsStateless)
    (hlog : ∀ exchange ∈ log, exchange.IsOf world) (s : σ) :
    dialogue.exchanges world s = log ∧ (dialogue.run world s).value = value := by
  -- The answers in the log may be from other states than those of the run. They are the same.
  unfold EndsWith at h
  generalize hleft : done value = left at h
  induction h generalizing s with
  | refl =>
    rw [← hleft]
    exact ⟨rfl, rfl⟩
  | @lookUp executable next answer log left h ih =>
    obtain ⟨⟨t, ht⟩, hrest⟩ := List.forall_mem_cons.1 hlog
    obtain rfl := (hworld.lookUp_eq executable s t).trans ht
    exact (ih hrest _ hleft).imp (congrArg (List.cons _)) id
  | @call c next answer log left h ih =>
    obtain ⟨⟨t, ht⟩, hrest⟩ := List.forall_mem_cons.1 hlog
    obtain rfl := (hworld.call_eq c s t).trans ht
    exact (ih hrest _ hleft).imp (congrArg (List.cons _)) id
  | @listFiles dir next answer log left h ih =>
    obtain ⟨⟨t, ht⟩, hrest⟩ := List.forall_mem_cons.1 hlog
    obtain rfl := (hworld.listFiles_eq dir s t).trans ht
    exact (ih hrest _ hleft).imp (congrArg (List.cons _)) id
  | @canonical dir next answer log left h ih =>
    obtain ⟨⟨t, ht⟩, hrest⟩ := List.forall_mem_cons.1 hlog
    obtain rfl := (hworld.canonical_eq dir s t).trans ht
    exact (ih hrest _ hleft).imp (congrArg (List.cons _)) id
  | @notify notice next log left h ih =>
    have hrest := (List.forall_mem_cons.1 hlog).2
    exact (ih hrest s hleft).imp (congrArg (List.cons _)) id

end Dialogue

end LintRun
