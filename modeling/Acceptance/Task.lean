/-!
# Tasks

A task is a computation that shares a state with others and may be suspended. Between two suspensions
it runs without interruption; while it is suspended, others may change the shared state. A task ends
with a value or with a crash, unless it hangs.

Tasks are data, so whatever is run here is run to the end by recursion on the task: `resume` up to
the next suspension, and `run` with nothing else in between.
-/

namespace Acceptance

/-- What a crash leaves behind: a message, or something that is no text. -/
inductive Panic
  | text (message : String)
  | unprintable
deriving DecidableEq, Inhabited

/-- The message of a crash. -/
def Panic.message : Panic → String
  | text message => message
  | unprintable => "(Could not resolve panic payload)"

/-- A computation over a shared state `σ` that reports events `ε` and ends with an `α`. -/
inductive Task (σ ε α : Type) : Type
  | done (value : α)
  | crash (panic : Panic)
  | read (next : σ → Task σ ε α)
  | write (state : σ) (next : Task σ ε α)
  | emit (event : ε) (next : Task σ ε α)
  | clock (next : Nat → Task σ ε α)
  | pause (next : Task σ ε α)
  | sleep (nanoseconds : Nat) (next : Task σ ε α)
  | hang

namespace Task

variable {σ ρ ε α β : Type}

/-- A task followed by one that depends on its value. -/
def bind : Task σ ε α → (α → Task σ ε β) → Task σ ε β
  | done value, f => f value
  | crash panic, _ => crash panic
  | read next, f => read fun state => (next state).bind f
  | write state next, f => write state (next.bind f)
  | emit event next, f => emit event (next.bind f)
  | clock next, f => clock fun now => (next now).bind f
  | pause next, f => pause (next.bind f)
  | sleep nanoseconds next, f => sleep nanoseconds (next.bind f)
  | hang, _ => hang

instance : Monad (Task σ ε) where
  pure := done
  bind := bind

/-- Reads the shared state. -/
def get : Task σ ε σ := read done

/-- Replaces the shared state. -/
def set (state : σ) : Task σ ε PUnit := write state (done ⟨⟩)

/-- Changes the shared state. -/
def modify (f : σ → σ) : Task σ ε PUnit := read fun state => write (f state) (done ⟨⟩)

/-- Reports an event. -/
def report (event : ε) : Task σ ε PUnit := emit event (done ⟨⟩)

/-- The time in nanoseconds from a common start. -/
def now : Task σ ε Nat := clock done

/-- Waits for a length of time, if one is given. -/
def wait : Option Nat → Task σ ε PUnit
  | none => done ⟨⟩
  | some nanoseconds => sleep nanoseconds (done ⟨⟩)

/-- A task whose crash is a value. -/
def caught : Task σ ε α → Task σ ε (Except Panic α)
  | done value => done (.ok value)
  | crash panic => done (.error panic)
  | read next => read fun state => (next state).caught
  | write state next => write state next.caught
  | emit event next => emit event next.caught
  | clock next => clock fun now => (next now).caught
  | pause next => pause next.caught
  | sleep nanoseconds next => sleep nanoseconds next.caught
  | hang => hang

/-- A call with what it gives awaited. -/
def join (call : Task σ ε (Task σ ε α)) : Task σ ε α := call.bind id

/-- A call with what it gives awaited. The crash of what is awaited is a value, that of the call is
not. -/
def guarded (call : Task σ ε (Task σ ε α)) : Task σ ε (Except Panic α) := call.bind caught

/-- Looks at the clock before a suspension: at a deadline, or after it, nothing is waited for. -/
def unlessDue (deadline : Nat) (suspended : Nat → Task σ ε (Option α)) : Task σ ε (Option α) :=
  clock fun now => if deadline ≤ now then done none else suspended now

/-- A task that is given up when it is suspended at a deadline. Whenever it wakes it may go on first, so
one that is done by then is not given up, however late it wakes. -/
def within (deadline : Nat) : Task σ ε α → Task σ ε (Option α)
  | done value => done (some value)
  | crash panic => crash panic
  | read next => read fun state => within deadline (next state)
  | write state next => write state (within deadline next)
  | emit event next => emit event (within deadline next)
  | clock next => clock fun now => within deadline (next now)
  | pause next => unlessDue deadline fun _ => pause (within deadline next)
  | sleep nanoseconds next =>
    unlessDue deadline fun now =>
      if now + nanoseconds ≤ deadline then sleep nanoseconds (within deadline next)
      else
        -- What is waited for may have come all the same when the clock is looked at again.
        sleep (deadline - now) <| clock fun later =>
          if now + nanoseconds ≤ later then within deadline next else done none
  | hang => unlessDue deadline fun now => sleep (deadline - now) (done none)

/-- A task that is given up when a length of time has passed, if there is one. -/
def withinLimit : Option Nat → Task σ ε α → Task σ ε (Option α)
  | none, task => task.bind fun value => done (some value)
  | some limit, task => clock fun start => within (start + limit) task

/-- A task with a private state beside the shared one, as a task over the shared state alone. Its
crash is a value, and the private state outlives it. -/
def onPrivate : Task (σ × ρ) ε α → ρ → Task σ ε (Except Panic α × ρ)
  | done value, own => done (.ok value, own)
  | crash panic, own => done (.error panic, own)
  | read next, own => read fun state => (next (state, own)).onPrivate own
  | write state next, _ => write state.1 (next.onPrivate state.2)
  | emit event next, own => emit event (next.onPrivate own)
  | clock next, own => clock fun now => (next now).onPrivate own
  | pause next, own => pause (next.onPrivate own)
  | sleep nanoseconds next, own => sleep nanoseconds (next.onPrivate own)
  | hang, _ => hang

/-- A value with what is left of a private state, or the crash that there was instead. -/
def raised : Except Panic α × ρ → Task σ ε (α × ρ)
  | (.ok value, own) => done (value, own)
  | (.error panic, _) => crash panic

/-- A task with a private state beside the shared one, as a task over the shared state alone that
crashes where it does. -/
def beside (task : Task (σ × ρ) ε α) (own : ρ) : Task σ ε (α × ρ) := (task.onPrivate own).bind raised

/-- A task over a part of the shared state. -/
def onFirst : Task σ ε α → Task (σ × ρ) ε α
  | done value => done value
  | crash panic => crash panic
  | read next => read fun state => (next state.1).onFirst
  | write state next => read fun whole => write (state, whole.2) next.onFirst
  | emit event next => emit event next.onFirst
  | clock next => clock fun now => (next now).onFirst
  | pause next => pause next.onFirst
  | sleep nanoseconds next => sleep nanoseconds next.onFirst
  | hang => hang

/-- How a task stands when it has been resumed. -/
inductive Standing (σ ε α : Type) : Type
  | finished (value : α)
  | crashed (panic : Panic)
  | paused (rest : Task σ ε α)
  | asleep (nanoseconds : Nat) (rest : Task σ ε α)
  | hung

/-- What happens when a task is resumed: the events that it reports, the shared state that it leaves,
and how it stands then. -/
structure Segment (σ ε α : Type) : Type where
  events : List ε
  state : σ
  standing : Standing σ ε α

/-- Runs a task up to its next suspension. -/
def resume (time : Nat) : Task σ ε α → σ → Segment σ ε α
  | done value, state => ⟨[], state, .finished value⟩
  | crash panic, state => ⟨[], state, .crashed panic⟩
  | read next, state => (next state).resume time state
  | write state next, _ => next.resume time state
  | emit event next, state =>
    let segment := next.resume time state
    { segment with events := event :: segment.events }
  | clock next, state => (next time).resume time state
  | pause next, state => ⟨[], state, .paused next⟩
  | sleep nanoseconds next, state => ⟨[], state, .asleep nanoseconds next⟩
  | hang, state => ⟨[], state, .hung⟩

/-- How a task ends when nothing else runs in between. -/
inductive Ending (α : Type) : Type
  | finished (value : α)
  | crashed (panic : Panic)
  | hung
deriving DecidableEq

/-- What a whole task does: the events that it reports, the shared state and the time that it leaves,
and how it ends. -/
structure Run (σ ε α : Type) : Type where
  events : List ε
  state : σ
  time : Nat
  ending : Ending α

/-- Runs a task to its end. Time passes only while it sleeps. -/
def run : Task σ ε α → Nat → σ → Run σ ε α
  | done value, time, state => ⟨[], state, time, .finished value⟩
  | crash panic, time, state => ⟨[], state, time, .crashed panic⟩
  | read next, time, state => (next state).run time state
  | write state next, time, _ => next.run time state
  | emit event next, time, state =>
    let later := next.run time state
    { later with events := event :: later.events }
  | clock next, time, state => (next time).run time state
  | pause next, time, state => next.run time state
  | sleep nanoseconds next, time, state => next.run (time + nanoseconds) state
  | hang, time, state => ⟨[], state, time, .hung⟩

end Task

end Acceptance
