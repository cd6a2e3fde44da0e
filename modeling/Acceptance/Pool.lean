import Acceptance.Record
import Acceptance.Suite

/-!
# Worker pools

Several workers run the units of a list. Unit `i` belongs to the queue of worker `i` modulo the number
of workers, and a worker runs its queue in order. A unit may have to pass a gate first: a task that
all units of a group share, that runs once, and that goes on whenever one of them is polled.

A schedule is a list of turns. In its turn a worker goes on until it is suspended, and any order of
turns is possible. Polling the workers in rounds gives one such schedule.
-/

namespace Acceptance.Pool

/-- A unit of work: an instance, the gate that it has to pass, and what is run once the gate is
open. -/
structure Job (σ γ : Type) where
  instance_ : Instance
  gate : Option Nat
  body : Option γ → Task σ Event (List Record)

/-- A gate: the rest of its task, not to be resumed before a time, or what the task ended with. -/
inductive Gate (σ γ : Type)
  | closed (wake : Nat) (task : Task σ Event γ)
  | opened (value : γ)
  | broken (panic : Panic)

/-- What a worker is about to do: take the next unit of its queue, pass the gate of a unit, resume a
unit, report a unit, or nothing any more. -/
inductive Phase (σ : Type)
  | idle
  | atGate (unit : Nat)
  | running (unit : Nat) (wake : Nat) (task : Task σ Event (List Record))
  | reporting (unit : Nat) (outcome : Except Panic (List Record))
  | stopped

/-- A worker: the units that it has not taken yet, and what it is about to do. -/
structure Worker (σ : Type) where
  queue : List Nat
  phase : Phase σ

/-- What happens in a pool. Events of a unit or of a gate carry where they come from. -/
inductive Mark
  | started (unit : Nat)
  | ended (unit : Nat)
  | crashed (unit : Nat)
  | skipped (unit : Nat)
  | fromUnit (unit : Nat) (event : Event)
  | fromGate (gate : Nat) (event : Event)
deriving DecidableEq

/-- The event that a mark carries. -/
def Mark.event? : Mark → Option Event
  | fromUnit _ event => some event
  | fromGate _ event => some event
  | _ => none

/-- A pool at work: the state that the units share, the gates and workers, whether the start of
further units is stopped, the records reported so far with the units that they belong to, the time,
and what has happened. -/
structure Machine (σ γ : Type) where
  shared : σ
  gates : List (Gate σ γ)
  workers : List (Worker σ)
  stop : Bool
  reports : List (Nat × Record)
  time : Nat
  trace : List Mark

/-- What stays the same while a pool is at work: the jobs, and whether a failed unit stops the start
of further ones. -/
structure Plan (σ γ : Type) where
  jobs : List (Job σ γ)
  failFast : Bool

variable {σ γ : Type}

namespace Machine

/-- Reports records of a unit. -/
def report (machine : Machine σ γ) (unit : Nat) (records : List Record) : Machine σ γ :=
  { machine with reports := machine.reports ++ records.map (unit, ·) }

/-- Adds to what has happened. -/
def log (machine : Machine σ γ) (marks : List Mark) : Machine σ γ :=
  { machine with trace := machine.trace ++ marks }

/-- Replaces a worker. -/
def setWorker (machine : Machine σ γ) (id : Nat) (worker : Worker σ) : Machine σ γ :=
  { machine with workers := machine.workers.set id worker }

/-- Reports a unit that is not started as skipped. -/
def skip (plan : Plan σ γ) (machine : Machine σ γ) (unit : Nat) : Machine σ γ :=
  match plan.jobs[unit]? with
  | some job =>
    (machine.report unit [.skipped job.instance_ machine.time]).log [.skipped unit]
  | none => machine

/-- Resumes a unit and leaves its worker where the unit is suspended or has ended. -/
def resumeUnit (machine : Machine σ γ) (id : Nat) (queue : List Nat) (unit : Nat)
    (task : Task σ Event (List Record)) : Machine σ γ :=
  let segment := task.resume machine.time machine.shared
  let machine :=
    { machine with shared := segment.state }.log (segment.events.map (.fromUnit unit))
  match segment.standing with
  | .finished records =>
    (machine.log [.ended unit]).setWorker id ⟨queue, .reporting unit (.ok records)⟩
  | .crashed panic =>
    (machine.log [.crashed unit]).setWorker id ⟨queue, .reporting unit (.error panic)⟩
  | .paused rest => machine.setWorker id ⟨queue, .running unit 0 rest⟩
  | .asleep nanoseconds rest =>
    machine.setWorker id ⟨queue, .running unit (machine.time + nanoseconds) rest⟩
  | .hung => machine.setWorker id ⟨queue, .running unit 0 .hang⟩

/-- What is met at a gate whose task crashed when it was resumed before. -/
def poisoned : Panic := .text "inner future panicked during poll"

/-- Resumes the task of a gate, unless it has ended or sleeps. A gate that broke before does not tell
why any more. -/
def resumeGate (machine : Machine σ γ) (index : Nat) : Machine σ γ :=
  match machine.gates[index]? with
  | some (.closed wake task) =>
    if machine.time < wake then machine
    else
      let segment := task.resume machine.time machine.shared
      let gate : Gate σ γ := match segment.standing with
        | .finished value => .opened value
        | .crashed panic => .broken panic
        | .paused rest => .closed 0 rest
        | .asleep nanoseconds rest => .closed (machine.time + nanoseconds) rest
        | .hung => .closed 0 .hang
      { machine with
        shared := segment.state
        gates := machine.gates.set index gate }.log (segment.events.map (.fromGate index))
  | some (.broken _) => { machine with gates := machine.gates.set index (.broken poisoned) }
  | _ => machine

/-- Lets a worker pass the gate of a unit, or wait there. -/
def passGate (machine : Machine σ γ) (id : Nat) (queue : List Nat) (unit : Nat) (job : Job σ γ) :
    Machine σ γ :=
  match job.gate with
  | none => machine.resumeUnit id queue unit (job.body none)
  | some index =>
    let machine := machine.resumeGate index
    match machine.gates[index]? with
    | some (.opened value) => machine.resumeUnit id queue unit (job.body (some value))
    | some (.broken panic) =>
      (machine.log [.crashed unit]).setWorker id ⟨queue, .reporting unit (.error panic)⟩
    | _ => machine.setWorker id ⟨queue, .atGate unit⟩

/-- Lets a worker take the next unit of its queue. Units that are not started any more are skipped on
the way. -/
def takeNext (plan : Plan σ γ) (machine : Machine σ γ) (id : Nat) : List Nat → Machine σ γ
  | [] => machine.setWorker id ⟨[], .stopped⟩
  | unit :: queue =>
    if machine.stop then takeNext plan (machine.skip plan unit) id queue
    else
      match plan.jobs[unit]? with
      | some job => (machine.log [.started unit]).passGate id queue unit job
      | none => takeNext plan machine id queue

/-- Whether the last of some records is one of a failure. -/
def endsFailed (records : List Record) : Bool :=
  records.getLast?.any fun record => record.status = .failed

/-- Polls a worker: it goes on until it is suspended. A unit that has ended is reported in the turn
after, and stops the start of further units if it failed. A unit that crashed is reported as failed,
the rest of its queue as skipped. -/
def poll (plan : Plan σ γ) (machine : Machine σ γ) (id : Nat) : Machine σ γ :=
  match machine.workers[id]? with
  | none => machine
  | some worker =>
    match worker.phase with
    | .stopped => machine
    | .idle => machine.takeNext plan id worker.queue
    | .atGate unit =>
      match plan.jobs[unit]? with
      | some job => machine.passGate id worker.queue unit job
      | none => machine
    | .running unit wake task =>
      if machine.time < wake then machine else machine.resumeUnit id worker.queue unit task
    | .reporting unit (.ok records) =>
      let machine := machine.report unit records
      let machine := { machine with stop := machine.stop || (plan.failFast && endsFailed records) }
      machine.takeNext plan id worker.queue
    | .reporting unit (.error panic) =>
      match plan.jobs[unit]? with
      | some job =>
        let machine := machine.report unit
          [.failed job.instance_ (.workerCrashed panic.message) machine.time]
        (worker.queue.foldl (skip plan) machine).setWorker id ⟨[], .stopped⟩
      | none => machine

/-- Whether all workers are done. -/
def isComplete (machine : Machine σ γ) : Bool :=
  machine.workers.all fun worker =>
    match worker.phase with
    | .stopped => true
    | _ => false

/-- The records of a unit, in the order of their report. -/
def recordsOf (machine : Machine σ γ) (unit : Nat) : List Record :=
  machine.reports.filterMap fun report => if report.1 = unit then some report.2 else none

end Machine

/-- A turn in a schedule: the worker that is polled, the time since the turn before, and whether the
start of further units was stopped from outside in that time. -/
structure Turn where
  worker : Nat
  elapsed : Nat
  stops : Bool := false
deriving DecidableEq

/-- Takes a turn. -/
def Machine.turn (plan : Plan σ γ) (machine : Machine σ γ) (turn : Turn) : Machine σ γ :=
  { machine with
    time := machine.time + turn.elapsed
    stop := machine.stop || turn.stops }.poll plan turn.worker

/-- Takes the turns of a schedule. -/
def Machine.runSchedule (plan : Plan σ γ) (machine : Machine σ γ) (schedule : List Turn) :
    Machine σ γ :=
  schedule.foldl (Machine.turn plan) machine

/-- The number of workers that are used for some units: no more than there are units, but at least
one. -/
def width (workers units : Nat) : Nat := min (max workers 1) (max units 1)

/-- The units of a worker's queue, in order. -/
def queueOf (width units id : Nat) : List Nat :=
  (List.range units).filter fun unit => unit % width = id

/-- A pool before its first turn. -/
def start (workers : Nat) (plan : Plan σ γ) (gates : List (Task σ Event γ)) (stop : Bool)
    (shared : σ) : Machine σ γ where
  shared := shared
  gates := gates.map (.closed 0)
  workers :=
    let width := width workers plan.jobs.length
    (List.range width).map fun id => ⟨queueOf width plan.jobs.length id, .idle⟩
  stop := stop
  reports := []
  time := 0
  trace := []

namespace Machine

/-- When a worker can go on: at once, at a time, or never again. -/
inductive Readiness
  | ready
  | at (time : Nat)
  | never

/-- When a worker can go on. -/
def readiness (plan : Plan σ γ) (machine : Machine σ γ) (worker : Worker σ) : Readiness :=
  match worker.phase with
  | .stopped => .never
  | .running _ _ .hang => .never
  | .running _ wake _ => if machine.time < wake then .at wake else .ready
  | .atGate unit =>
    match (plan.jobs[unit]?.bind Job.gate).bind (machine.gates[·]?) with
    | some (.closed _ .hang) => .never
    | some (.closed wake _) => if machine.time < wake then .at wake else .ready
    | _ => .ready
  | _ => .ready

/-- The first time at which a worker can go on when none can at once. -/
def nextWake? (plan : Plan σ γ) (machine : Machine σ γ) : Option Nat :=
  machine.workers.foldl
    (fun first worker =>
      match machine.readiness plan worker with
      | .at time => some (first.elim time (min time))
      | _ => first)
    none

/-- Whether a worker can go on at once. -/
def isReady (plan : Plan σ γ) (machine : Machine σ γ) : Bool :=
  machine.workers.any fun worker =>
    match machine.readiness plan worker with
    | .ready => true
    | _ => false

/-- The turns of a round: every worker is polled once, in order. Where all of them sleep the round
begins when the first one wakes. -/
def round (plan : Plan σ γ) (machine : Machine σ γ) : List Turn :=
  let delay := if machine.isReady plan then 0
    else (machine.nextWake? plan).elim 0 fun wake => wake - machine.time
  (List.range machine.workers.length).map fun id =>
    { worker := id, elapsed := if id = 0 then delay + 1 else 1 }

/-- Polls the workers in rounds until all are done, for at most a number of rounds. -/
def runRounds (plan : Plan σ γ) : Nat → Machine σ γ → Machine σ γ
  | 0, machine => machine
  | rounds + 1, machine =>
    if machine.isComplete then machine
    else runRounds plan rounds (machine.runSchedule plan (machine.round plan))

end Machine

end Acceptance.Pool
