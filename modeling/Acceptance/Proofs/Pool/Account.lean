import Acceptance.Proofs.Pool.Step
import Acceptance.Proofs.Task.Resumption

/-!
# Accounts of a pool

Whatever order its workers are polled in, a pool keeps an account of every unit: nothing has happened
to a unit that still waits in a queue, a unit in hand has done a part of what it does when it is
called, and a unit that a worker is done with has met its fate, which its marks and its records tell.
-/

namespace Acceptance.Pool

variable {σ γ : Type}

/-- The unit that a mark is about. -/
def Mark.unit? : Mark → Option Nat
  | started unit => some unit
  | ended unit => some unit
  | crashed unit => some unit
  | skipped unit => some unit
  | fromUnit unit _ => some unit
  | fromGate _ _ => none

/-- The marks of a unit, in order. -/
def marksOf (unit : Nat) (trace : List Mark) : List Mark :=
  trace.filter fun mark => mark.unit? = some unit

section Marks

theorem mem_marksOf {unit : Nat} {mark : Mark} {trace : List Mark} (hunit : mark.unit? = some unit) :
    mark ∈ marksOf unit trace ↔ mark ∈ trace := by
  simp [marksOf, hunit]

/-- What happened to a unit shows in the trace. -/
theorem mem_of_marksOf {unit : Nat} {mark : Mark} {trace : List Mark} (hmem : mark ∈ marksOf unit trace) :
    mark ∈ trace := (List.mem_filter.mp hmem).1

@[simp] theorem marksOf_append (unit : Nat) (before after : List Mark) :
    marksOf unit (before ++ after) = marksOf unit before ++ marksOf unit after :=
  List.filter_append ..

theorem marksOf_eq_nil {unit : Nat} {marks : List Mark}
    (h : ∀ mark ∈ marks, mark.unit? ≠ some unit) : marksOf unit marks = [] := by
  simpa [marksOf] using h

theorem marksOf_eq_self {unit : Nat} {marks : List Mark}
    (h : ∀ mark ∈ marks, mark.unit? = some unit) : marksOf unit marks = marks := by
  simpa [marksOf] using h

@[simp] theorem marksOf_fromUnit (unit : Nat) (events : List Event) :
    marksOf unit (events.map (.fromUnit unit)) = events.map (.fromUnit unit) :=
  marksOf_eq_self (by simp [Mark.unit?])

theorem marksOf_fromUnit_of_ne {unit other : Nat} (h : other ≠ unit) (events : List Event) :
    marksOf other (events.map (.fromUnit unit)) = [] :=
  marksOf_eq_nil (by simp [Mark.unit?, Ne.symm h])

@[simp] theorem marksOf_fromGate (unit gate : Nat) (events : List Event) :
    marksOf unit (events.map (.fromGate gate)) = [] :=
  marksOf_eq_nil (by simp [Mark.unit?])

end Marks

/-! ## Calls and fates -/

/-- What the gate of a job may pass on: the value that the task of the gate ends with, if the job has
a gate. -/
def Passes (gates : List (Task σ Event γ)) (job : Job σ γ) (opened : Option γ) : Prop :=
  match job.gate with
  | none => opened = none
  | some index =>
    ∃ task acts value, gates[index]? = some task ∧ task.Ends acts (.finished value) ∧
      opened = some value

/-- The events that a unit reports and how it ends when it is called: it runs with what its gate
passes on, unless the gate crashes. Of the units at a gate only the one that resumes it to its crash
is told the cause. -/
inductive Called (gates : List (Task σ Event γ)) (job : Job σ γ) :
    List Event → Task.Ending (List Record) → Prop
  | ran {opened : Option γ} {acts : List (Task.Act σ Event)} {ending : Task.Ending (List Record)}
      (hpasses : Passes gates job opened) (hends : (job.body opened).Ends acts ending)
      (horder : Task.InOrder acts) : Called gates job (Task.events acts) ending
  | broke {index : Nat} {task : Task σ Event γ} {acts : List (Task.Act σ Event)}
      {cause panic : Panic} (hgate : job.gate = some index) (htask : gates[index]? = some task)
      (hends : task.Ends acts (.crashed cause)) (hpanic : panic = cause ∨ panic = Machine.poisoned) :
      Called gates job [] (.crashed panic)

/-- The marks of a unit that is called, up to the end of the call. -/
def callMarks (unit : Nat) (events : List Event) : List Mark :=
  .started unit :: events.map (.fromUnit unit)

/-- What becomes of a unit: it is called and returns records, it is called and crashes, or it is
never called. -/
inductive Fate
  | returned (records : List Record)
  | crashed (panic : Panic) (reportedAt : Nat)
  | skipped (reportedAt : Nat)

namespace Fate

/-- Whether a unit returned. -/
def isReturned : Fate → Bool
  | returned _ => true
  | _ => false

/-- Whether a unit crashed. -/
def isCrashed : Fate → Bool
  | crashed _ _ => true
  | _ => false

/-- Whether a unit was never called. -/
def isSkipped : Fate → Bool
  | skipped _ => true
  | _ => false

/-- The records of a unit with a fate. -/
def records (instance_ : Instance) : Fate → List Record
  | returned records => records
  | crashed panic now => [.failed instance_ (.workerCrashed panic.message) now]
  | skipped now => [.skipped instance_ now]

/-- The marks of a unit with a fate, given the events that it reported. -/
def marks (unit : Nat) (events : List Event) : Fate → List Mark
  | returned _ => callMarks unit events ++ [.ended unit]
  | crashed _ _ => callMarks unit events ++ [.crashed unit]
  | skipped _ => [.skipped unit]

/-- How the call of a unit with a fate ended, if it was called. -/
def ending? : Fate → Option (Task.Ending (List Record))
  | returned records => some (.finished records)
  | crashed panic _ => some (.crashed panic)
  | skipped _ => none

end Fate

/-- A worker is done with a unit: the unit met a fate, and its marks and records tell which. -/
def Settled (plan : Plan σ γ) (gates : List (Task σ Event γ)) (machine : Machine σ γ) (unit : Nat)
    (fate : Fate) : Prop :=
  ∃ job events, plan.jobs[unit]? = some job ∧
    (∀ ending ∈ fate.ending?, Called gates job events ending) ∧
    marksOf unit machine.trace = fate.marks unit events ∧
    machine.recordsOf unit = fate.records job.instance_

/-- Nothing has happened to a unit. -/
def Untouched (machine : Machine σ γ) (unit : Nat) : Prop :=
  marksOf unit machine.trace = [] ∧ machine.recordsOf unit = []

/-- The unit that a worker has in hand. -/
def Phase.held : Phase σ → List Nat
  | idle => []
  | atGate unit => [unit]
  | running unit _ _ => [unit]
  | reporting unit _ => [unit]
  | stopped => []

/-- How far the call of the unit has come that a worker has in hand, and that it is not reported
yet. -/
def InHand (plan : Plan σ γ) (gates : List (Task σ Event γ)) (machine : Machine σ γ) :
    Phase σ → Prop
  | .idle => True
  | .atGate unit =>
    marksOf unit machine.trace = [.started unit] ∧ machine.recordsOf unit = []
  | .running unit _ task =>
    (∃ job opened acts, plan.jobs[unit]? = some job ∧ Passes gates job opened ∧
      (job.body opened).Course acts task ∧ Task.InOrder acts ∧
      (∀ now ∈ Task.times acts, now ≤ machine.time) ∧
      marksOf unit machine.trace = callMarks unit (Task.events acts)) ∧
    machine.recordsOf unit = []
  | .reporting unit (.ok records) =>
    (∃ job events, plan.jobs[unit]? = some job ∧ Called gates job events (.finished records) ∧
      marksOf unit machine.trace = callMarks unit events ++ [.ended unit]) ∧
    machine.recordsOf unit = []
  | .reporting unit (.error panic) =>
    (∃ job events, plan.jobs[unit]? = some job ∧ Called gates job events (.crashed panic) ∧
      marksOf unit machine.trace = callMarks unit events ++ [.crashed unit]) ∧
    machine.recordsOf unit = []
  | .stopped => True

/-- The units that a worker is not done with. -/
def Worker.units (worker : Worker σ) : List Nat := worker.phase.held ++ worker.queue

/-- A unit returned records that end in a failure. -/
def Failing (past : List (Nat × Fate)) : Prop :=
  ∃ entry ∈ past, ∃ records, entry.2 = .returned records ∧ Machine.endsFailed records = true

/-- The account of a worker: the units of its queue that it is done with, each with its fate, the one
that it has in hand, and those that wait. -/
structure History (plan : Plan σ γ) (gates : List (Task σ Event γ)) (width : Nat)
    (machine : Machine σ γ) (id : Nat) (worker : Worker σ) (past : List (Nat × Fate)) : Prop where
  queue : queueOf width plan.jobs.length id = past.map Prod.fst ++ worker.units
  settled : ∀ entry ∈ past, Settled plan gates machine entry.1 entry.2
  inHand : InHand plan gates machine worker.phase
  waiting : ∀ unit ∈ worker.queue, Untouched machine unit
  /-- A unit that did not return is followed by skipped ones only. -/
  order : past.Pairwise fun earlier later => earlier.2.isReturned ∨ later.2.isSkipped
  working : worker.phase.held ≠ [] → ∀ entry ∈ past, entry.2.isReturned
  crashed : ∀ entry ∈ past, entry.2.isCrashed → worker.phase = .stopped
  skipped : ∀ entry ∈ past, entry.2.isSkipped →
    machine.stop = true ∨ ∃ cause ∈ past, cause.2.isCrashed ∧ cause.1 < entry.1
  stopped : worker.phase = .stopped → worker.queue = []
  /-- A unit that returned a failure has stopped the start of further ones when asked to. -/
  failed : plan.failFast = true → Failing past → machine.stop = true

/-- The state of the task of a gate, given the task. -/
def GateState (task : Task σ Event γ) : Gate σ γ → Prop
  | .closed _ rest => ∃ acts, task.Course acts rest
  | .opened value => ∃ acts, task.Ends acts (.finished value)
  | .broken panic =>
    ∃ acts cause, task.Ends acts (.crashed cause) ∧ (panic = cause ∨ panic = Machine.poisoned)

/-- All accounts of a pool are in order, and the start of further units is stopped for a reason. -/
structure Sound (plan : Plan σ γ) (gates : List (Task σ Event γ)) (width : Nat) (signal : Prop)
    (machine : Machine σ γ) : Prop where
  length : machine.workers.length = width
  workers : ∀ id worker, machine.workers[id]? = some worker →
    ∃ past, History plan gates width machine id worker past
  cause : machine.stop = true → signal ∨ plan.failFast = true ∧
    ∃ id worker past, machine.workers[id]? = some worker ∧
      History plan gates width machine id worker past ∧ Failing past
  gateCount : machine.gates.length = gates.length
  gates : ∀ (index : Nat) (gate : Gate σ γ), machine.gates[index]? = some gate →
    ∃ task, gates[index]? = some task ∧ GateState task gate

/-! ## Marks tell fates apart -/

section Fates

variable {plan : Plan σ γ} {gates : List (Task σ Event γ)} {machine : Machine σ γ} {unit : Nat}
  {fate fate' : Fate}

theorem Settled.isCrashed_iff (h : Settled plan gates machine unit fate) :
    fate.isCrashed = true ↔ .crashed unit ∈ machine.trace := by
  obtain ⟨job, events, _, _, hmarks, _⟩ := h
  rw [← mem_marksOf rfl, hmarks]
  cases fate <;> simp [Fate.isCrashed, Fate.marks, callMarks]

theorem Settled.isSkipped_iff (h : Settled plan gates machine unit fate) :
    fate.isSkipped = true ↔ .skipped unit ∈ machine.trace := by
  obtain ⟨job, events, _, _, hmarks, _⟩ := h
  rw [← mem_marksOf rfl, hmarks]
  cases fate <;> simp [Fate.isSkipped, Fate.marks, callMarks]

theorem Settled.isReturned_iff (h : Settled plan gates machine unit fate) :
    fate.isReturned = true ↔ .ended unit ∈ machine.trace := by
  obtain ⟨job, events, _, _, hmarks, _⟩ := h
  rw [← mem_marksOf rfl, hmarks]
  cases fate <;> simp [Fate.isReturned, Fate.marks, callMarks]

/-- A unit does not meet fates of different kinds. -/
theorem Settled.unique (h : Settled plan gates machine unit fate)
    (h' : Settled plan gates machine unit fate') :
    fate.isReturned = fate'.isReturned ∧ fate.isCrashed = fate'.isCrashed ∧
      fate.isSkipped = fate'.isSkipped :=
  ⟨Bool.eq_iff_iff.mpr (h.isReturned_iff.trans h'.isReturned_iff.symm),
    Bool.eq_iff_iff.mpr (h.isCrashed_iff.trans h'.isCrashed_iff.symm),
    Bool.eq_iff_iff.mpr (h.isSkipped_iff.trans h'.isSkipped_iff.symm)⟩

/-- A unit that has ended returned what is reported of it. -/
theorem Settled.exists_returned (h : Settled plan gates machine unit fate)
    (hended : .ended unit ∈ machine.trace) : ∃ records, fate = .returned records := by
  have hfate := h.isReturned_iff.mpr hended
  cases fate with
  | returned records => exact ⟨records, rfl⟩
  | crashed panic now => cases hfate
  | skipped now => cases hfate

theorem Settled.exists_crashed (h : Settled plan gates machine unit fate)
    (hcrashed : .crashed unit ∈ machine.trace) : ∃ panic now, fate = .crashed panic now := by
  have hfate := h.isCrashed_iff.mpr hcrashed
  cases fate with
  | returned records => cases hfate
  | crashed panic now => exact ⟨panic, now, rfl⟩
  | skipped now => cases hfate

/-- A unit that was never started was skipped. -/
theorem Settled.exists_skipped (h : Settled plan gates machine unit fate)
    (hstarted : .started unit ∉ machine.trace) : ∃ now, fate = .skipped now := by
  obtain ⟨job, events, _, _, hmarks, _⟩ := h
  rw [← mem_marksOf rfl, hmarks] at hstarted
  cases fate with
  | returned records => exact absurd hstarted (by simp [Fate.marks, callMarks])
  | crashed panic now => exact absurd hstarted (by simp [Fate.marks, callMarks])
  | skipped now => exact ⟨now, rfl⟩

end Fates

/-! ## Queues -/

section Queues

variable {width units id unit : Nat}

theorem mem_queueOf : unit ∈ queueOf width units id ↔ unit < units ∧ unit % width = id := by
  simp [queueOf]

theorem queueOf_pairwise : (queueOf width units id).Pairwise (· < ·) :=
  List.pairwise_lt_range.filter _

end Queues

namespace Machine

variable {plan : Plan σ γ} {machine : Machine σ γ} {unit other : Nat}

@[simp] theorem recordsOf_report_self {records : List Record} :
    (machine.report unit records).recordsOf unit = machine.recordsOf unit ++ records := by
  simp [report, recordsOf, List.filterMap_append, List.filterMap_map]

theorem recordsOf_report_of_ne {records : List Record} (h : other ≠ unit) :
    (machine.report unit records).recordsOf other = machine.recordsOf other := by
  simp [report, recordsOf, List.filterMap_append, Ne.symm h]

theorem skip_of_ne (plan : Plan σ γ) (machine : Machine σ γ) (h : other ≠ unit) :
    marksOf other (machine.skip plan unit).trace = marksOf other machine.trace ∧
      (machine.skip plan unit).recordsOf other = machine.recordsOf other := by
  unfold skip
  split
  next job _ =>
    have hmark : marksOf other [.skipped unit] = [] := by simp [marksOf, Mark.unit?, Ne.symm h]
    refine ⟨?_, recordsOf_report_of_ne h⟩
    simp [log, report, hmark]
  next => exact ⟨rfl, rfl⟩

theorem skip_self (machine : Machine σ γ) {job : Job σ γ} (hjob : plan.jobs[unit]? = some job) :
    marksOf unit (machine.skip plan unit).trace = marksOf unit machine.trace ++ [.skipped unit] ∧
      (machine.skip plan unit).recordsOf unit =
        machine.recordsOf unit ++ [.skipped job.instance_ machine.time] := by
  have hmark : marksOf unit [.skipped unit] = [.skipped unit] := by simp [marksOf, Mark.unit?]
  unfold skip
  rw [hjob]
  refine ⟨?_, recordsOf_report_self⟩
  simp [log, report, hmark]

theorem time_skip (plan : Plan σ γ) (machine : Machine σ γ) (unit : Nat) :
    (machine.skip plan unit).time = machine.time := by
  unfold skip
  split <;> rfl

theorem stop_skip (plan : Plan σ γ) (machine : Machine σ γ) (unit : Nat) :
    (machine.skip plan unit).stop = machine.stop := by
  unfold skip
  split <;> rfl

theorem gates_skip (plan : Plan σ γ) (machine : Machine σ γ) (unit : Nat) :
    (machine.skip plan unit).gates = machine.gates := by
  unfold skip
  split <;> rfl

theorem foldl_skip_of_notMem (plan : Plan σ γ) (machine : Machine σ γ) {queue : List Nat}
    (h : other ∉ queue) :
    marksOf other (queue.foldl (skip plan) machine).trace = marksOf other machine.trace ∧
      (queue.foldl (skip plan) machine).recordsOf other = machine.recordsOf other := by
  induction queue generalizing machine with
  | nil => exact ⟨rfl, rfl⟩
  | cons unit queue ih =>
      obtain ⟨hne, hrest⟩ := List.ne_and_not_mem_of_not_mem_cons h
      obtain ⟨hmarks, hrecords⟩ := ih (machine.skip plan unit) hrest
      obtain ⟨hmarks', hrecords'⟩ := skip_of_ne plan machine hne
      exact ⟨hmarks.trans hmarks', hrecords.trans hrecords'⟩

/-- Of the units that are skipped together, each is marked and reported once. -/
theorem foldl_skip_mem (machine : Machine σ γ) {queue : List Nat} {job : Job σ γ} (hnodup : queue.Nodup)
    (hmem : unit ∈ queue) (hjob : plan.jobs[unit]? = some job) :
    marksOf unit (queue.foldl (skip plan) machine).trace =
        marksOf unit machine.trace ++ [.skipped unit] ∧
      (queue.foldl (skip plan) machine).recordsOf unit =
        machine.recordsOf unit ++ [.skipped job.instance_ machine.time] := by
  induction queue generalizing machine with
  | nil => cases hmem
  | cons head queue ih =>
      obtain ⟨hfresh, hrest⟩ := List.nodup_cons.mp hnodup
      rcases List.mem_cons.mp hmem with rfl | hlater
      · obtain ⟨hmarks, hrecords⟩ := foldl_skip_of_notMem plan (machine.skip plan unit) hfresh
        obtain ⟨hmarks', hrecords'⟩ := skip_self machine hjob
        exact ⟨hmarks.trans hmarks', hrecords.trans hrecords'⟩
      · have hne : unit ≠ head := fun heq => hfresh (heq ▸ hlater)
        obtain ⟨hmarks, hrecords⟩ := ih (machine.skip plan head) hrest hlater
        obtain ⟨hmarks', hrecords'⟩ := skip_of_ne plan machine hne
        rw [hmarks', ] at hmarks
        rw [hrecords', time_skip] at hrecords
        exact ⟨hmarks, hrecords⟩

/-- Skipping units leaves everything else in a pool as it is. -/
theorem foldl_skip_rest (plan : Plan σ γ) (machine : Machine σ γ) (queue : List Nat) :
    (queue.foldl (skip plan) machine).workers = machine.workers ∧
      (queue.foldl (skip plan) machine).gates = machine.gates ∧
      (queue.foldl (skip plan) machine).stop = machine.stop ∧
      (queue.foldl (skip plan) machine).time = machine.time := by
  induction queue generalizing machine with
  | nil => exact ⟨rfl, rfl, rfl, rfl⟩
  | cons unit queue ih =>
      obtain ⟨hworkers, hgates, hstop, htime⟩ := ih (machine.skip plan unit)
      exact ⟨hworkers.trans (workers_skip plan machine unit),
        hgates.trans (gates_skip plan machine unit), hstop.trans (stop_skip plan machine unit),
        htime.trans (time_skip plan machine unit)⟩

end Machine

/-! ## What one worker does leaves the accounts of the others as they are -/

section Update

variable {plan : Plan σ γ} {gates : List (Task σ Event γ)} {width id : Nat} {signal : Prop}
  {machine next : Machine σ γ} {worker worker' : Worker σ}

/-- One worker of a pool goes on: it is done with some units, and nothing happens to other units
than these and the one that it has in hand. -/
structure Update (machine next : Machine σ γ) (id : Nat) (worker worker' : Worker σ)
    (done : List Nat) : Prop where
  before : machine.workers[id]? = some worker
  workers : next.workers = machine.workers.set id worker'
  units : worker.units = done ++ worker'.units
  queue : ∀ unit ∈ worker'.queue, unit ∈ worker.queue
  kept : ∀ unit, unit ∉ done ++ worker'.phase.held →
    marksOf unit next.trace = marksOf unit machine.trace ∧
      next.recordsOf unit = machine.recordsOf unit
  gates : next.gates = machine.gates
  stop : machine.stop = true → next.stop = true
  time : machine.time ≤ next.time

theorem Settled.kept {unit : Nat} {fate : Fate} (h : Settled plan gates machine unit fate)
    (hkept : marksOf unit next.trace = marksOf unit machine.trace ∧
      next.recordsOf unit = machine.recordsOf unit) : Settled plan gates next unit fate := by
  obtain ⟨job, events, hjob, hcalled, hmarks, hrecords⟩ := h
  exact ⟨job, events, hjob, hcalled, hkept.1.trans hmarks, hkept.2.trans hrecords⟩

theorem InHand.kept {phase : Phase σ} (h : InHand plan gates machine phase)
    (hkept : ∀ unit ∈ phase.held, marksOf unit next.trace = marksOf unit machine.trace ∧
      next.recordsOf unit = machine.recordsOf unit) (htime : machine.time ≤ next.time) :
    InHand plan gates next phase := by
  cases phase with
  | idle => trivial
  | stopped => trivial
  | atGate unit =>
      obtain ⟨hmarks, hrecords⟩ := hkept unit (List.mem_singleton_self unit)
      exact ⟨hmarks.trans h.1, hrecords.trans h.2⟩
  | running unit wake task =>
      obtain ⟨hmarks, hrecords⟩ := hkept unit (List.mem_singleton_self unit)
      obtain ⟨⟨job, opened, acts, hjob, hpasses, hcourse, horder, htimes, htrace⟩, hempty⟩ := h
      exact ⟨⟨job, opened, acts, hjob, hpasses, hcourse, horder,
        fun now hnow => Nat.le_trans (htimes now hnow) htime, hmarks.trans htrace⟩, hrecords.trans hempty⟩
  | reporting unit outcome =>
      obtain ⟨hmarks, hrecords⟩ := hkept unit (List.mem_singleton_self unit)
      cases outcome with
      | ok records =>
          obtain ⟨⟨job, events, hjob, hcalled, htrace⟩, hempty⟩ := h
          exact ⟨⟨job, events, hjob, hcalled, hmarks.trans htrace⟩, hrecords.trans hempty⟩
      | error panic =>
          obtain ⟨⟨job, events, hjob, hcalled, htrace⟩, hempty⟩ := h
          exact ⟨⟨job, events, hjob, hcalled, hmarks.trans htrace⟩, hrecords.trans hempty⟩

/-- Where nothing happens to the units of a worker, its account stays as it is. -/
theorem History.kept {past : List (Nat × Fate)}
    (h : History plan gates width machine id worker past)
    (hkept : ∀ unit ∈ queueOf width plan.jobs.length id,
      marksOf unit next.trace = marksOf unit machine.trace ∧
        next.recordsOf unit = machine.recordsOf unit)
    (hstop : machine.stop = true → next.stop = true) (htime : machine.time ≤ next.time) :
    History plan gates width next id worker past where
  queue := h.queue
  settled := by
    intro entry hentry
    apply (h.settled entry hentry).kept
    apply hkept
    rw [h.queue]
    exact List.mem_append_left _ (List.mem_map_of_mem hentry)
  inHand := by
    refine h.inHand.kept ?_ htime
    intro unit hunit
    apply hkept
    rw [h.queue]
    exact List.mem_append_right _ (List.mem_append_left _ hunit)
  waiting := by
    intro unit hunit
    obtain ⟨hmarks, hrecords⟩ := h.waiting unit hunit
    have hmem : unit ∈ queueOf width plan.jobs.length id := by
      rw [h.queue]
      exact List.mem_append_right _ (List.mem_append_right _ hunit)
    exact ⟨(hkept unit hmem).1.trans hmarks, (hkept unit hmem).2.trans hrecords⟩
  order := h.order
  working := h.working
  crashed := h.crashed
  skipped := fun entry hentry hskipped => (h.skipped entry hentry hskipped).imp_left hstop
  stopped := h.stopped
  failed := fun hfast hfailing => hstop (h.failed hfast hfailing)

/-- The units of a worker, in the order of its queue, are all different. -/
theorem History.nodup {past : List (Nat × Fate)}
    (h : History plan gates width machine id worker past) :
    (past.map Prod.fst ++ worker.units).Nodup := by
  rw [← h.queue]
  exact queueOf_pairwise.imp Nat.ne_of_lt

theorem History.mem_class {past : List (Nat × Fate)}
    (h : History plan gates width machine id worker past) {unit : Nat} (hunit : unit ∈ worker.units) :
    unit < plan.jobs.length ∧ unit % width = id := by
  rw [← mem_queueOf, h.queue]
  exact List.mem_append_right _ hunit

/-- A worker goes on: the units that it is done with join the past of its account. -/
theorem History.advance {past done : List (Nat × Fate)}
    (h : History plan gates width machine id worker past)
    (update : Update machine next id worker worker' (done.map Prod.fst))
    (hactive : worker.phase ≠ .stopped)
    (hsettled : ∀ entry ∈ done, Settled plan gates next entry.1 entry.2)
    (hinHand : InHand plan gates next worker'.phase)
    (horder : (past ++ done).Pairwise fun earlier later =>
      earlier.2.isReturned ∨ later.2.isSkipped)
    (hworking : worker'.phase.held ≠ [] → ∀ entry ∈ past ++ done, entry.2.isReturned)
    (hcrashed : ∀ entry ∈ done, entry.2.isCrashed → worker'.phase = .stopped)
    (hskipped : ∀ entry ∈ done, entry.2.isSkipped →
      next.stop = true ∨ ∃ cause ∈ done, cause.2.isCrashed ∧ cause.1 < entry.1)
    (hstopped : worker'.phase = .stopped → worker'.queue = [])
    (hfailed : plan.failFast = true → Failing done → next.stop = true) :
    History plan gates width next id worker' (past ++ done) := by
  have hnodup : (past.map Prod.fst ++ (done.map Prod.fst ++ worker'.units)).Nodup :=
    update.units ▸ h.nodup
  have hpast : ∀ entry ∈ past, entry.1 ∉ done.map Prod.fst ++ worker'.phase.held := by
    intro entry hentry hmem
    refine (List.nodup_append.mp hnodup).2.2 _ (List.mem_map_of_mem hentry) _ ?_ rfl
    rw [Worker.units, ← List.append_assoc]
    exact List.mem_append_left _ hmem
  have hqueue : ∀ unit ∈ worker'.queue, unit ∉ done.map Prod.fst ++ worker'.phase.held := by
    intro unit hunit hmem
    have hright := (List.nodup_append.mp hnodup).2.1
    rw [Worker.units, ← List.append_assoc] at hright
    exact (List.nodup_append.mp hright).2.2 _ hmem _ hunit rfl
  have hcalm : ∀ entry ∈ past, ¬ entry.2.isCrashed :=
    fun entry hentry hcrash => hactive (h.crashed entry hentry hcrash)
  refine
    { queue := ?_, settled := ?_, inHand := hinHand, waiting := ?_, order := horder,
      working := hworking, crashed := ?_, skipped := ?_, stopped := hstopped, failed := ?_ }
  · rw [h.queue, update.units, List.map_append, List.append_assoc]
  · intro entry hentry
    rcases List.mem_append.mp hentry with hentry | hentry
    · exact (h.settled entry hentry).kept (update.kept _ (hpast entry hentry))
    · exact hsettled entry hentry
  · intro unit hunit
    obtain ⟨hmarks, hrecords⟩ := h.waiting unit (update.queue unit hunit)
    obtain ⟨hmarks', hrecords'⟩ := update.kept unit (hqueue unit hunit)
    exact ⟨hmarks'.trans hmarks, hrecords'.trans hrecords⟩
  · intro entry hentry hcrash
    rcases List.mem_append.mp hentry with hentry | hentry
    · exact absurd hcrash (hcalm entry hentry)
    · exact hcrashed entry hentry hcrash
  · intro entry hentry hskip
    rcases List.mem_append.mp hentry with hentry | hentry
    · rcases h.skipped entry hentry hskip with hstop | ⟨cause, hcause, hcrash, _⟩
      · exact .inl (update.stop hstop)
      · exact absurd hcrash (hcalm cause hcause)
    · rcases hskipped entry hentry hskip with hstop | ⟨cause, hcause, hcrash, hlt⟩
      · exact .inl hstop
      · exact .inr ⟨cause, List.mem_append_right _ hcause, hcrash, hlt⟩
  · rintro hfast ⟨entry, hentry, hreturned⟩
    rcases List.mem_append.mp hentry with hentry | hentry
    · exact update.stop (h.failed hfast ⟨entry, hentry, hreturned⟩)
    · exact hfailed hfast ⟨entry, hentry, hreturned⟩

/-- A worker goes on without being done with any further unit. -/
theorem History.hold {past : List (Nat × Fate)}
    (h : History plan gates width machine id worker past)
    (update : Update machine next id worker worker' []) (hactive : worker.phase ≠ .stopped)
    (hinHand : InHand plan gates next worker'.phase)
    (hworking : worker'.phase.held ≠ [] → ∀ entry ∈ past, entry.2.isReturned)
    (hstopped : worker'.phase = .stopped → worker'.queue = []) :
    History plan gates width next id worker' past := by
  rw [← List.append_nil past] at hworking ⊢
  refine h.advance update hactive nofun hinHand ?_ hworking nofun nofun hstopped ?_
  · rw [List.append_nil]
    exact h.order
  · rintro _ ⟨entry, hentry, _⟩
    cases hentry

theorem Failing.mono {past past' : List (Nat × Fate)} (h : Failing past) (hsub : past ⊆ past') :
    Failing past' := by
  obtain ⟨entry, hentry, hreturned⟩ := h
  exact ⟨entry, hsub hentry, hreturned⟩

/-- Where one worker goes on and keeps its account in order, all accounts stay in order. -/
theorem Sound.update {done : List Nat} (sound : Sound plan gates width signal machine)
    (update : Update machine next id worker worker' done)
    (hown : ∀ past, History plan gates width machine id worker past →
      ∃ past', History plan gates width next id worker' past' ∧ past ⊆ past' ∧
        (next.stop = true → machine.stop = true ∨ plan.failFast = true ∧ Failing past')) :
    Sound plan gates width signal next := by
  obtain ⟨past, history⟩ := sound.workers id worker update.before
  obtain ⟨past', history', hsub, hstop⟩ := hown past history
  have hlt := (List.getElem?_eq_some_iff.mp update.before).1
  have hself : next.workers[id]? = some worker' := by
    rw [update.workers, List.getElem?_set_self hlt]
  have hother {other : Nat} {found : Worker σ} {earlier : List (Nat × Fate)} (hne : id ≠ other)
      (h : History plan gates width machine other found earlier) :
      History plan gates width next other found earlier := by
    refine h.kept ?_ update.stop update.time
    intro unit hunit
    apply update.kept
    intro hmem
    have hunits : unit ∈ worker.units := by
      rw [update.units, Worker.units, ← List.append_assoc]
      exact List.mem_append_left _ hmem
    exact hne ((history.mem_class hunits).2.symm.trans (mem_queueOf.mp hunit).2)
  have hlength : next.workers.length = width := by
    rw [update.workers, List.length_set, sound.length]
  refine
    { length := hlength, workers := ?_, cause := ?_, gateCount := update.gates ▸ sound.gateCount
      gates := update.gates ▸ sound.gates }
  · intro other found hfound
    by_cases hne : id = other
    · subst hne
      cases hself.symm.trans hfound
      exact ⟨past', history'⟩
    · rw [update.workers, List.getElem?_set_ne hne] at hfound
      obtain ⟨earlier, h⟩ := sound.workers other found hfound
      exact ⟨earlier, hother hne h⟩
  · intro hnext
    rcases hstop hnext with hbefore | ⟨hfast, hfailing⟩
    · rcases sound.cause hbefore with hsignal | ⟨hfast, other, found, earlier, hfound, h, hfailing⟩
      · exact .inl hsignal
      refine .inr ⟨hfast, ?_⟩
      by_cases hne : id = other
      · subst hne
        cases update.before.symm.trans hfound
        obtain ⟨later, hlater, hsub, _⟩ := hown earlier h
        exact ⟨id, worker', later, hself, hlater, hfailing.mono hsub⟩
      · refine ⟨other, found, earlier, ?_, hother hne h, hfailing⟩
        rw [update.workers, List.getElem?_set_ne hne, hfound]
    · exact .inr ⟨hfast, id, worker', past', hself, history', hfailing⟩

end Update

end Acceptance.Pool
