import Acceptance.Pool
import Mathlib

/-!
# Steps of a pool

A turn of a pool does several things one after another. This module cuts it into steps, each of which
changes one worker or one gate, and shows that every schedule is a chain of steps. A property of pools
then needs to be checked for the single steps only.
-/

namespace Acceptance.Pool

variable {σ γ : Type}

namespace Machine

/-- The gate of a job is open, and passes a value on. A job without a gate is passed nothing. -/
def Opens (machine : Machine σ γ) (job : Job σ γ) (opened : Option γ) : Prop :=
  match job.gate with
  | none => opened = none
  | some index => ∃ value, opened = some value ∧ machine.gates[index]? = some (.opened value)

/-- What may happen next in a pool: time passes, a worker goes on by one phase, or the task of a gate
is resumed that a unit has to pass. The start of further units is stopped from outside only where there is a signal. -/
inductive Step (plan : Plan σ γ) (signal : Prop) (machine : Machine σ γ) : Machine σ γ → Prop
  | elapse (elapsed : Nat) (stops : Bool) (hsignal : stops = true → signal) :
      Step plan signal machine
        { machine with time := machine.time + elapsed, stop := machine.stop || stops }
  | take {id unit : Nat} {queue : List Nat} {job : Job σ γ}
      (hworker : machine.workers[id]? = some ⟨unit :: queue, .idle⟩)
      (hjob : plan.jobs[unit]? = some job) (hstop : machine.stop = false) :
      Step plan signal machine ((machine.log [.started unit]).setWorker id ⟨queue, .atGate unit⟩)
  | skip {id unit : Nat} {queue : List Nat}
      (hworker : machine.workers[id]? = some ⟨unit :: queue, .idle⟩)
      (hstop : machine.stop = true) :
      Step plan signal machine ((machine.skip plan unit).setWorker id ⟨queue, .idle⟩)
  | drop {id unit : Nat} {queue : List Nat}
      (hworker : machine.workers[id]? = some ⟨unit :: queue, .idle⟩)
      (hjob : plan.jobs[unit]? = none) :
      Step plan signal machine (machine.setWorker id ⟨queue, .idle⟩)
  | rest {id : Nat} (hworker : machine.workers[id]? = some ⟨[], .idle⟩) :
      Step plan signal machine (machine.setWorker id ⟨[], .stopped⟩)
  | gate (index : Nat) {id unit : Nat} {queue : List Nat} {job : Job σ γ}
      (hworker : machine.workers[id]? = some ⟨queue, .atGate unit⟩)
      (hjob : plan.jobs[unit]? = some job) (hgate : job.gate = some index) :
      Step plan signal machine (machine.resumeGate index)
  | pass {id unit : Nat} {queue : List Nat} {job : Job σ γ} {opened : Option γ}
      (hworker : machine.workers[id]? = some ⟨queue, .atGate unit⟩)
      (hjob : plan.jobs[unit]? = some job) (hopens : machine.Opens job opened) :
      Step plan signal machine (machine.setWorker id ⟨queue, .running unit 0 (job.body opened)⟩)
  | break {id unit index : Nat} {queue : List Nat} {job : Job σ γ} {panic : Panic}
      (hworker : machine.workers[id]? = some ⟨queue, .atGate unit⟩)
      (hjob : plan.jobs[unit]? = some job) (hgate : job.gate = some index)
      (hbroken : machine.gates[index]? = some (.broken panic)) :
      Step plan signal machine
        ((machine.log [.crashed unit]).setWorker id ⟨queue, .reporting unit (.error panic)⟩)
  | resume {id unit wake : Nat} {queue : List Nat} {task : Task σ Event (List Record)}
      (hworker : machine.workers[id]? = some ⟨queue, .running unit wake task⟩)
      (hwake : wake ≤ machine.time) :
      Step plan signal machine (machine.resumeUnit id queue unit task)
  | report {id unit : Nat} {queue : List Nat} {records : List Record}
      (hworker : machine.workers[id]? = some ⟨queue, .reporting unit (.ok records)⟩) :
      Step plan signal machine
        ({ machine.report unit records with
            stop := machine.stop || (plan.failFast && endsFailed records) }.setWorker id
          ⟨queue, .idle⟩)
  | crash {id unit : Nat} {queue : List Nat} {job : Job σ γ} {panic : Panic}
      (hworker : machine.workers[id]? = some ⟨queue, .reporting unit (.error panic)⟩)
      (hjob : plan.jobs[unit]? = some job) :
      Step plan signal machine
        ((queue.foldl (Machine.skip plan)
            (machine.report unit
              [.failed job.instance_ (.workerCrashed panic.message) machine.time])).setWorker id
          ⟨[], .stopped⟩)

/-- Any number of steps one after another. -/
def Steps (plan : Plan σ γ) (signal : Prop) : Machine σ γ → Machine σ γ → Prop :=
  Relation.ReflTransGen (Step plan signal)

/-- What every step keeps is kept by any number of them. -/
theorem Steps.invariant {plan : Plan σ γ} {signal : Prop} {machine next : Machine σ γ}
    (holds : Machine σ γ → Prop) (steps : Steps plan signal machine next) (hstart : holds machine)
    (hstep : ∀ {machine next}, Step plan signal machine next → holds machine → holds next) :
    holds next := by
  induction steps with
  | refl => exact hstart
  | tail _ step ih => exact hstep step ih

theorem Step.mono {plan : Plan σ γ} {signal signal' : Prop} {machine next : Machine σ γ}
    (step : Step plan signal machine next) (h : signal → signal') : Step plan signal' machine next := by
  cases step with
  | elapse elapsed stops hsignal => exact .elapse elapsed stops fun hstops => h (hsignal hstops)
  | take hworker hjob hstop => exact .take hworker hjob hstop
  | skip hworker hstop => exact .skip hworker hstop
  | drop hworker hjob => exact .drop hworker hjob
  | rest hworker => exact .rest hworker
  | gate index hworker hjob hgate => exact .gate index hworker hjob hgate
  | pass hworker hjob hopens => exact .pass hworker hjob hopens
  | «break» hworker hjob hgate hbroken => exact .break hworker hjob hgate hbroken
  | resume hworker hwake => exact .resume hworker hwake
  | report hworker => exact .report hworker
  | crash hworker hjob => exact .crash hworker hjob

theorem Steps.mono {plan : Plan σ γ} {signal signal' : Prop} {machine next : Machine σ γ}
    (steps : Steps plan signal machine next) (h : signal → signal') :
    Steps plan signal' machine next :=
  Relation.ReflTransGen.mono (fun _ _ (step : Step plan signal _ _) => step.mono h) _ _ steps

/-! ## A worker is replaced as a whole -/

section SetWorker

variable (plan : Plan σ γ) (machine : Machine σ γ) (id : Nat) (worker worker' : Worker σ)

theorem setWorker_setWorker :
    (machine.setWorker id worker).setWorker id worker' = machine.setWorker id worker' := by
  simp [setWorker]

theorem setWorker_self (h : machine.workers[id]? = some worker) :
    machine.setWorker id worker = machine := by
  obtain ⟨hlt, hget⟩ := List.getElem?_eq_some_iff.mp h
  simp [setWorker, ← hget]

theorem getElem?_setWorker_self (h : id < machine.workers.length) :
    (machine.setWorker id worker).workers[id]? = some worker := by
  simp [setWorker, h]

theorem skip_setWorker (unit : Nat) :
    (machine.setWorker id worker).skip plan unit = (machine.skip plan unit).setWorker id worker := by
  unfold skip
  split <;> rfl

theorem resumeUnit_setWorker (queue : List Nat) (unit : Nat)
    (task : Task σ Event (List Record)) :
    (machine.setWorker id worker).resumeUnit id queue unit task =
      machine.resumeUnit id queue unit task := by
  unfold resumeUnit
  simp only [setWorker, log]
  split <;> simp

theorem resumeGate_setWorker (index : Nat) :
    (machine.setWorker id worker).resumeGate index =
      (machine.resumeGate index).setWorker id worker := by
  rcases hgate : machine.gates[index]? with _ | (⟨wake, task⟩ | value | panic)
  · simp [resumeGate, setWorker, hgate]
  · by_cases hwake : machine.time < wake
    · simp [resumeGate, setWorker, hgate, hwake]
    · simp [resumeGate, setWorker, log, hgate, hwake]
  · simp [resumeGate, setWorker, hgate]
  · simp [resumeGate, setWorker, hgate]

theorem passGate_setWorker (queue : List Nat) (unit : Nat) (job : Job σ γ) :
    (machine.setWorker id worker).passGate id queue unit job =
      machine.passGate id queue unit job := by
  unfold passGate
  split
  · exact resumeUnit_setWorker machine id worker queue unit _
  next index _ =>
    rw [resumeGate_setWorker]
    rcases hgate : (machine.resumeGate index).gates[index]? with _ | (⟨wake, task⟩ | value | panic)
    · simp [setWorker, hgate]
    · simp [setWorker, hgate]
    · have := resumeUnit_setWorker (machine.resumeGate index) id worker queue unit
        (job.body (some value))
      simpa [setWorker, hgate] using this
    · simp [setWorker, log, hgate]

theorem takeNext_setWorker (queue : List Nat) :
    takeNext plan (machine.setWorker id worker) id queue = takeNext plan machine id queue := by
  induction queue generalizing machine with
  | nil => exact setWorker_setWorker machine id worker _
  | cons unit queue ih =>
      unfold takeNext
      change (if machine.stop then _ else _) = _
      split
      · rw [skip_setWorker, ih]
      · split
        · exact passGate_setWorker (machine.log [.started unit]) id worker queue unit _
        · exact ih machine

end SetWorker

theorem workers_skip (plan : Plan σ γ) (machine : Machine σ γ) (unit : Nat) :
    (machine.skip plan unit).workers = machine.workers := by
  unfold skip
  split <;> rfl

theorem workers_resumeGate (machine : Machine σ γ) (index : Nat) :
    (machine.resumeGate index).workers = machine.workers := by
  unfold resumeGate
  split
  · split <;> rfl
  · rfl
  · rfl

/-! ## Turns as chains of steps -/

section Turns

variable {plan : Plan σ γ} {signal : Prop} {machine : Machine σ γ} {id : Nat}

theorem passGate_steps {queue : List Nat} {unit : Nat} {job : Job σ γ}
    (hworker : machine.workers[id]? = some ⟨queue, .atGate unit⟩)
    (hjob : plan.jobs[unit]? = some job) :
    Steps plan signal machine (machine.passGate id queue unit job) := by
  -- Past its gate a unit is running for the rest of the turn.
  have hrun {machine : Machine σ γ} {opened : Option γ}
      (hworker : machine.workers[id]? = some ⟨queue, .atGate unit⟩)
      (hopens : machine.Opens job opened) :
      Steps plan signal machine (machine.resumeUnit id queue unit (job.body opened)) := by
    have hlt := (List.getElem?_eq_some_iff.mp hworker).1
    refine .tail (.single (.pass hworker hjob hopens)) ?_
    rw [← resumeUnit_setWorker machine id ⟨queue, .running unit 0 (job.body opened)⟩]
    exact .resume (getElem?_setWorker_self machine id _ hlt) (Nat.zero_le _)
  unfold passGate
  split
  next hgate => exact hrun hworker (by simp only [Opens, hgate])
  next index hgate =>
    have hworker' : (machine.resumeGate index).workers[id]? = some ⟨queue, .atGate unit⟩ := by
      rw [workers_resumeGate, hworker]
    refine .head (.gate index hworker hjob hgate) ?_
    dsimp only
    split
    next value hopened =>
      exact hrun hworker' (by simp only [Opens, hgate]; exact ⟨value, rfl, hopened⟩)
    next panic hbroken => exact .single (.break hworker' hjob hgate hbroken)
    next =>
      rw [setWorker_self _ _ _ hworker']

theorem takeNext_steps {queue : List Nat} (hworker : machine.workers[id]? = some ⟨queue, .idle⟩) :
    Steps plan signal machine (takeNext plan machine id queue) := by
  induction queue generalizing machine with
  | nil => exact .single (.rest hworker)
  | cons unit queue ih =>
      have hlt := (List.getElem?_eq_some_iff.mp hworker).1
      unfold takeNext
      split
      next hstop =>
        have hlt' : id < (machine.skip plan unit).workers.length := by rwa [workers_skip]
        refine .head (.skip hworker hstop) ?_
        rw [← takeNext_setWorker plan _ id ⟨queue, .idle⟩]
        exact ih (getElem?_setWorker_self _ id _ hlt')
      next hstop =>
        split
        next job hjob =>
          refine .head (.take hworker hjob (Bool.not_eq_true _ ▸ hstop)) ?_
          rw [← passGate_setWorker _ id ⟨queue, .atGate unit⟩]
          exact passGate_steps (getElem?_setWorker_self _ id _ hlt) hjob
        next hjob =>
          refine .head (.drop hworker hjob) ?_
          rw [← takeNext_setWorker plan _ id ⟨queue, .idle⟩]
          exact ih (getElem?_setWorker_self _ id _ hlt)

theorem poll_steps : Steps plan signal machine (machine.poll plan id) := by
  unfold poll
  split
  next => exact .refl
  next worker hworker =>
    obtain ⟨queue, phase⟩ := worker
    have hlt := (List.getElem?_eq_some_iff.mp hworker).1
    cases phase with
    | stopped => exact .refl
    | idle => exact takeNext_steps hworker
    | atGate unit =>
        dsimp only
        split
        next job hjob => exact passGate_steps hworker hjob
        next => exact .refl
    | running unit wake task =>
        dsimp only
        split
        next => exact .refl
        next hwake => exact .single (.resume hworker (Nat.le_of_not_lt hwake))
    | reporting unit outcome =>
        cases outcome with
        | ok records =>
            refine .head (.report hworker) ?_
            dsimp only
            rw [← takeNext_setWorker plan { machine.report unit records with stop := _ } id
              ⟨queue, .idle⟩]
            exact takeNext_steps (getElem?_setWorker_self _ id _ hlt)
        | error panic =>
            dsimp only
            split
            next job hjob => exact .single (.crash hworker hjob)
            next => exact .refl

/-- A turn is a chain of steps. -/
theorem turn_steps (turn : Turn) : Steps plan (turn.stops = true) machine (machine.turn plan turn) :=
  .head (.elapse turn.elapsed turn.stops id) poll_steps

/-- So is a schedule, with a signal if one of its turns has one. -/
theorem runSchedule_steps (schedule : List Turn) :
    Steps plan (∃ turn ∈ schedule, turn.stops = true) machine (machine.runSchedule plan schedule) := by
  induction schedule generalizing machine with
  | nil => exact .refl
  | cons turn schedule ih =>
      refine .trans ((turn_steps turn).mono ?_) (ih.mono ?_)
      · exact fun hstops => ⟨turn, List.mem_cons_self, hstops⟩
      · rintro ⟨later, hmem, hstops⟩
        exact ⟨later, List.mem_cons_of_mem _ hmem, hstops⟩

end Turns

end Machine

end Acceptance.Pool
