import Acceptance.Proofs.Pool.Report

/-!
# Groups of units

Units that share a gate form a group. The marks of a group are those of its units and of its gate, and
as long as they are early ones, none of the units has gone further than to its gate.
-/

namespace Acceptance.Pool

/-- The group that a mark is about, given the groups of the units. The gate of a group has its number. -/
def Mark.group? (owner : Nat → Option Nat) : Mark → Option Nat
  | fromGate gate _ => some gate
  | mark => mark.unit?.bind owner

/-- The marks of a group, in order. -/
def marksAt (owner : Nat → Option Nat) (index : Nat) (trace : List Mark) : List Mark :=
  trace.filter fun mark => mark.group? owner = some index

/-- The events that gates have reported. -/
def gateEvents (marks : List Mark) : List Event :=
  marks.filterMap fun mark => match mark with
    | .fromGate _ event => some event
    | _ => none

/-- Whether a mark comes from a gate, or only tells that a unit was started or skipped. -/
def Mark.isEarly : Mark → Bool
  | started _ => true
  | skipped _ => true
  | fromGate _ _ => true
  | _ => false

/-- Whether nothing more happens to a unit with this mark. -/
def Mark.isFinal : Mark → Bool
  | ended _ => true
  | crashed _ => true
  | skipped _ => true
  | _ => false

section Groups

variable {owner : Nat → Option Nat} {index unit : Nat} {marks : List Mark}

theorem Mark.group?_of_unit? {mark : Mark} (h : mark.unit? = some unit) :
    mark.group? owner = owner unit := by
  cases mark <;> cases h <;> rfl

@[simp] theorem marksAt_append (before after : List Mark) :
    marksAt owner index (before ++ after) = marksAt owner index before ++ marksAt owner index after :=
  List.filter_append ..

theorem marksAt_eq_self (h : ∀ mark ∈ marks, mark.group? owner = some index) :
    marksAt owner index marks = marks := by
  simpa [marksAt] using h

theorem marksAt_eq_nil (h : ∀ mark ∈ marks, mark.group? owner ≠ some index) :
    marksAt owner index marks = [] := by
  simpa [marksAt] using h

theorem marksAt_fromGate (gate : Nat) (events : List Event) :
    marksAt owner gate (events.map (.fromGate gate)) = events.map (.fromGate gate) :=
  marksAt_eq_self (by simp [Mark.group?])

theorem marksAt_fromGate_of_ne {gate : Nat} (h : gate ≠ index) (events : List Event) :
    marksAt owner index (events.map (.fromGate gate)) = [] :=
  marksAt_eq_nil (by simp [Mark.group?, h])

/-- The marks of a unit are among those of its group. -/
theorem marksOf_marksAt (howner : owner unit = some index) (trace : List Mark) :
    marksOf unit (marksAt owner index trace) = marksOf unit trace := by
  rw [marksOf, marksAt, List.filter_filter]
  apply List.filter_congr
  intro mark _
  by_cases hunit : mark.unit? = some unit
  · simp [hunit, Mark.group?_of_unit? hunit, howner]
  · simp [hunit]

@[simp] theorem gateEvents_append (before after : List Mark) :
    gateEvents (before ++ after) = gateEvents before ++ gateEvents after :=
  List.filterMap_append ..

theorem gateEvents_eq_nil (h : ∀ mark ∈ marks, mark.unit? ≠ none) : gateEvents marks = [] := by
  rw [gateEvents, List.filterMap_eq_nil_iff]
  intro mark hmark
  have hunit := h mark hmark
  cases mark with
  | fromGate gate event => exact absurd rfl hunit
  | _ => rfl

@[simp] theorem gateEvents_fromGate (gate : Nat) (events : List Event) :
    gateEvents (events.map (.fromGate gate)) = events := by
  simp [gateEvents, List.filterMap_map]

end Groups

theorem isFinal_of_mem_callMarks {unit : Nat} {events : List Event} {mark : Mark}
    (h : mark ∈ callMarks unit events) : mark.isFinal = false := by
  rcases List.mem_cons.mp h with rfl | h
  · rfl
  · obtain ⟨event, _, rfl⟩ := List.mem_map.mp h
    rfl

section Runs

variable {σ γ : Type} {machine next : Machine σ γ} {id unit : Nat}
  {task : Task σ Event (List Record)}

/-- A worker runs a unit with some task left of it. -/
def Runs (machine : Machine σ γ) (unit : Nat) (task : Task σ Event (List Record)) : Prop :=
  ∃ (id : Nat) (queue : List Nat) (wake : Nat),
    machine.workers[id]? = some ⟨queue, .running unit wake task⟩

/-- Where one worker goes on, a unit that runs is the one that it has in hand, or has run before. -/
theorem Runs.of_set {worker : Worker σ} (runs : Runs next unit task)
    (hworkers : next.workers = machine.workers.set id worker) :
    (∃ wake, worker.phase = .running unit wake task) ∨
      ∃ (other : Nat) (queue : List Nat) (wake : Nat), other ≠ id ∧
        machine.workers[other]? = some ⟨queue, .running unit wake task⟩ := by
  obtain ⟨other, queue, wake, hother⟩ := runs
  rw [hworkers] at hother
  by_cases heq : id = other
  · subst heq
    have hlt : id < machine.workers.length := by
      have := (List.getElem?_eq_some_iff.mp hother).1
      rwa [List.length_set] at this
    rw [List.getElem?_set_self hlt] at hother
    exact .inl ⟨wake, by rw [Option.some.inj hother]⟩
  · rw [List.getElem?_set_ne heq] at hother
    exact .inr ⟨other, queue, wake, Ne.symm heq, hother⟩

theorem Runs.of_still {worker : Worker σ} (runs : Runs next unit task)
    (hworkers : next.workers = machine.workers.set id worker)
    (hstill : ∀ wake, worker.phase ≠ .running unit wake task) : Runs machine unit task := by
  obtain ⟨wake, hphase⟩ | ⟨other, queue, wake, _, hother⟩ := runs.of_set hworkers
  · exact absurd hphase (hstill wake)
  · exact ⟨other, queue, wake, hother⟩

/-- A unit that runs after it has been resumed runs what it has left. -/
theorem rest_of_phaseAfter {time wake : Nat} {standing : Task.Standing σ Event (List Record)}
    (h : phaseAfter time unit standing = .running unit wake task) : task = standing.rest := by
  cases standing <;> cases h <;> rfl

/-- A unit that its worker is done with has a final mark. -/
theorem Settled.exists_isFinal {plan : Plan σ γ} {gates : List (Task σ Event γ)} {fate : Fate}
    (h : Settled plan gates machine unit fate) :
    ∃ mark ∈ marksOf unit machine.trace, mark.isFinal = true := by
  obtain ⟨job, events, _, _, hmarks, _⟩ := h
  rw [hmarks]
  cases fate with
  | returned records => exact ⟨.ended unit, by simp [Fate.marks], rfl⟩
  | crashed panic now => exact ⟨.crashed unit, by simp [Fate.marks], rfl⟩
  | skipped now => exact ⟨.skipped unit, by simp [Fate.marks], rfl⟩

/-- A unit that was called and of which only early marks are seen was started, and that is all. -/
theorem eq_started_of_isEarly {events : List Event} {marks last : List Mark}
    (hmarks : marks = callMarks unit events ++ last) (hlast : ∀ mark ∈ last, mark.isEarly = false)
    (hearly : ∀ mark ∈ marks, mark.isEarly = true) : marks = [.started unit] := by
  have hnone (mark : Mark) (hmark : mark ∈ events.map (.fromUnit unit) ++ last) :
      mark.isEarly = false := by
    rcases List.mem_append.mp hmark with hmark | hmark
    · obtain ⟨event, _, rfl⟩ := List.mem_map.mp hmark
      rfl
    · exact hlast mark hmark
  rw [callMarks, List.cons_append] at hmarks
  rw [hmarks] at hearly ⊢
  rw [List.eq_nil_iff_forall_not_mem.mpr fun mark hmark =>
    Bool.false_ne_true ((hnone mark hmark).symm.trans (hearly mark (List.mem_cons_of_mem _ hmark)))]

/-- A unit of which only early marks are seen has not gone far. -/
theorem Sound.early {plan : Plan σ γ} {gates : List (Task σ Event γ)} {width : Nat} {signal : Prop}
    (sound : Sound plan gates width signal machine) (hwidth : 0 < width)
    (hunit : unit < plan.jobs.length)
    (hearly : ∀ mark ∈ marksOf unit machine.trace, mark.isEarly = true) :
    marksOf unit machine.trace = [] ∨ marksOf unit machine.trace = [.started unit] ∨
      marksOf unit machine.trace = [.skipped unit] := by
  obtain ⟨worker, past, hworker, history, ⟨fate, hentry⟩ | hpending⟩ := sound.stands hunit hwidth
  · obtain ⟨job, events, _, _, hmarks, _⟩ := history.settled _ hentry
    cases fate with
    | returned records =>
        exact .inr (.inl (eq_started_of_isEarly hmarks (by simp [Mark.isEarly]) hearly))
    | crashed panic now =>
        exact .inr (.inl (eq_started_of_isEarly hmarks (by simp [Mark.isEarly]) hearly))
    | skipped now => exact .inr (.inr hmarks)
  · rcases List.mem_append.mp hpending with hheld | hqueue
    · obtain ⟨_, events, last, hmarks, hlast⟩ := history.inHand.exists_marks hheld
      refine .inr (.inl (eq_started_of_isEarly hmarks ?_ hearly))
      obtain rfl | rfl | rfl := hlast <;> simp [Mark.isEarly]
    · exact .inl (history.waiting unit hqueue).1

end Runs

/-! ## Every mark is about some group -/

section Accounts

variable {σ γ : Type} {plan : Plan σ γ} {gates : List (Task σ Event γ)} {width : Nat} {signal : Prop}
  {machine next : Machine σ γ} {unit : Nat}

/-- The group of a unit is told by the gate of its job. -/
def Plan.groupOf (plan : Plan σ γ) (unit : Nat) : Option Nat := plan.jobs[unit]?.bind Job.gate

/-- All marks are about units that have jobs, or come from their gates. -/
def Accounted (plan : Plan σ γ) (marks : List Mark) : Prop :=
  ∀ mark ∈ marks, ∃ job ∈ plan.jobs, mark.group? plan.groupOf = job.gate

theorem Accounted.append {marks added : List Mark} (h : Accounted plan marks)
    (hadded : Accounted plan added) : Accounted plan (marks ++ added) :=
  fun mark hmark => (List.mem_append.mp hmark).elim (h mark) (hadded mark)

theorem accounted_of_unit {added : List Mark} {job : Job σ γ} (hjob : plan.jobs[unit]? = some job)
    (hadded : ∀ mark ∈ added, mark.unit? = some unit) : Accounted plan added := by
  intro mark hmark
  refine ⟨job, List.mem_of_getElem? hjob, ?_⟩
  rw [Mark.group?_of_unit? (hadded mark hmark), Plan.groupOf, hjob]
  rfl

theorem Accounted.skip (h : Accounted plan machine.trace) (unit : Nat) :
    Accounted plan (machine.skip plan unit).trace := by
  unfold Machine.skip
  split
  next job hjob => exact h.append (accounted_of_unit hjob (by simp [Mark.unit?]))
  next => exact h

theorem Accounted.foldl_skip (h : Accounted plan machine.trace) (queue : List Nat) :
    Accounted plan (queue.foldl (Machine.skip plan) machine).trace := by
  induction queue generalizing machine with
  | nil => exact h
  | cons unit queue ih => exact ih (h.skip unit)

/-- Every step keeps the marks accounted for. -/
theorem Accounted.step (h : Accounted plan machine.trace) (sound : Sound plan gates width signal machine)
    (step : Machine.Step plan signal machine next) : Accounted plan next.trace := by
  cases step with
  | elapse elapsed stops _ => exact h
  | take _ hjob _ => exact h.append (accounted_of_unit hjob (by simp [Mark.unit?]))
  | skip _ _ => exact h.skip _
  | drop _ _ => exact h
  | rest _ => exact h
  | gate index _ hjob hgate =>
      obtain heq | ⟨_, _, _, _, heq⟩ := resumeGate_eq machine index
      · rwa [heq]
      · rw [heq]
        refine h.append fun mark hmark => ⟨_, List.mem_of_getElem? hjob, ?_⟩
        obtain ⟨event, _, rfl⟩ := List.mem_map.mp hmark
        exact hgate.symm
  | pass _ _ _ => exact h
  | «break» _ hjob _ _ => exact h.append (accounted_of_unit hjob (by simp [Mark.unit?]))
  | resume hworker _ =>
      obtain ⟨past, history⟩ := sound.workers _ _ hworker
      obtain ⟨job, hjob⟩ := history.exists_job List.mem_cons_self
      rw [resumeUnit_eq]
      exact h.append (accounted_of_unit hjob fun _ => unit?_of_mem_resume)
  | report _ => exact h
  | @crash id unit queue job panic _ _ =>
      have hreported : Accounted plan (machine.report unit
          [.failed job.instance_ (.workerCrashed panic.message) machine.time]).trace := h
      exact hreported.foldl_skip queue

theorem accounted_runSchedule (workers : Nat) (plan : Plan σ γ) (gates : List (Task σ Event γ))
    (stop : Bool) (shared : σ) (schedule : List Turn) :
    Accounted plan ((start workers plan gates stop shared).runSchedule plan schedule).trace :=
  invariant_runSchedule (fun machine => Accounted plan machine.trace) schedule nofun
    fun sound step h => h.step sound step

end Accounts

end Acceptance.Pool
