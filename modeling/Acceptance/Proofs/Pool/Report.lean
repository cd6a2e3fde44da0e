import Acceptance.Proofs.Pool.Order

/-!
# The report of a pool

What a pool hands back when all of its workers are done: for every unit the records of its fate, in
the order of the units.
-/

namespace Acceptance.Pool

variable {σ γ : Type} {plan : Plan σ γ} {gates : List (Task σ Event γ)} {width id unit : Nat}
  {signal : Prop} {machine : Machine σ γ}

/-- The records of all units, unit by unit. -/
def Machine.reported (plan : Plan σ γ) (machine : Machine σ γ) : List (List Record) :=
  (List.range plan.jobs.length).map machine.recordsOf

theorem width_pos (workers units : Nat) : 0 < Pool.width workers units := by
  unfold Pool.width
  omega

/-! ## Where a unit stands -/

/-- What has happened to a unit in hand: it was called, and may have ended or crashed, but it is not
reported yet. -/
theorem InHand.exists_marks {phase : Phase σ} (h : InHand plan gates machine phase)
    (hunit : unit ∈ phase.held) :
    machine.recordsOf unit = [] ∧ ∃ events last,
      marksOf unit machine.trace = callMarks unit events ++ last ∧
        (last = [] ∨ last = [.ended unit] ∨ last = [.crashed unit]) := by
  cases phase with
  | idle => cases hunit
  | stopped => cases hunit
  | atGate other =>
      cases List.mem_singleton.mp hunit
      exact ⟨h.2, [], [], h.1, .inl rfl⟩
  | running other wake task =>
      cases List.mem_singleton.mp hunit
      obtain ⟨⟨job, opened, acts, _, _, _, _, _, hmarks⟩, hrecords⟩ := h
      exact ⟨hrecords, _, [], hmarks.trans (List.append_nil _).symm, .inl rfl⟩
  | reporting other outcome =>
      cases List.mem_singleton.mp hunit
      cases outcome with
      | ok records =>
          obtain ⟨⟨job, events, _, _, hmarks⟩, hrecords⟩ := h
          exact ⟨hrecords, events, _, hmarks, .inr (.inl rfl)⟩
      | error panic =>
          obtain ⟨⟨job, events, _, _, hmarks⟩, hrecords⟩ := h
          exact ⟨hrecords, events, _, hmarks, .inr (.inr rfl)⟩

/-- A unit in hand is not reported yet, and never skipped. -/
theorem InHand.pending {phase : Phase σ} (h : InHand plan gates machine phase)
    (hunit : unit ∈ phase.held) :
    machine.recordsOf unit = [] ∧ .skipped unit ∉ marksOf unit machine.trace := by
  obtain ⟨hrecords, events, last, hmarks, hlast⟩ := h.exists_marks hunit
  refine ⟨hrecords, ?_⟩
  rw [hmarks]
  obtain rfl | rfl | rfl := hlast <;> simp [callMarks]


/-- A unit that its worker is not done with is not reported yet, and not skipped. -/
theorem History.pending {worker : Worker σ} {past : List (Nat × Fate)}
    (h : History plan gates width machine id worker past) (hunit : unit ∈ worker.units) :
    machine.recordsOf unit = [] ∧ .skipped unit ∉ machine.trace := by
  have hpending : machine.recordsOf unit = [] ∧ .skipped unit ∉ marksOf unit machine.trace := by
    rcases List.mem_append.mp hunit with hheld | hqueue
    · exact h.inHand.pending hheld
    · obtain ⟨hmarks, hrecords⟩ := h.waiting unit hqueue
      exact ⟨hrecords, by simp [hmarks]⟩
  exact hpending.imp_right fun hskipped hmem => hskipped ((mem_marksOf rfl).mpr hmem)

/-- A unit of a sound pool is settled, or its worker is not done with it. -/
theorem Sound.stands (sound : Sound plan gates width signal machine)
    (hunit : unit < plan.jobs.length) (hwidth : 0 < width) :
    ∃ worker past, machine.workers[unit % width]? = some worker ∧
      History plan gates width machine (unit % width) worker past ∧
      ((∃ fate, (unit, fate) ∈ past) ∨ unit ∈ worker.units) := by
  obtain ⟨worker, hworker⟩ : ∃ worker, machine.workers[unit % width]? = some worker :=
    ⟨_, List.getElem?_eq_getElem (sound.length.symm ▸ Nat.mod_lt _ hwidth)⟩
  obtain ⟨past, history⟩ := sound.workers _ _ hworker
  refine ⟨worker, past, hworker, history, ?_⟩
  have hmem : unit ∈ queueOf width plan.jobs.length (unit % width) := mem_queueOf.mpr ⟨hunit, rfl⟩
  rw [history.queue] at hmem
  refine (List.mem_append.mp hmem).imp_left ?_
  intro hpast
  obtain ⟨⟨_, fate⟩, hentry, rfl⟩ := List.mem_map.mp hpast
  exact ⟨fate, hentry⟩

/-- A unit belongs to one worker only. -/
theorem Sound.notMem_units {id other : Nat} {worker worker' : Worker σ}
    (sound : Sound plan gates width signal machine) (hworker : machine.workers[id]? = some worker)
    (hunit : unit ∈ worker.units) (hne : other ≠ id)
    (hother : machine.workers[other]? = some worker') : unit ∉ worker'.units := by
  intro hunit'
  obtain ⟨past, history⟩ := sound.workers id worker hworker
  obtain ⟨past', history'⟩ := sound.workers other worker' hother
  exact hne ((history'.mem_class hunit').2.symm.trans (history.mem_class hunit).2)

/-- A unit that runs is in the hand of one worker only, and has not ended. -/
theorem Sound.alone {id wake : Nat} {queue : List Nat} {task : Task σ Event (List Record)}
    (sound : Sound plan gates width signal machine)
    (hworker : machine.workers[id]? = some ⟨queue, .running unit wake task⟩) :
    unit ∉ queue ∧
      (∀ (other : Nat) (worker : Worker σ), other ≠ id → machine.workers[other]? = some worker →
        unit ∉ worker.units) ∧
      machine.recordsOf unit = [] ∧ .ended unit ∉ machine.trace := by
  obtain ⟨past, history⟩ := sound.workers id _ hworker
  obtain ⟨⟨_, _, acts, _, _, _, _, _, hmarks⟩, hempty⟩ := history.inHand
  have hunits := (List.nodup_append.mp history.nodup).2.1
  have hmem : unit ∈ Worker.units ⟨queue, .running unit wake task⟩ := List.mem_cons_self
  refine ⟨(List.nodup_cons.mp hunits).1, ?_, hempty, ?_⟩
  · exact fun other worker hne hother => sound.notMem_units hworker hmem hne hother
  · intro hended
    have hmem : .ended unit ∈ marksOf unit machine.trace := (mem_marksOf rfl).mpr hended
    simp [hmarks, callMarks] at hmem

/-- A skipped unit is settled. -/
theorem Sound.stands_skipped (sound : Sound plan gates width signal machine)
    (hunit : unit < plan.jobs.length) (hwidth : 0 < width) (hskipped : .skipped unit ∈ machine.trace) :
    ∃ worker past fate, machine.workers[unit % width]? = some worker ∧
      History plan gates width machine (unit % width) worker past ∧ (unit, fate) ∈ past ∧
      fate.isSkipped = true := by
  obtain ⟨worker, past, hworker, history, ⟨fate, hentry⟩ | hpending⟩ := sound.stands hunit hwidth
  · refine ⟨worker, past, fate, hworker, history, hentry, ?_⟩
    exact (history.settled _ hentry).isSkipped_iff.mpr hskipped
  · exact absurd hskipped (history.pending hpending).2

/-- Behind a skipped unit of a queue there are only skipped ones. -/
theorem History.skipped_later {worker : Worker σ} {past : List (Nat × Fate)} {entry later : Nat × Fate}
    (h : History plan gates width machine id worker past) (hentry : entry ∈ past)
    (hlater : later ∈ past) (hlt : entry.1 < later.1) (hskipped : entry.2.isSkipped = true) :
    later.2.isSkipped = true := by
  have hsorted : past.Pairwise fun earlier later => earlier.1 < later.1 :=
    List.pairwise_map.mp (List.pairwise_append.mp (h.queue ▸ queueOf_pairwise)).1
  obtain ⟨i, hi, rfl⟩ := List.getElem_of_mem hentry
  obtain ⟨j, hj, rfl⟩ := List.getElem_of_mem hlater
  rcases Nat.lt_trichotomy i j with hij | rfl | hji
  · refine (List.pairwise_iff_getElem.mp h.order i j hi hj hij).resolve_left ?_
    intro hreturned
    cases hfate : past[i].2 <;> simp [hfate, Fate.isReturned, Fate.isSkipped] at hreturned hskipped
  · exact absurd hlt (Nat.lt_irrefl _)
  · exact absurd hlt (Nat.lt_asymm (List.pairwise_iff_getElem.mp hsorted j i hj hi hji))

/-- A worker that is done is done with all units of its queue. -/
theorem Machine.units_of_isComplete {worker : Worker σ} {past : List (Nat × Fate)}
    (hcomplete : machine.isComplete = true) (hworker : machine.workers[id]? = some worker)
    (history : History plan gates width machine id worker past) : worker.units = [] := by
  have hall := List.all_eq_true.mp hcomplete worker (List.mem_of_getElem? hworker)
  have hstopped : worker.phase = .stopped := by
    obtain ⟨queue, phase⟩ := worker
    cases phase <;> simp_all
  rw [Worker.units, hstopped, history.stopped hstopped]
  rfl

/-! ## The report -/

/-- What can be told of a pool after some schedule, whatever its units do. -/
structure Accountable (plan : Plan σ γ) (gates : List (Task σ Event γ)) (width : Nat) (signal : Prop)
    (machine : Machine σ γ) : Prop where
  /-- When all workers are done there is one entry for each unit, in order, and each unit met a fate
  that its marks and its entry tell: it was called once and returned, or called once and crashed, or
  never called. -/
  entries : machine.isComplete = true →
    (machine.reported plan).length = plan.jobs.length ∧
      ∀ unit job, plan.jobs[unit]? = some job → ∃ fate, Settled plan gates machine unit fate ∧
        (machine.reported plan)[unit]? = some (fate.records job.instance_)
  /-- No unit meets fates of different kinds. -/
  unique : ∀ unit fate fate', Settled plan gates machine unit fate →
    Settled plan gates machine unit fate' →
      fate.isReturned = fate'.isReturned ∧ fate.isCrashed = fate'.isCrashed ∧
        fate.isSkipped = fate'.isSkipped
  /-- A unit is skipped only where the start of units is stopped or an earlier unit of its queue
  crashed. -/
  skipped : ∀ unit < plan.jobs.length, .skipped unit ∈ machine.trace →
    machine.stop = true ∨
      ∃ earlier < unit, earlier % width = unit % width ∧ .crashed earlier ∈ machine.trace
  /-- The skipped units of a queue are its last ones. -/
  suffixes : machine.isComplete = true → ∀ unit later, .skipped unit ∈ machine.trace →
    unit < later → later < plan.jobs.length → later % width = unit % width →
      .skipped later ∈ machine.trace
  /-- A unit is started only when all earlier units of its queue have ended. -/
  order : StartsInOrder width machine.trace
  /-- At no moment are there more units in flight than workers. -/
  inFlight : ∀ moment, moment <+: machine.trace →
    (Pool.inFlight plan.jobs.length moment).length ≤ width
  /-- No unit is started in a turn at whose end the start of units is stopped. -/
  quiet : ∀ turn, (machine.turn plan turn).stop = true →
    ∀ unit, .started unit ∈ (machine.turn plan turn).trace → .started unit ∈ machine.trace
  /-- The start of units is stopped by a signal from outside, and by a unit that returned a failure
  where the plan says so. -/
  stop : machine.stop = true ↔
    signal ∨ plan.failFast = true ∧ ∃ unit < plan.jobs.length, .ended unit ∈ machine.trace ∧
      Machine.endsFailed (machine.recordsOf unit) = true

section Report

theorem Sound.entries (sound : Sound plan gates width signal machine) (hwidth : 0 < width)
    (hcomplete : machine.isComplete = true) {job : Job σ γ} (hjob : plan.jobs[unit]? = some job) :
    ∃ fate, Settled plan gates machine unit fate ∧
      (machine.reported plan)[unit]? = some (fate.records job.instance_) := by
  have hunit := (List.getElem?_eq_some_iff.mp hjob).1
  obtain ⟨worker, past, hworker, history, ⟨fate, hentry⟩ | hpending⟩ := sound.stands hunit hwidth
  · have settled := history.settled _ hentry
    refine ⟨fate, settled, ?_⟩
    obtain ⟨job', events, hjob', _, _, hrecords⟩ := settled
    cases hjob.symm.trans hjob'
    simp [Machine.reported, hunit, hrecords]
  · rw [Machine.units_of_isComplete hcomplete hworker history] at hpending
    cases hpending

theorem Sound.skipped (sound : Sound plan gates width signal machine) (hwidth : 0 < width)
    (hunit : unit < plan.jobs.length) (hskipped : .skipped unit ∈ machine.trace) :
    machine.stop = true ∨
      ∃ earlier < unit, earlier % width = unit % width ∧ .crashed earlier ∈ machine.trace := by
  obtain ⟨worker, past, fate, _, history, hentry, hfate⟩ :=
    sound.stands_skipped hunit hwidth hskipped
  refine (history.skipped _ hentry hfate).imp_right ?_
  rintro ⟨cause, hcause, hcrashed, hlt⟩
  refine ⟨cause.1, hlt, ?_, ?_⟩
  · have hmem := List.mem_append_left worker.units (List.mem_map_of_mem (f := Prod.fst) hcause)
    rw [← history.queue] at hmem
    exact (mem_queueOf.mp hmem).2
  · exact (history.settled _ hcause).isCrashed_iff.mp hcrashed

theorem Sound.suffixes (sound : Sound plan gates width signal machine) (hwidth : 0 < width)
    (hcomplete : machine.isComplete = true) {later : Nat} (hskipped : .skipped unit ∈ machine.trace)
    (hlt : unit < later) (hlater : later < plan.jobs.length)
    (hclass : later % width = unit % width) : .skipped later ∈ machine.trace := by
  obtain ⟨worker, past, fate, hworker, history, hentry, hfate⟩ :=
    sound.stands_skipped (Nat.lt_trans hlt hlater) hwidth hskipped
  have hmem : later ∈ queueOf width plan.jobs.length (unit % width) :=
    mem_queueOf.mpr ⟨hlater, hclass⟩
  rw [history.queue, Machine.units_of_isComplete hcomplete hworker history, List.append_nil] at hmem
  obtain ⟨entry', hentry', rfl⟩ := List.mem_map.mp hmem
  have hfate' := history.skipped_later hentry hentry' hlt hfate
  exact (history.settled _ hentry').isSkipped_iff.mp hfate'

/-- A unit that is reported has met its fate. -/
theorem Sound.settled_of_reported (sound : Sound plan gates width signal machine) (hwidth : 0 < width)
    (hunit : unit < plan.jobs.length) (hrecords : machine.recordsOf unit ≠ []) :
    ∃ fate, Settled plan gates machine unit fate := by
  obtain ⟨worker, past, _, history, ⟨fate, hentry⟩ | hpending⟩ := sound.stands hunit hwidth
  · exact ⟨fate, history.settled _ hentry⟩
  · exact absurd (history.pending hpending).1 hrecords

/-- The start of units is stopped by a unit that returned a failure, where the plan says so. -/
theorem Sound.stop_of_failed (sound : Sound plan gates width signal machine) (hwidth : 0 < width)
    (hfast : plan.failFast = true) (hunit : unit < plan.jobs.length)
    (hended : .ended unit ∈ machine.trace)
    (hfailed : Machine.endsFailed (machine.recordsOf unit) = true) : machine.stop = true := by
  obtain ⟨worker, past, _, history, ⟨fate, hentry⟩ | hpending⟩ := sound.stands hunit hwidth
  · have settled := history.settled _ hentry
    obtain ⟨records, rfl⟩ := settled.exists_returned hended
    obtain ⟨job, events, _, _, _, hrecords⟩ := settled
    rw [hrecords] at hfailed
    exact history.failed hfast ⟨_, hentry, records, rfl, hfailed⟩
  · rw [(history.pending hpending).1] at hfailed
    cases hfailed

theorem Sound.stop_cause (sound : Sound plan gates width signal machine)
    (hstop : machine.stop = true) :
    signal ∨ plan.failFast = true ∧ ∃ unit < plan.jobs.length, .ended unit ∈ machine.trace ∧
      Machine.endsFailed (machine.recordsOf unit) = true := by
  refine (sound.cause hstop).imp_right ?_
  rintro ⟨hfast, id, worker, past, _, history, ⟨unit, fate⟩, hentry, records, hreturned, hfailed⟩
  cases hreturned
  have settled := history.settled _ hentry
  have hended := settled.isReturned_iff.mp rfl
  obtain ⟨job, events, hjob, _, _, hrecords⟩ := settled
  refine ⟨hfast, unit, (List.getElem?_eq_some_iff.mp hjob).1, hended, ?_⟩
  rw [hrecords]
  exact hfailed

/-- Where no call of a unit may crash, none has crashed. -/
theorem Sound.not_crashed (sound : Sound plan gates width signal machine) (hwidth : 0 < width)
    (hcomplete : machine.isComplete = true)
    (hcalm : ∀ job ∈ plan.jobs, ∀ events panic, ¬ Called gates job events (.crashed panic))
    (hunit : unit < plan.jobs.length) :
    .crashed unit ∉ machine.trace := by
  intro hcrashed
  have hjob := List.getElem?_eq_getElem hunit
  obtain ⟨fate, settled, _⟩ := sound.entries hwidth hcomplete hjob
  obtain ⟨panic, now, rfl⟩ := settled.exists_crashed hcrashed
  obtain ⟨job, events, hjob, hcalled, _⟩ := settled
  exact hcalm job (List.mem_of_getElem? hjob) events panic (hcalled _ rfl)

/-- Where nothing crashes and the start of units is not stopped, every unit returns what is reported
of it. -/
theorem Sound.returned (sound : Sound plan gates width signal machine) (hwidth : 0 < width)
    (hcomplete : machine.isComplete = true)
    (hcalm : ∀ job ∈ plan.jobs, ∀ events panic, ¬ Called gates job events (.crashed panic))
    (hstop : machine.stop = false) {job : Job σ γ} (hjob : plan.jobs[unit]? = some job) :
    .ended unit ∈ machine.trace ∧ ∃ opened acts, Passes gates job opened ∧
      (job.body opened).Ends acts (.finished (machine.recordsOf unit)) ∧ Task.InOrder acts := by
  have hunit := (List.getElem?_eq_some_iff.mp hjob).1
  obtain ⟨fate, settled, _⟩ := sound.entries hwidth hcomplete hjob
  cases fate with
  | returned records =>
      refine ⟨settled.isReturned_iff.mp rfl, ?_⟩
      obtain ⟨job', events, hjob', hcalled, _, hrecords⟩ := settled
      cases hjob.symm.trans hjob'
      rw [hrecords]
      cases hcalled _ rfl with
      | ran hpasses hends horder => exact ⟨_, _, hpasses, hends, horder⟩
  | crashed panic now =>
      have hcrashed := settled.isCrashed_iff.mp rfl
      exact absurd hcrashed (sound.not_crashed hwidth hcomplete hcalm hunit)
  | skipped now =>
      have hskipped := settled.isSkipped_iff.mp rfl
      rcases sound.skipped hwidth hunit hskipped with hstopped | ⟨earlier, hlt, _, hcrashed⟩
      · rw [hstop] at hstopped
        cases hstopped
      · exact absurd hcrashed
          (sound.not_crashed hwidth hcomplete hcalm (Nat.lt_trans hlt hunit))

/-- Once the start of units is stopped it stays so. -/
theorem stop_step {next : Machine σ γ} (step : Machine.Step plan signal machine next)
    (hstop : machine.stop = true) : next.stop = true := by
  cases step with
  | elapse elapsed stops _ => simp [hstop]
  | take _ _ _ => exact hstop
  | skip _ _ => exact (Machine.stop_skip plan machine _).trans hstop
  | drop _ _ => exact hstop
  | rest _ => exact hstop
  | gate index => exact stop_resumeGate.trans hstop
  | pass _ _ _ => exact hstop
  | «break» _ _ _ _ => exact hstop
  | resume _ _ => exact stop_resumeUnit.trans hstop
  | report _ => simp [Machine.setWorker, hstop]
  | crash _ _ => exact (Machine.foldl_skip_rest plan _ _).2.2.1.trans hstop

theorem stop_steps {next : Machine σ γ} (steps : Machine.Steps plan signal machine next)
    (hstop : machine.stop = true) : next.stop = true :=
  steps.invariant (fun machine => machine.stop = true) hstop stop_step

/-- A signal in one of the turns of a schedule stops the start of units. -/
theorem stop_runSchedule {schedule : List Turn}
    (h : machine.stop = true ∨ ∃ turn ∈ schedule, turn.stops = true) :
    (machine.runSchedule plan schedule).stop = true := by
  induction schedule generalizing machine with
  | nil => exact h.resolve_right (by simp)
  | cons turn schedule ih =>
      apply ih
      rw [List.exists_mem_cons_iff, ← or_assoc] at h
      refine h.imp_left fun hfirst => ?_
      have hstop : (machine.stop || turn.stops) = true := Bool.or_eq_true_iff.mpr hfirst
      have steps : Machine.Steps plan True _ (machine.turn plan turn) := Machine.poll_steps
      exact stop_steps steps hstop

/-- Once the start of units is stopped, no unit is started any more. -/
theorem quiet_runSchedule (hstop : machine.stop = true) (schedule : List Turn) :
    Quiet machine (machine.runSchedule plan schedule) := by
  induction schedule generalizing machine with
  | nil => exact .of_trace_eq rfl
  | cons turn schedule ih =>
      have hnext : (machine.runSchedule plan [turn]).stop = true := stop_runSchedule (.inl hstop)
      exact (quiet_turn turn hnext).trans (ih hnext)

end Report

/-- A pool accounts for its units whatever they do and in whatever order its workers take turns. -/
theorem runSchedule_accountable (workers : Nat) (plan : Plan σ γ) (gates : List (Task σ Event γ))
    (stop : Bool) (shared : σ) (schedule : List Turn) :
    Accountable plan gates (Pool.width workers plan.jobs.length)
      (stop = true ∨ ∃ turn ∈ schedule, turn.stops = true)
      ((start workers plan gates stop shared).runSchedule plan schedule) := by
  have hwidth := width_pos workers plan.jobs.length
  have sound := sound_runSchedule workers plan gates stop shared schedule
  have order := startsInOrder_runSchedule workers plan gates stop shared schedule
  exact
    { entries := fun hcomplete =>
        ⟨by simp [Machine.reported], fun _ _ => sound.entries hwidth hcomplete⟩
      unique := fun _ _ _ => Settled.unique
      skipped := fun _ => sound.skipped hwidth
      suffixes := fun hcomplete _ _ => sound.suffixes hwidth hcomplete
      order := order
      inFlight := fun _ => order.length_inFlight_le hwidth
      quiet := fun turn hstop _ => (quiet_turn turn hstop).mem_trace
      stop := by
        refine ⟨sound.stop_cause, ?_⟩
        rintro (hsignal | ⟨hfast, unit, hunit, hended, hfailed⟩)
        · exact stop_runSchedule hsignal
        · exact sound.stop_of_failed hwidth hfast hunit hended hfailed }

end Acceptance.Pool
