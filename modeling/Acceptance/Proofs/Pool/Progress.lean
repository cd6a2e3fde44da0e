import Acceptance.Proofs.Pool.Report

/-!
# Progress of a pool

A pool whose gates and units never hang can always be brought to its end: whatever has happened so
far, there are further turns after which all workers are done. A worker is brought to its end by turns
of its own, since it may resume the gate that it waits for by itself.
-/

namespace Acceptance.Pool

variable {σ γ : Type}

/-- Neither the units of a pool nor the gates that they have to pass ever hang, and every such gate is
there. -/
structure NeverHangs (plan : Plan σ γ) (gates : List (Task σ Event γ)) : Prop where
  tasks : ∀ job ∈ plan.jobs, ∀ index ∈ job.gate, ∀ task, gates[index]? = some task →
    task.Avoids .hang
  bodies : ∀ job ∈ plan.jobs, ∀ opened, Passes gates job opened → (job.body opened).Avoids .hang
  gated : ∀ job ∈ plan.jobs, ∀ index ∈ job.gate, index < gates.length

/-- A turn in which only time passes apart from what its worker does. -/
def Turn.after (id elapsed : Nat) : Turn := { worker := id, elapsed }

/-- A worker can be brought to its end by turns of its own. -/
def CanEnd (plan : Plan σ γ) (id : Nat) (machine : Machine σ γ) : Prop :=
  ∃ delays : List Nat,
    (machine.runSchedule plan (delays.map (Turn.after id))).workers[id]? = some ⟨[], .stopped⟩

variable {plan : Plan σ γ} {gates : List (Task σ Event γ)} {width id unit : Nat} {signal : Prop}
  {machine : Machine σ γ} {queue : List Nat} {job : Job σ γ}

/-! ## A turn changes one worker only -/

section Workers

/-- Past its gate a unit is in hand; before it, its worker waits. -/
theorem passGate_cases (machine : Machine σ γ) (id : Nat) (queue : List Nat) (unit : Nat)
    (job : Job σ γ) :
    (∃ phase, (∀ other, phase ≠ .atGate other) ∧
      (machine.passGate id queue unit job).workers = machine.workers.set id ⟨queue, phase⟩) ∨
    ∃ index, job.gate = some index ∧
      (∀ value, (machine.resumeGate index).gates[index]? ≠ some (.opened value)) ∧
      (∀ panic, (machine.resumeGate index).gates[index]? ≠ some (.broken panic)) ∧
      machine.passGate id queue unit job =
        (machine.resumeGate index).setWorker id ⟨queue, .atGate unit⟩ := by
  have hresumed (machine : Machine σ γ) (task : Task σ Event (List Record)) :
      ∃ phase, (∀ other, phase ≠ .atGate other) ∧
        (machine.resumeUnit id queue unit task).workers = machine.workers.set id ⟨queue, phase⟩ := by
    rw [resumeUnit_eq]
    refine ⟨_, ?_, rfl⟩
    cases (task.resume machine.time machine.shared).standing <;> simp [phaseAfter]
  unfold Machine.passGate
  cases hgate : job.gate with
  | none => exact .inl (hresumed machine _)
  | some index =>
      dsimp only
      split
      next value _ =>
        rw [← Machine.workers_resumeGate machine index]
        exact .inl (hresumed _ _)
      next panic _ =>
        rw [← Machine.workers_resumeGate machine index]
        exact .inl ⟨.reporting unit (.error panic), by simp, rfl⟩
      next hopened hbroken => exact .inr ⟨index, rfl, hopened, hbroken, rfl⟩

theorem workers_passGate (machine : Machine σ γ) (id : Nat) (queue : List Nat) (unit : Nat)
    (job : Job σ γ) : ∃ phase,
      (machine.passGate id queue unit job).workers = machine.workers.set id ⟨queue, phase⟩ := by
  obtain ⟨phase, _, heq⟩ | ⟨index, _, _, _, heq⟩ := passGate_cases machine id queue unit job
  · exact ⟨phase, heq⟩
  · refine ⟨.atGate unit, ?_⟩
    rw [heq, ← Machine.workers_resumeGate machine index]
    rfl

/-- A worker that takes the next unit has fewer units to take, or is done. -/
theorem workers_takeNext (machine : Machine σ γ) (id : Nat) (queue : List Nat) :
    ∃ worker, (machine.takeNext plan id queue).workers = machine.workers.set id worker ∧
      (worker.phase = .stopped ∨ worker.queue.length < queue.length) := by
  induction queue generalizing machine with
  | nil => exact ⟨⟨[], .stopped⟩, rfl, .inl rfl⟩
  | cons unit queue ih =>
      have hlater {worker : Worker σ}
          (h : worker.phase = .stopped ∨ worker.queue.length < queue.length) :
          worker.phase = .stopped ∨ worker.queue.length < (unit :: queue).length :=
        h.imp_right fun hlt => Nat.lt_succ_of_lt hlt
      unfold Machine.takeNext
      split
      · obtain ⟨worker, heq, h⟩ := ih (machine.skip plan unit)
        rw [Machine.workers_skip] at heq
        exact ⟨worker, heq, hlater h⟩
      · split
        next job _ =>
          obtain ⟨phase, heq⟩ := workers_passGate (machine.log [.started unit]) id queue unit job
          exact ⟨_, heq, .inr (Nat.lt_succ_self _)⟩
        next =>
          obtain ⟨worker, heq, h⟩ := ih machine
          exact ⟨worker, heq, hlater h⟩

theorem workers_turn (machine : Machine σ γ) (turn : Turn) :
    (machine.turn plan turn).workers = machine.workers ∨
      ∃ worker, (machine.turn plan turn).workers = machine.workers.set turn.worker worker := by
  have htaken (machine : Machine σ γ) (queue : List Nat) : ∃ worker,
      (machine.takeNext plan turn.worker queue).workers = machine.workers.set turn.worker worker := by
    obtain ⟨worker, heq, _⟩ := workers_takeNext machine turn.worker queue
    exact ⟨worker, heq⟩
  unfold Machine.turn Machine.poll
  split
  next => exact .inl rfl
  next worker _ =>
    obtain ⟨queue, phase⟩ := worker
    cases phase with
    | stopped => exact .inl rfl
    | idle => exact .inr (htaken _ queue)
    | atGate unit =>
        dsimp only
        split
        next job _ =>
          obtain ⟨phase, heq⟩ := workers_passGate _ turn.worker queue unit job
          exact .inr ⟨_, heq⟩
        next => exact .inl rfl
    | running unit wake task =>
        dsimp only
        split
        next => exact .inl rfl
        next =>
          rw [resumeUnit_eq]
          exact .inr ⟨_, rfl⟩
    | reporting unit outcome =>
        cases outcome with
        | ok records => exact .inr (htaken _ queue)
        | error panic =>
            dsimp only
            split
            next job _ =>
              refine .inr ⟨⟨[], .stopped⟩, ?_⟩
              rw [Machine.setWorker, (Machine.foldl_skip_rest plan _ queue).1]
              rfl
            next => exact .inl rfl

/-- The workers that are not polled in a turn stay as they are. -/
theorem getElem?_workers_turn (machine : Machine σ γ) (turn : Turn) {other : Nat}
    (hne : other ≠ turn.worker) :
    (machine.turn plan turn).workers[other]? = machine.workers[other]? := by
  obtain heq | ⟨worker, heq⟩ : _ ∨ _ := workers_turn machine turn
  · rw [heq]
  · rw [heq, List.getElem?_set_ne (Ne.symm hne)]

end Workers

/-! ## Nothing hangs -/

section Sound

theorem Sound.runSchedule (sound : Sound plan gates width signal machine) {schedule : List Turn}
    (hstops : ∀ turn ∈ schedule, turn.stops = false) :
    Sound plan gates width signal (machine.runSchedule plan schedule) := by
  have hsignal : (∃ turn ∈ schedule, turn.stops = true) → signal := by
    rintro ⟨turn, hturn, hstop⟩
    rw [hstops turn hturn] at hstop
    cases hstop
  exact ((Machine.runSchedule_steps schedule).mono hsignal).invariant (Sound plan gates width signal)
    sound fun step sound => sound.step step

theorem Sound.turn (sound : Sound plan gates width signal machine) (elapsed : Nat) :
    Sound plan gates width signal (machine.turn plan (.after id elapsed)) :=
  have hstops : ∀ turn ∈ [Turn.after id elapsed], turn.stops = false :=
    List.forall_mem_singleton.mpr rfl
  sound.runSchedule hstops

/-- A closed gate whose task is awake is resumed. -/
theorem gate_resumeGate {index wake : Nat} {task : Task σ Event γ}
    (hgate : machine.gates[index]? = some (.closed wake task)) (hawake : wake ≤ machine.time) :
    (machine.resumeGate index).gates[index]? =
      some (gateAfter machine.time (task.resume machine.time machine.shared).standing) := by
  have hlt := (List.getElem?_eq_some_iff.mp hgate).1
  simp only [Machine.resumeGate, hgate, Nat.not_lt.mpr hawake, if_false, Machine.log]
  rw [List.getElem?_set_self hlt]
  cases (task.resume machine.time machine.shared).standing <;> rfl

variable (live : NeverHangs plan gates) (sound : Sound plan gates width signal machine)

include live sound

/-- A unit in hand never hangs. -/
theorem not_hung {wake : Nat} :
    machine.workers[id]? ≠ some ⟨queue, .running unit wake .hang⟩ := by
  intro hworker
  obtain ⟨past, history⟩ := sound.workers id _ hworker
  obtain ⟨⟨job, opened, acts, hjob, hpasses, hcourse, _⟩, _⟩ := history.inHand
  exact live.bodies job (List.mem_of_getElem? hjob) opened hpasses acts .hung hcourse rfl

/-- The gate of a unit never hangs. -/
theorem gate_not_hung {index wake : Nat} (hjob : plan.jobs[unit]? = some job)
    (hindex : job.gate = some index) : machine.gates[index]? ≠ some (.closed wake .hang) := by
  intro hgate
  obtain ⟨task, htask, acts, hcourse⟩ := sound.gates index _ hgate
  exact live.tasks job (List.mem_of_getElem? hjob) index hindex task htask acts .hung hcourse rfl

end Sound

/-! ## A worker is brought to its end -/

section CanEnd

theorem canEnd_of_turn (elapsed : Nat) (h : CanEnd plan id (machine.turn plan (.after id elapsed))) :
    CanEnd plan id machine := by
  obtain ⟨delays, h⟩ := h
  exact ⟨elapsed :: delays, h⟩

/-- A worker that is idle or reports a unit takes the next one in its turn, or is done. -/
theorem turn_of_free (sound : Sound plan gates width signal machine) {phase : Phase σ}
    (hworker : machine.workers[id]? = some ⟨queue, phase⟩)
    (hfree : phase = .idle ∨ ∃ unit outcome, phase = .reporting unit outcome) :
    ∃ worker, (machine.turn plan (.after id 0)).workers[id]? = some worker ∧
      (worker.phase = .stopped ∨ worker.queue.length < queue.length) := by
  have hlt := (List.getElem?_eq_some_iff.mp hworker).1
  have htaken (next : Machine σ γ) (hsame : next.workers = machine.workers) :
      ∃ worker, (next.takeNext plan id queue).workers[id]? = some worker ∧
        (worker.phase = .stopped ∨ worker.queue.length < queue.length) := by
    obtain ⟨worker, heq, h⟩ : ∃ worker, _ ∧ _ := workers_takeNext next id queue
    refine ⟨worker, ?_, h⟩
    rw [heq, hsame, List.getElem?_set_self hlt]
  obtain ⟨past, history⟩ := sound.workers id _ hworker
  have hinHand := history.inHand
  obtain rfl | ⟨unit, records | panic, rfl⟩ := hfree
  · simp only [Machine.turn, Machine.poll, Turn.after, hworker]
    exact htaken _ rfl
  · obtain ⟨⟨job, _, hjob, _⟩, _⟩ := hinHand
    simp only [Machine.turn, Machine.poll, Turn.after, hworker, hjob]
    refine ⟨⟨[], .stopped⟩, ?_, .inl rfl⟩
    rw [Machine.setWorker, (Machine.foldl_skip_rest plan _ queue).1]
    exact List.getElem?_set_self hlt
  · simp only [Machine.turn, Machine.poll, Turn.after, hworker]
    exact htaken _ rfl

theorem turn_atGate (hworker : machine.workers[id]? = some ⟨queue, .atGate unit⟩)
    (hjob : plan.jobs[unit]? = some job) (elapsed : Nat) :
    machine.turn plan (.after id elapsed) =
      { machine with time := machine.time + elapsed, stop := machine.stop || false }.passGate id queue
        unit job := by
  simp only [Machine.turn, Machine.poll, Turn.after, hworker, hjob]

variable (live : NeverHangs plan gates)
  (later : ∀ {machine queue' phase}, Sound plan gates width signal machine →
    machine.workers[id]? = some ⟨queue', phase⟩ → queue'.length < queue.length →
      CanEnd plan id machine)

include later

theorem canEnd_free (sound : Sound plan gates width signal machine) {phase : Phase σ}
    (hworker : machine.workers[id]? = some ⟨queue, phase⟩)
    (hfree : phase = .idle ∨ ∃ unit outcome, phase = .reporting unit outcome) :
    CanEnd plan id machine := by
  obtain ⟨⟨queue', phase'⟩, hworker', hstopped | hlt⟩ := turn_of_free sound hworker hfree
  · obtain ⟨past, history⟩ := (sound.turn 0).workers id _ hworker'
    obtain rfl : queue' = [] := history.stopped hstopped
    obtain rfl : phase' = .stopped := hstopped
    exact canEnd_of_turn 0 ⟨[], hworker'⟩
  · exact canEnd_of_turn 0 (later (sound.turn 0) hworker' hlt)

include live

/-- A unit that runs is resumed until it ends, which it does. -/
theorem canEnd_running {wake : Nat} {task : Task σ Event (List Record)}
    (sound : Sound plan gates width signal machine)
    (hworker : machine.workers[id]? = some ⟨queue, .running unit wake task⟩) :
    CanEnd plan id machine := by
  induction Task.acc_left task generalizing machine wake with
  | intro task _ ih =>
    have hlt := (List.getElem?_eq_some_iff.mp hworker).1
    have hawake : ¬ machine.time + wake < wake := Nat.not_lt.mpr (Nat.le_add_left _ _)
    have hnext : (machine.turn plan (.after id wake)).workers[id]? = some ⟨queue, phaseAfter
        (machine.time + wake) unit (task.resume (machine.time + wake) machine.shared).standing⟩ := by
      simp only [Machine.turn, Machine.poll, Turn.after, hworker, hawake, if_false]
      rw [resumeUnit_eq]
      exact List.getElem?_set_self hlt
    have sound' : Sound plan gates width signal (machine.turn plan (.after id wake)) := sound.turn wake
    apply canEnd_of_turn wake
    cases hstanding : (task.resume (machine.time + wake) machine.shared).standing with
    | finished records =>
        rw [hstanding] at hnext
        exact canEnd_free later sound' hnext (.inr ⟨unit, _, rfl⟩)
    | crashed panic =>
        rw [hstanding] at hnext
        exact canEnd_free later sound' hnext (.inr ⟨unit, _, rfl⟩)
    | paused rest =>
        rw [hstanding] at hnext
        exact ih rest ⟨_, _, .inl hstanding⟩ sound' hnext
    | asleep nanoseconds rest =>
        rw [hstanding] at hnext
        exact ih rest ⟨_, _, .inr ⟨nanoseconds, hstanding⟩⟩ sound' hnext
    | hung =>
        rw [hstanding] at hnext
        exact absurd hnext (not_hung live sound')

theorem canEnd_past {phase : Phase σ} (sound : Sound plan gates width signal machine)
    (hworker : machine.workers[id]? = some ⟨queue, phase⟩)
    (hphase : ∀ unit, phase ≠ .atGate unit) : CanEnd plan id machine := by
  cases phase with
  | idle => exact canEnd_free later sound hworker (.inl rfl)
  | atGate unit => exact absurd rfl (hphase unit)
  | running unit wake task => exact canEnd_running live later sound hworker
  | reporting unit outcome => exact canEnd_free later sound hworker (.inr ⟨unit, outcome, rfl⟩)
  | stopped =>
      obtain ⟨past, history⟩ := sound.workers id _ hworker
      obtain rfl : queue = [] := history.stopped rfl
      exact ⟨[], hworker⟩

/-- A worker that waits at a gate is polled there until the gate opens, which it does. -/
theorem canEnd_closed {index wake : Nat} {task : Task σ Event γ}
    (sound : Sound plan gates width signal machine)
    (hworker : machine.workers[id]? = some ⟨queue, .atGate unit⟩)
    (hjob : plan.jobs[unit]? = some job) (hindex : job.gate = some index)
    (hgate : machine.gates[index]? = some (.closed wake task)) : CanEnd plan id machine := by
  induction Task.acc_left task generalizing machine wake with
  | intro task _ ih =>
    have hlt := (List.getElem?_eq_some_iff.mp hworker).1
    have sound' : Sound plan gates width signal (machine.turn plan (.after id wake)) := sound.turn wake
    have hturn := turn_atGate hworker hjob wake
    apply canEnd_of_turn wake
    obtain ⟨phase, hphase, hworkers⟩ | ⟨found, hfound, hopened, hbroken, hpassed⟩ := passGate_cases
      { machine with time := machine.time + wake, stop := machine.stop || false } id queue unit job
    · refine canEnd_past live later sound' ?_ hphase
      rw [hturn, hworkers]
      exact List.getElem?_set_self hlt
    · cases hindex.symm.trans hfound
      have hcurrent : ({ machine with
          time := machine.time + wake, stop := machine.stop || false } : Machine σ γ).gates[index]? =
            some (.closed wake task) := hgate
      have hnext := gate_resumeGate hcurrent (Nat.le_add_left _ _)
      have hworker' : (machine.turn plan (.after id wake)).workers[id]? =
          some ⟨queue, .atGate unit⟩ := by
        rw [hturn, hpassed]
        refine Machine.getElem?_setWorker_self _ id _ ?_
        rw [Machine.workers_resumeGate]
        exact hlt
      have hgate' : (machine.turn plan (.after id wake)).gates[index]? = _ :=
        (congrArg (·.gates[index]?) (hturn.trans hpassed)).trans hnext
      dsimp only at hnext hgate'
      cases hstanding : (task.resume (machine.time + wake) machine.shared).standing with
      | finished value =>
          rw [hstanding] at hnext
          exact absurd hnext (hopened value)
      | crashed panic =>
          rw [hstanding] at hnext
          exact absurd hnext (hbroken panic)
      | paused rest =>
          rw [hstanding] at hgate'
          exact ih rest ⟨_, _, .inl hstanding⟩ sound' hworker' hgate'
      | asleep nanoseconds rest =>
          rw [hstanding] at hgate'
          exact ih rest ⟨_, _, .inr ⟨nanoseconds, hstanding⟩⟩ sound' hworker' hgate'
      | hung =>
          rw [hstanding] at hgate'
          exact absurd hgate' (gate_not_hung live sound' hjob hindex)

theorem canEnd_atGate (sound : Sound plan gates width signal machine)
    (hworker : machine.workers[id]? = some ⟨queue, .atGate unit⟩) : CanEnd plan id machine := by
  have hlt := (List.getElem?_eq_some_iff.mp hworker).1
  obtain ⟨past, history⟩ := sound.workers id _ hworker
  obtain ⟨job, hjob⟩ := history.exists_job (List.mem_append_left _ (List.mem_singleton_self unit))
  have hturn := turn_atGate hworker hjob 0
  obtain ⟨phase, hphase, hworkers⟩ | ⟨index, hindex, hopened, hbroken, _⟩ := passGate_cases
    { machine with time := machine.time + 0, stop := machine.stop || false } id queue unit job
  · apply canEnd_of_turn 0
    refine canEnd_past live later (sound.turn 0) ?_ hphase
    rw [hturn, hworkers]
    exact List.getElem?_set_self hlt
  · have hindexed : index < machine.gates.length := by
      rw [sound.gateCount]
      exact live.gated job (List.mem_of_getElem? hjob) index hindex
    have hgate := List.getElem?_eq_getElem hindexed
    cases hstate : machine.gates[index] with
    | closed wake task =>
        rw [hstate] at hgate
        exact canEnd_closed live later sound hworker hjob hindex hgate
    | opened value =>
        rw [hstate] at hgate
        exact absurd (by simp only [Machine.resumeGate, hgate]) (hopened value)
    | broken panic =>
        rw [hstate] at hgate
        refine absurd ?_ (hbroken Machine.poisoned)
        simp only [Machine.resumeGate, hgate]
        exact List.getElem?_set_self hindexed

end CanEnd

/-- Every worker of a pool where nothing hangs can be brought to its end. -/
theorem Sound.canEnd (sound : Sound plan gates width signal machine) (live : NeverHangs plan gates)
    (hid : id < width) : CanEnd plan id machine := by
  obtain ⟨⟨queue, phase⟩, hworker⟩ : ∃ worker, machine.workers[id]? = some worker :=
    ⟨_, List.getElem?_eq_getElem (hid.trans_eq sound.length.symm)⟩
  clear hid
  induction hqueue : queue.length using Nat.strong_induction_on generalizing machine queue phase with
  | _ n ih =>
    subst hqueue
    have later {machine : Machine σ γ} {queue' : List Nat} {phase : Phase σ}
        (sound : Sound plan gates width signal machine)
        (hworker : machine.workers[id]? = some ⟨queue', phase⟩)
        (hlt : queue'.length < queue.length) : CanEnd plan id machine :=
      ih _ hlt sound queue' phase hworker rfl
    by_cases hgated : ∃ unit, phase = .atGate unit
    · obtain ⟨unit, rfl⟩ := hgated
      exact canEnd_atGate live later sound hworker
    · exact canEnd_past live later sound hworker fun unit heq => hgated ⟨unit, heq⟩

/-! ## A pool is brought to its end -/

theorem getElem?_workers_runSchedule (machine : Machine σ γ) {schedule : List Turn} {other : Nat}
    (hne : ∀ turn ∈ schedule, other ≠ turn.worker) :
    (machine.runSchedule plan schedule).workers[other]? = machine.workers[other]? := by
  induction schedule generalizing machine with
  | nil => rfl
  | cons turn schedule ih =>
      obtain ⟨hhead, htail⟩ := List.forall_mem_cons.mp hne
      exact (ih (machine.turn plan turn) htail).trans (getElem?_workers_turn machine turn hhead)

theorem Machine.runSchedule_append (machine : Machine σ γ) (earlier later : List Turn) :
    machine.runSchedule plan (earlier ++ later) =
      (machine.runSchedule plan earlier).runSchedule plan later :=
  List.foldl_append ..

/-- The workers are brought to their ends one after another. -/
theorem Sound.exists_stopped (sound : Sound plan gates width signal machine)
    (live : NeverHangs plan gates) (count : Nat) (hcount : count ≤ width) :
    ∃ later : List Turn, (∀ turn ∈ later, turn.stops = false) ∧
      ∀ id < count, (machine.runSchedule plan later).workers[id]? = some ⟨[], .stopped⟩ := by
  induction count with
  | zero => exact ⟨[], nofun, nofun⟩
  | succ count ih =>
      obtain ⟨earlier, hstops, hstopped⟩ := ih (Nat.le_of_succ_le hcount)
      obtain ⟨delays, hlast⟩ := (sound.runSchedule hstops).canEnd live hcount
      have hown : ∀ turn ∈ delays.map (Turn.after count), turn.worker = count ∧ turn.stops = false := by
        rintro turn hturn
        obtain ⟨elapsed, _, rfl⟩ := List.mem_map.mp hturn
        exact ⟨rfl, rfl⟩
      refine ⟨earlier ++ delays.map (Turn.after count), ?_, ?_⟩
      · intro turn hturn
        rcases List.mem_append.mp hturn with hearlier | hlater
        · exact hstops turn hearlier
        · exact (hown turn hlater).2
      · intro id hid
        rw [Machine.runSchedule_append]
        rcases Nat.lt_succ_iff_lt_or_eq.mp hid with hlt | rfl
        · rw [getElem?_workers_runSchedule _ fun turn hturn => ?_]
          · exact hstopped id hlt
          · rw [(hown turn hturn).1]
            exact Nat.ne_of_lt hlt
        · exact hlast

/-- A pool where nothing hangs can always be brought to its end, whatever has happened so far. -/
theorem Sound.exists_isComplete (sound : Sound plan gates width signal machine)
    (live : NeverHangs plan gates) :
    ∃ later : List Turn, (∀ turn ∈ later, turn.stops = false) ∧
      (machine.runSchedule plan later).isComplete = true := by
  obtain ⟨later, hstops, hstopped⟩ := sound.exists_stopped live width (Nat.le_refl _)
  refine ⟨later, hstops, ?_⟩
  rw [Machine.isComplete, List.all_eq_true]
  intro worker hworker
  obtain ⟨id, hid⟩ := List.getElem?_of_mem hworker
  have hlt := (List.getElem?_eq_some_iff.mp hid).1
  rw [(sound.runSchedule hstops).length] at hlt
  rw [hstopped id hlt] at hid
  cases hid
  rfl

/-! ## Rounds -/

/-- Polling the workers in rounds is one of the schedules. -/
theorem Machine.exists_schedule (rounds : Nat) (machine : Machine σ γ) :
    ∃ schedule : List Turn, (∀ turn ∈ schedule, turn.stops = false) ∧
      machine.runRounds plan rounds = machine.runSchedule plan schedule := by
  induction rounds generalizing machine with
  | zero => exact ⟨[], nofun, rfl⟩
  | succ rounds ih =>
      rw [Machine.runRounds]
      split
      · exact ⟨[], nofun, rfl⟩
      · obtain ⟨later, hstops, heq⟩ := ih (machine.runSchedule plan (machine.round plan))
        refine ⟨machine.round plan ++ later, ?_, ?_⟩
        · intro turn hturn
          rcases List.mem_append.mp hturn with hround | hlater
          · obtain ⟨id, _, rfl⟩ := List.mem_map.mp hround
            rfl
          · exact hstops turn hlater
        · rw [heq, Machine.runSchedule_append]

/-! ## Pools without units -/

section Empty

variable {shared : σ}

/-- A pool without units: its workers stop as soon as they are polled, and nothing else happens. -/
structure IsEmpty (shared : σ) (machine : Machine σ γ) : Prop where
  shared_eq : machine.shared = shared
  trace : machine.trace = []
  workers : ∀ worker ∈ machine.workers,
    worker.queue = [] ∧ (worker.phase = .idle ∨ worker.phase = .stopped)

theorem isEmpty_start (hjobs : plan.jobs = []) (workers : Nat) (gates : List (Task σ Event γ))
    (stop : Bool) (shared : σ) : IsEmpty shared (start workers plan gates stop shared) where
  shared_eq := rfl
  trace := rfl
  workers := by
    intro worker hworker
    obtain ⟨id, _, rfl⟩ := List.mem_map.mp hworker
    simp [queueOf, hjobs]

theorem IsEmpty.poll (h : IsEmpty shared machine) (id : Nat) :
    IsEmpty shared (machine.poll plan id) := by
  unfold Machine.poll
  split
  · exact h
  next worker hworker =>
    obtain ⟨hqueue, hidle | hstopped⟩ := h.workers worker (List.mem_of_getElem? hworker)
    · rw [hidle, hqueue]
      refine ⟨h.shared_eq, h.trace, ?_⟩
      intro other hother
      rcases List.mem_or_eq_of_mem_set hother with hother | rfl
      · exact h.workers other hother
      · exact ⟨rfl, .inr rfl⟩
    · rw [hstopped]
      exact h

theorem IsEmpty.runSchedule (h : IsEmpty shared machine) (schedule : List Turn) :
    IsEmpty shared (machine.runSchedule plan schedule) := by
  induction schedule generalizing machine with
  | nil => exact h
  | cons turn rest ih =>
      have hlater : IsEmpty shared
          { machine with time := machine.time + turn.elapsed, stop := machine.stop || turn.stops } :=
        ⟨h.shared_eq, h.trace, h.workers⟩
      exact ih (hlater.poll turn.worker)

theorem IsEmpty.runRounds (h : IsEmpty shared machine) (rounds : Nat) :
    IsEmpty shared (machine.runRounds plan rounds) := by
  obtain ⟨schedule, _, hschedule⟩ := Machine.exists_schedule rounds machine
  rw [hschedule]
  exact h.runSchedule schedule

theorem Machine.runRounds_of_isComplete (h : machine.isComplete = true) (rounds : Nat) :
    machine.runRounds plan rounds = machine := by
  cases rounds with
  | zero => rfl
  | succ rounds => rw [Machine.runRounds, if_pos h]

theorem isComplete_runRounds (hjobs : plan.jobs = []) (workers : Nat) (gates : List (Task σ Event γ))
    (stop : Bool) (shared : σ) (rounds : Nat) :
    ((start workers plan gates stop shared).runRounds plan (rounds + 1)).isComplete = true := by
  -- A pool has no more workers than units, but always one.
  have hworkers : (start workers plan gates stop shared).workers = [⟨[], .idle⟩] := by
    simp [start, Pool.width, queueOf, hjobs]
  generalize start workers plan gates stop shared = machine at hworkers
  have hround : (machine.runSchedule plan (machine.round plan)).isComplete = true := by
    simp [Machine.round, hworkers, Machine.runSchedule, Machine.turn, Machine.poll, Machine.takeNext,
      Machine.setWorker, Machine.isComplete]
  rw [Machine.runRounds]
  split
  next hcomplete => exact hcomplete
  next => rw [Machine.runRounds_of_isComplete hround, hround]

end Empty

end Acceptance.Pool
