import Acceptance.Proofs.Pool.Account

/-!
# Bookkeeping of a pool

Every step of a pool keeps all accounts in order, so they are in order after any schedule. The steps
are checked one by one; only those that resume a unit or a gate look into a task.
-/

namespace Acceptance.Pool

variable {σ γ : Type} {plan : Plan σ γ} {gates : List (Task σ Event γ)} {width id unit : Nat}
  {signal : Prop} {machine next : Machine σ γ} {queue : List Nat} {job : Job σ γ}

namespace Machine

@[simp] theorem trace_log (marks : List Mark) :
    (machine.log marks).trace = machine.trace ++ marks := rfl

@[simp] theorem recordsOf_log (marks : List Mark) :
    (machine.log marks).recordsOf unit = machine.recordsOf unit := rfl

@[simp] theorem trace_setWorker (worker : Worker σ) :
    (machine.setWorker id worker).trace = machine.trace := rfl

@[simp] theorem recordsOf_setWorker (worker : Worker σ) :
    (machine.setWorker id worker).recordsOf unit = machine.recordsOf unit := rfl

@[simp] theorem trace_report (records : List Record) :
    (machine.report unit records).trace = machine.trace := rfl

end Machine

theorem marksOf_singleton (mark : Mark) (h : mark.unit? = some unit) :
    marksOf unit [mark] = [mark] :=
  marksOf_eq_self (by simpa using h)

theorem marksOf_singleton_of_ne {other : Nat} (mark : Mark) (h : mark.unit? = some unit)
    (hne : other ≠ unit) : marksOf other [mark] = [] :=
  marksOf_eq_nil (by simpa [h] using Ne.symm hne)

/-- Nothing new happens to the unit that a worker goes on to deal with, but for its last mark. -/
theorem kept_of_mark {other : Nat} {mark : Mark} {worker : Worker σ} (hmark : mark.unit? = some unit)
    (hother : other ∉ [unit]) :
    marksOf other ((machine.log [mark]).setWorker id worker).trace = marksOf other machine.trace ∧
      ((machine.log [mark]).setWorker id worker).recordsOf other = machine.recordsOf other := by
  have hne : other ≠ unit := fun heq => hother (heq ▸ List.mem_singleton_self _)
  refine ⟨?_, rfl⟩
  simp [marksOf_singleton_of_ne mark hmark hne]

/-- The units of a worker have jobs. -/
theorem History.exists_job {past : List (Nat × Fate)} {worker : Worker σ}
    (h : History plan gates width machine id worker past) (hunit : unit ∈ worker.units) :
    ∃ job, plan.jobs[unit]? = some job :=
  ⟨_, List.getElem?_eq_getElem (h.mem_class hunit).1⟩

/-- Nothing is skipped before the stop, and nothing crashes before a worker that is idle. -/
theorem History.returned {past : List (Nat × Fate)}
    (h : History plan gates width machine id ⟨queue, .idle⟩ past) (hstop : machine.stop = false) :
    ∀ entry ∈ past, entry.2.isReturned := by
  intro entry hentry
  cases hfate : entry.2 with
  | returned records => rfl
  | crashed panic now => cases h.crashed entry hentry (by rw [hfate]; rfl)
  | skipped now =>
      rcases h.skipped entry hentry (by rw [hfate]; rfl) with hstopped | ⟨cause, hcause, hcrash, _⟩
      · rw [hstop] at hstopped
        cases hstopped
      · cases h.crashed cause hcause hcrash

section Workers

theorem sound_take (sound : Sound plan gates width signal machine)
    (hworker : machine.workers[id]? = some ⟨unit :: queue, .idle⟩) (hstop : machine.stop = false) :
    Sound plan gates width signal ((machine.log [.started unit]).setWorker id ⟨queue, .atGate unit⟩) := by
  have update : Update machine ((machine.log [.started unit]).setWorker id ⟨queue, .atGate unit⟩) id
      ⟨unit :: queue, .idle⟩ ⟨queue, .atGate unit⟩ [] :=
    { before := hworker, workers := rfl, units := rfl
      queue := fun _ hmem => List.mem_cons_of_mem unit hmem
      kept := fun _ hother => kept_of_mark rfl hother
      gates := rfl, stop := fun h => h, time := Nat.le_refl _ }
  apply sound.update update
  intro past history
  obtain ⟨hmarks, hrecords⟩ := history.waiting unit List.mem_cons_self
  refine ⟨past, history.hold update nofun ⟨?_, hrecords⟩ (fun _ => history.returned hstop) nofun,
    fun _ h => h, .inl⟩
  simp [hmarks, marksOf_singleton (.started unit) rfl]

theorem sound_skip (sound : Sound plan gates width signal machine)
    (hworker : machine.workers[id]? = some ⟨unit :: queue, .idle⟩) (hstop : machine.stop = true) :
    Sound plan gates width signal ((machine.skip plan unit).setWorker id ⟨queue, .idle⟩) := by
  have update : Update machine ((machine.skip plan unit).setWorker id ⟨queue, .idle⟩) id
      ⟨unit :: queue, .idle⟩ ⟨queue, .idle⟩ [unit] :=
    { before := hworker, units := rfl
      workers := by rw [← Machine.workers_skip plan machine unit]; rfl
      queue := fun _ hmem => List.mem_cons_of_mem unit hmem
      kept := by
        intro other hother
        exact Machine.skip_of_ne plan machine fun heq => hother (heq ▸ List.mem_singleton_self _)
      gates := Machine.gates_skip plan machine unit
      stop := fun h => (Machine.stop_skip plan machine unit).trans h
      time := Nat.le_of_eq (Machine.time_skip plan machine unit).symm }
  apply sound.update update
  intro past history
  obtain ⟨job, hjob⟩ := history.exists_job (List.mem_cons_self (a := unit))
  obtain ⟨hmarks, hrecords⟩ := Machine.skip_self machine hjob
  obtain ⟨hmarks', hrecords'⟩ := history.waiting unit List.mem_cons_self
  rw [hmarks', List.nil_append] at hmarks
  rw [hrecords', List.nil_append] at hrecords
  refine ⟨past ++ [(unit, .skipped machine.time)],
    history.advance update nofun (List.forall_mem_singleton.mpr ?_) trivial ?_ ?_
      (List.forall_mem_singleton.mpr nofun) (fun _ _ _ => .inl (update.stop hstop)) nofun
      fun _ _ => update.stop hstop,
    List.subset_append_left _ _, fun _ => .inl hstop⟩
  · exact ⟨job, [], hjob, nofun, hmarks, hrecords⟩
  · refine List.pairwise_append.mpr ⟨history.order, List.pairwise_singleton .., ?_⟩
    exact fun _ _ => List.forall_mem_singleton.mpr (.inr rfl)
  · intro hheld
    exact absurd rfl hheld

theorem sound_rest (sound : Sound plan gates width signal machine)
    (hworker : machine.workers[id]? = some ⟨[], .idle⟩) :
    Sound plan gates width signal (machine.setWorker id ⟨[], .stopped⟩) := by
  have update : Update machine (machine.setWorker id ⟨[], .stopped⟩) id ⟨[], .idle⟩ ⟨[], .stopped⟩
      [] :=
    { before := hworker, workers := rfl, units := rfl, queue := nofun
      kept := fun _ _ => ⟨rfl, rfl⟩
      gates := rfl, stop := fun h => h, time := Nat.le_refl _ }
  apply sound.update update
  intro past history
  exact ⟨past, history.hold update nofun trivial (fun hheld => absurd rfl hheld) fun _ => rfl,
    fun _ h => h, .inl⟩

/-- What the gate of a job has opened with is what its task may end with. -/
theorem Sound.passes {opened : Option γ} (sound : Sound plan gates width signal machine)
    (hopens : machine.Opens job opened) : Passes gates job opened := by
  cases hgate : job.gate with
  | none =>
      simp only [Machine.Opens, hgate] at hopens
      simpa only [Passes, hgate] using hopens
  | some index =>
      simp only [Machine.Opens, hgate] at hopens
      simp only [Passes, hgate]
      obtain ⟨value, heq, hopened⟩ := hopens
      obtain ⟨task, htask, acts, hends⟩ := sound.gates index _ hopened
      exact ⟨task, acts, value, htask, hends, heq⟩

theorem sound_pass {opened : Option γ} (sound : Sound plan gates width signal machine)
    (hworker : machine.workers[id]? = some ⟨queue, .atGate unit⟩)
    (hjob : plan.jobs[unit]? = some job) (hopens : machine.Opens job opened) :
    Sound plan gates width signal (machine.setWorker id ⟨queue, .running unit 0 (job.body opened)⟩) := by
  have update : Update machine (machine.setWorker id ⟨queue, .running unit 0 (job.body opened)⟩) id
      ⟨queue, .atGate unit⟩ ⟨queue, .running unit 0 (job.body opened)⟩ [] :=
    { before := hworker, workers := rfl, units := rfl, queue := fun _ hmem => hmem
      kept := fun _ _ => ⟨rfl, rfl⟩
      gates := rfl, stop := fun h => h, time := Nat.le_refl _ }
  apply sound.update update
  intro past history
  obtain ⟨hmarks, hrecords⟩ := history.inHand
  refine ⟨past, history.hold update nofun ⟨?_, hrecords⟩ (fun _ => history.working nofun) nofun,
    fun _ h => h, .inl⟩
  exact ⟨job, opened, [], hjob, sound.passes hopens, .stay _, .nil, nofun, hmarks⟩

theorem sound_break {index : Nat} {panic : Panic} (sound : Sound plan gates width signal machine)
    (hworker : machine.workers[id]? = some ⟨queue, .atGate unit⟩)
    (hjob : plan.jobs[unit]? = some job) (hgate : job.gate = some index)
    (hbroken : machine.gates[index]? = some (.broken panic)) :
    Sound plan gates width signal
      ((machine.log [.crashed unit]).setWorker id ⟨queue, .reporting unit (.error panic)⟩) := by
  have update : Update machine
      ((machine.log [.crashed unit]).setWorker id ⟨queue, .reporting unit (.error panic)⟩) id
      ⟨queue, .atGate unit⟩ ⟨queue, .reporting unit (.error panic)⟩ [] :=
    { before := hworker, workers := rfl, units := rfl, queue := fun _ hmem => hmem
      kept := fun _ hother => kept_of_mark rfl hother
      gates := rfl, stop := fun h => h, time := Nat.le_refl _ }
  apply sound.update update
  intro past history
  obtain ⟨hmarks, hrecords⟩ := history.inHand
  obtain ⟨task, htask, acts, cause, hends, hpanic⟩ := sound.gates index _ hbroken
  refine ⟨past, history.hold update nofun ⟨?_, hrecords⟩ (fun _ => history.working nofun) nofun,
    fun _ h => h, .inl⟩
  refine ⟨job, [], hjob, .broke hgate htask hends hpanic, ?_⟩
  rw [Machine.trace_setWorker, Machine.trace_log, marksOf_append, hmarks,
    marksOf_singleton (.crashed unit) rfl]
  rfl

theorem sound_report {records : List Record} (sound : Sound plan gates width signal machine)
    (hworker : machine.workers[id]? = some ⟨queue, .reporting unit (.ok records)⟩) :
    Sound plan gates width signal
      ({ machine.report unit records with
          stop := machine.stop || (plan.failFast && Machine.endsFailed records) }.setWorker id
        ⟨queue, .idle⟩) := by
  have update : Update machine
      ({ machine.report unit records with
          stop := machine.stop || (plan.failFast && Machine.endsFailed records) }.setWorker id
        ⟨queue, .idle⟩) id ⟨queue, .reporting unit (.ok records)⟩ ⟨queue, .idle⟩ [unit] :=
    { before := hworker, workers := rfl, units := rfl, queue := fun _ hmem => hmem
      kept := by
        intro other hother
        exact ⟨rfl, Machine.recordsOf_report_of_ne fun heq => hother (heq ▸ List.mem_singleton_self _)⟩
      gates := rfl
      stop := fun h => by simp [Machine.setWorker, h]
      time := Nat.le_refl _ }
  apply sound.update update
  intro past history
  obtain ⟨⟨job, events, hjob, hcalled, hmarks⟩, hrecords⟩ := history.inHand
  refine ⟨past ++ [(unit, .returned records)],
    history.advance update (by simp) (List.forall_mem_singleton.mpr ?_) trivial ?_ ?_
      (by simp [Fate.isCrashed]) (by simp [Fate.isSkipped]) (by simp) ?_,
    List.subset_append_left _ _, ?_⟩
  · refine ⟨job, events, hjob, ?_, hmarks, ?_⟩
    · rintro ending ⟨⟩
      exact hcalled
    · refine Machine.recordsOf_report_self.trans ?_
      rw [hrecords]
      rfl
  · refine List.pairwise_append.mpr ⟨history.order, List.pairwise_singleton .., ?_⟩
    intro earlier hearlier _ _
    exact .inl (history.working (by simp [Phase.held]) earlier hearlier)
  · intro hheld
    exact absurd rfl hheld
  · rintro hfast ⟨entry, hentry, records, hreturned, hfailed⟩
    cases List.mem_singleton.mp hentry
    cases hreturned
    simp [Machine.setWorker, hfast, hfailed]
  · intro hnext
    rcases Bool.or_eq_true_iff.mp hnext with hstop | hfailed
    · exact .inl hstop
    · obtain ⟨hfast, hfailed⟩ := Bool.and_eq_true_iff.mp hfailed
      refine .inr ⟨hfast, (unit, .returned records), ?_, records, rfl, hfailed⟩
      exact List.mem_append_right _ (List.mem_singleton_self _)

/-- A worker is done with its whole queue when the unit that it has in hand has crashed. -/
theorem update_crash {panic : Panic} (plan : Plan σ γ) (records : List Record)
    (hworker : machine.workers[id]? = some ⟨queue, .reporting unit (.error panic)⟩) :
    Update machine ((queue.foldl (Machine.skip plan) (machine.report unit records)).setWorker id
      ⟨[], .stopped⟩) id ⟨queue, .reporting unit (.error panic)⟩ ⟨[], .stopped⟩ (unit :: queue) := by
  obtain ⟨hworkers, hgates, hstop, htime⟩ :=
    Machine.foldl_skip_rest plan (machine.report unit records) queue
  exact
    { before := hworker
      workers := congrArg (List.set · id _) hworkers
      units := (List.append_nil _).symm
      queue := nofun
      kept := by
        intro other hother
        rw [Phase.held, List.append_nil] at hother
        obtain ⟨hne, hrest⟩ := List.ne_and_not_mem_of_not_mem_cons hother
        obtain ⟨hmarks, hrecords⟩ :=
          Machine.foldl_skip_of_notMem plan (machine.report unit records) hrest
        exact ⟨hmarks, hrecords.trans (Machine.recordsOf_report_of_ne hne)⟩
      gates := hgates
      stop := fun h => hstop.trans h
      time := Nat.le_of_eq htime.symm }

/-- A crashed unit that is reported as failed is settled, whatever is skipped after that. -/
theorem settled_crash {panic : Panic} (hjob : plan.jobs[unit]? = some job)
    (hinHand : InHand plan gates machine (.reporting unit (.error panic))) (hfresh : unit ∉ queue) :
    Settled plan gates (queue.foldl (Machine.skip plan)
      (machine.report unit [.failed job.instance_ (.workerCrashed panic.message) machine.time])) unit
      (.crashed panic machine.time) := by
  obtain ⟨⟨_, events, hjob', hcalled, hmarks⟩, hrecords⟩ := hinHand
  cases hjob.symm.trans hjob'
  obtain ⟨hmarks', hrecords'⟩ := Machine.foldl_skip_of_notMem plan
    (machine.report unit [.failed job.instance_ (.workerCrashed panic.message) machine.time]) hfresh
  refine ⟨job, events, hjob, ?_, hmarks'.trans hmarks, hrecords'.trans ?_⟩
  · rintro ending ⟨⟩
    exact hcalled
  · refine Machine.recordsOf_report_self.trans ?_
    rw [hrecords]
    rfl

/-- Units that are skipped together are settled. -/
theorem settled_skip {other : Nat} (records : List Record) (hnodup : queue.Nodup)
    (hother : other ∈ queue) (hne : other ≠ unit) (hjob : plan.jobs[other]? = some job)
    (huntouched : Untouched machine other) :
    Settled plan gates (queue.foldl (Machine.skip plan) (machine.report unit records)) other
      (.skipped machine.time) := by
  obtain ⟨hmarks, hrecords⟩ := Machine.foldl_skip_mem (machine.report unit records) hnodup hother hjob
  refine ⟨job, [], hjob, nofun, ?_, ?_⟩
  · exact hmarks.trans (congrArg (· ++ [Mark.skipped other]) huntouched.1)
  · refine hrecords.trans ?_
    rw [Machine.recordsOf_report_of_ne hne, huntouched.2]
    rfl

/-- A crashed unit is reported as failed, and what is left of the queue as skipped. -/
theorem sound_crash {panic : Panic} (sound : Sound plan gates width signal machine)
    (hworker : machine.workers[id]? = some ⟨queue, .reporting unit (.error panic)⟩)
    (hjob : plan.jobs[unit]? = some job) :
    Sound plan gates width signal
      ((queue.foldl (Machine.skip plan)
          (machine.report unit
            [.failed job.instance_ (.workerCrashed panic.message) machine.time])).setWorker id
        ⟨[], .stopped⟩) := by
  let done : List (Nat × Fate) :=
    (unit, .crashed panic machine.time) :: queue.map fun unit => (unit, .skipped machine.time)
  have hdone : done.map Prod.fst = unit :: queue := by
    simp [done, Function.comp_def]
  obtain ⟨-, -, hstop, -⟩ := Machine.foldl_skip_rest plan
    (machine.report unit [.failed job.instance_ (.workerCrashed panic.message) machine.time]) queue
  have update := hdone ▸ update_crash plan
    [.failed job.instance_ (.workerCrashed panic.message) machine.time] hworker
  apply sound.update update
  intro past history
  have hsorted : (unit :: queue).Pairwise (· < ·) := by
    have hall := history.queue ▸ queueOf_pairwise
    exact (List.pairwise_append.mp hall).2.1
  obtain ⟨hlater, hrest⟩ := List.pairwise_cons.mp hsorted
  have hfresh : unit ∉ queue := fun hmem => Nat.lt_irrefl _ (hlater unit hmem)
  refine ⟨past ++ done, history.advance update nofun ?_ trivial ?_ ?_ ?_ ?_ (fun _ => rfl) ?_,
    List.subset_append_left _ _, fun hnext => .inl (hstop.symm.trans hnext)⟩
  · refine List.forall_mem_cons.mpr ⟨settled_crash hjob history.inHand hfresh,
      List.forall_mem_map.mpr fun other hother => ?_⟩
    obtain ⟨waiting, hwaiting⟩ := history.exists_job (List.mem_cons_of_mem unit hother)
    exact settled_skip _ (hrest.imp Nat.ne_of_lt) hother (Nat.ne_of_gt (hlater other hother)) hwaiting
      (history.waiting other hother)
  · refine List.pairwise_append.mpr ⟨history.order, List.pairwise_cons.mpr ⟨?_, ?_⟩, ?_⟩
    · exact List.forall_mem_map.mpr fun _ _ => .inr rfl
    · exact List.pairwise_map.mpr (List.pairwise_of_forall fun _ _ => .inr rfl)
    · intro earlier hearlier _ _
      exact .inl (history.working nofun earlier hearlier)
  · intro hheld
    exact absurd rfl hheld
  · exact fun _ _ _ => rfl
  · refine List.forall_mem_cons.mpr ⟨nofun, List.forall_mem_map.mpr fun other hother _ => ?_⟩
    exact .inr ⟨_, List.mem_cons_self, rfl, hlater other hother⟩
  · rintro _ ⟨entry, hentry, records, hreturned, _⟩
    rcases List.mem_cons.mp hentry with rfl | hskipped
    · cases hreturned
    · obtain ⟨other, _, rfl⟩ := List.mem_map.mp hskipped
      cases hreturned

/-- The last mark of a unit that has ended. -/
def lastMarks (unit : Nat) : Task.Standing σ Event (List Record) → List Mark
  | .finished _ => [.ended unit]
  | .crashed _ => [.crashed unit]
  | _ => []

/-- What a worker is about to do when it has resumed a unit. -/
def phaseAfter (time unit : Nat) : Task.Standing σ Event (List Record) → Phase σ
  | .finished records => .reporting unit (.ok records)
  | .crashed panic => .reporting unit (.error panic)
  | .paused rest => .running unit 0 rest
  | .asleep nanoseconds rest => .running unit (time + nanoseconds) rest
  | .hung => .running unit 0 .hang

/-- A unit that has not ended runs on. -/
theorem phaseAfter_of_isOpen {standing : Task.Standing σ Event (List Record)} (h : standing.IsOpen)
    (time unit : Nat) :
    lastMarks unit standing = [] ∧
      ∃ wake, phaseAfter time unit standing = .running unit wake standing.rest := by
  cases standing with
  | finished records => cases h
  | crashed panic => cases h
  | _ => exact ⟨rfl, _, rfl⟩

theorem held_phaseAfter (time unit : Nat) (standing : Task.Standing σ Event (List Record)) :
    (phaseAfter time unit standing).held = [unit] := by
  cases standing <;> rfl

theorem resumeUnit_eq (machine : Machine σ γ) (id : Nat) (queue : List Nat) (unit : Nat)
    (task : Task σ Event (List Record)) :
    machine.resumeUnit id queue unit task =
      ({ machine with shared := (task.resume machine.time machine.shared).state }.log
          ((task.resume machine.time machine.shared).events.map (Mark.fromUnit unit) ++
            lastMarks unit (task.resume machine.time machine.shared).standing)).setWorker id
        ⟨queue, phaseAfter machine.time unit (task.resume machine.time machine.shared).standing⟩ := by
  unfold Machine.resumeUnit
  cases hstanding : (task.resume machine.time machine.shared).standing <;>
    simp [hstanding, Machine.log, Machine.setWorker, lastMarks, phaseAfter]

theorem unit?_of_mem_resume {events : List Event} {standing : Task.Standing σ Event (List Record)}
    {mark : Mark} (hmem : mark ∈ events.map (Mark.fromUnit unit) ++ lastMarks unit standing) :
    mark.unit? = some unit := by
  rcases List.mem_append.mp hmem with hmem | hmem
  · obtain ⟨event, _, rfl⟩ := List.mem_map.mp hmem
    rfl
  · cases standing <;> simp [lastMarks] at hmem <;> subst hmem <;> rfl

/-- A unit that is resumed does nothing to the marks of another one. -/
theorem marksOf_resumeUnit_of_ne {other : Nat} {task : Task σ Event (List Record)}
    (hne : unit ≠ other) :
    marksOf other (machine.resumeUnit id queue unit task).trace = marksOf other machine.trace := by
  have hnone : marksOf other
      ((task.resume machine.time machine.shared).events.map (Mark.fromUnit unit) ++
        lastMarks unit (task.resume machine.time machine.shared).standing) = [] :=
    marksOf_eq_nil fun mark hmem hmark =>
      hne (Option.some.inj ((unit?_of_mem_resume hmem).symm.trans hmark))
  rw [resumeUnit_eq, Machine.trace_setWorker, Machine.trace_log, marksOf_append, hnone, List.append_nil]

/-- A unit that is resumed has come further, or has ended. -/
theorem inHand_resumeUnit {wake : Nat} {task : Task σ Event (List Record)}
    (hinHand : InHand plan gates machine (.running unit wake task)) :
    InHand plan gates (machine.resumeUnit id queue unit task)
      (phaseAfter machine.time unit (task.resume machine.time machine.shared).standing) := by
  obtain ⟨⟨job, opened, acts, hjob, hpasses, hcourse, horder, htimes, hmarks⟩, hrecords⟩ := hinHand
  obtain ⟨later, hlater, horder', htimes', hevents⟩ := hcourse.resume machine.shared horder htimes
  have htrace (standing : Task.Standing σ Event (List Record)) :
      marksOf unit (machine.trace ++
          ((task.resume machine.time machine.shared).events.map (Mark.fromUnit unit) ++
            lastMarks unit standing)) =
        callMarks unit (Task.events later) ++ lastMarks unit standing := by
    rw [marksOf_append, hmarks, marksOf_eq_self fun _ => unit?_of_mem_resume, hevents]
    simp [callMarks]
  rw [resumeUnit_eq]
  obtain ⟨records, hstanding⟩ | ⟨panic, hstanding⟩ | hopen :=
    (task.resume machine.time machine.shared).standing.ended_or_isOpen
  · rw [hstanding] at hlater ⊢
    exact ⟨⟨job, _, hjob, .ran hpasses hlater horder', htrace (.finished records)⟩, hrecords⟩
  · rw [hstanding] at hlater ⊢
    exact ⟨⟨job, _, hjob, .ran hpasses hlater horder', htrace (.crashed panic)⟩, hrecords⟩
  · obtain ⟨hnone, wake, hphase⟩ := phaseAfter_of_isOpen hopen machine.time unit
    have hgoes := htrace (task.resume machine.time machine.shared).standing
    rw [hphase]
    rw [hnone, List.append_nil, List.append_nil] at hgoes
    rw [hnone, List.append_nil]
    exact ⟨⟨job, opened, later, hjob, hpasses, hlater, horder', htimes', hgoes⟩, hrecords⟩

theorem sound_resume {wake : Nat} {task : Task σ Event (List Record)}
    (sound : Sound plan gates width signal machine)
    (hworker : machine.workers[id]? = some ⟨queue, .running unit wake task⟩) :
    Sound plan gates width signal (machine.resumeUnit id queue unit task) := by
  have heq := resumeUnit_eq machine id queue unit task
  have hheld := held_phaseAfter machine.time unit (task.resume machine.time machine.shared).standing
  have update : Update machine (machine.resumeUnit id queue unit task) id
      ⟨queue, .running unit wake task⟩
      ⟨queue, phaseAfter machine.time unit (task.resume machine.time machine.shared).standing⟩ [] :=
    { before := hworker
      workers := heq ▸ rfl
      units := by rw [Worker.units, Worker.units, hheld]; rfl
      queue := fun _ hmem => hmem
      kept := by
        intro other hother
        rw [hheld] at hother
        have hne : unit ≠ other := fun heq => hother (heq ▸ List.mem_singleton_self _)
        exact ⟨marksOf_resumeUnit_of_ne hne, heq ▸ rfl⟩
      gates := heq ▸ rfl
      stop := fun h => heq ▸ h
      time := heq ▸ Nat.le_refl _ }
  apply sound.update update
  intro past history
  refine ⟨past, history.hold update (by simp) (inHand_resumeUnit history.inHand)
    (fun _ => history.working (by simp [Phase.held])) ?_, fun _ h => h,
    fun hstop => .inl (by rwa [heq] at hstop)⟩
  intro hstopped
  dsimp only at hstopped
  rw [hstopped] at hheld
  cases hheld

end Workers

theorem sound_elapse (sound : Sound plan gates width signal machine) (elapsed : Nat) (stops : Bool)
    (hsignal : stops = true → signal) :
    Sound plan gates width signal
      { machine with time := machine.time + elapsed, stop := machine.stop || stops } := by
  have hkept {id : Nat} {worker : Worker σ} {past : List (Nat × Fate)}
      (h : History plan gates width machine id worker past) :
      History plan gates width
        { machine with time := machine.time + elapsed, stop := machine.stop || stops } id worker
        past :=
    h.kept (fun _ _ => ⟨rfl, rfl⟩) (fun h => by simp [h]) (Nat.le_add_right _ _)
  refine
    { length := sound.length, workers := ?_, cause := ?_, gateCount := sound.gateCount
      gates := sound.gates }
  · intro id worker hworker
    obtain ⟨past, history⟩ := sound.workers id worker hworker
    exact ⟨past, hkept history⟩
  · intro hnext
    rcases Bool.or_eq_true_iff.mp hnext with hstop | hstops
    · refine (sound.cause hstop).imp_right ?_
      rintro ⟨hfast, id, worker, past, hworker, history, hfailing⟩
      exact ⟨hfast, id, worker, past, hworker, hkept history, hfailing⟩
    · exact .inl (hsignal hstops)

/-- What a gate is when its task has been resumed. -/
def gateAfter (time : Nat) : Task.Standing σ Event γ → Gate σ γ
  | .finished value => .opened value
  | .crashed panic => .broken panic
  | .paused rest => .closed 0 rest
  | .asleep nanoseconds rest => .closed (time + nanoseconds) rest
  | .hung => .closed 0 .hang

theorem gateAfter_of_isOpen {standing : Task.Standing σ Event γ} (h : standing.IsOpen) (time : Nat) :
    ∃ wake, gateAfter time standing = .closed wake standing.rest := by
  cases standing with
  | finished value => cases h
  | crashed panic => cases h
  | _ => exact ⟨_, rfl⟩

/-- What becomes of a gate that is resumed, what state that leaves, and what is reported. A closed gate
is not resumed before its task wakes. -/
inductive GateResumed (machine : Machine σ γ) (index : Nat) : Gate σ γ → σ → List Event → Prop
  | closed {wake : Nat} {task : Task σ Event γ}
      (hgate : machine.gates[index]? = some (.closed wake task)) (hwake : wake ≤ machine.time) :
      GateResumed machine index
        (gateAfter machine.time (task.resume machine.time machine.shared).standing)
        (task.resume machine.time machine.shared).state
        (task.resume machine.time machine.shared).events
  | broken {panic : Panic} (hgate : machine.gates[index]? = some (.broken panic)) :
      GateResumed machine index (.broken Machine.poisoned) machine.shared []

theorem GateResumed.lt_length {machine : Machine σ γ} {index : Nat} {gate : Gate σ γ} {state : σ}
    {events : List Event} (resumed : GateResumed machine index gate state events) :
    index < machine.gates.length := by
  cases resumed with
  | closed hgate => exact (List.getElem?_eq_some_iff.mp hgate).1
  | broken hgate => exact (List.getElem?_eq_some_iff.mp hgate).1

theorem resumeGate_eq (machine : Machine σ γ) (index : Nat) :
    machine.resumeGate index = machine ∨
      ∃ gate state events, GateResumed machine index gate state events ∧
        machine.resumeGate index =
          { machine with shared := state, gates := machine.gates.set index gate }.log
            (events.map (.fromGate index)) := by
  unfold Machine.resumeGate
  split
  next wake task hgate =>
    split
    next => exact .inl rfl
    next hwake =>
      refine .inr ⟨_, _, _, .closed hgate (Nat.le_of_not_lt hwake), ?_⟩
      cases hstanding : (task.resume machine.time machine.shared).standing <;>
        simp only [hstanding, gateAfter]
  next panic hgate =>
    refine .inr ⟨_, _, _, .broken hgate, ?_⟩
    simp [Machine.log]
  next => exact .inl rfl

theorem sound_gate (sound : Sound plan gates width signal machine) (index : Nat) :
    Sound plan gates width signal (machine.resumeGate index) := by
  obtain heq | ⟨next, state, events, resumed, heq⟩ := resumeGate_eq machine index
  · rwa [heq]
  have hkept {id : Nat} {worker : Worker σ} {past : List (Nat × Fate)}
      (h : History plan gates width machine id worker past) :
      History plan gates width (machine.resumeGate index) id worker past := by
    rw [heq]
    exact h.kept (fun _ _ => ⟨by simp, rfl⟩) (fun h => h) (Nat.le_refl _)
  have hlength := (congrArg List.length (Machine.workers_resumeGate machine index)).trans sound.length
  refine { length := hlength, workers := ?_, cause := ?_, gateCount := ?_, gates := ?_ }
  · intro id worker hworker
    rw [Machine.workers_resumeGate] at hworker
    obtain ⟨past, history⟩ := sound.workers id worker hworker
    exact ⟨past, hkept history⟩
  · intro hstop
    refine (sound.cause (by simpa [heq, Machine.log] using hstop)).imp_right ?_
    rintro ⟨hfast, id, worker, past, hworker, history, hfailing⟩
    refine ⟨hfast, id, worker, past, ?_, hkept history, hfailing⟩
    rw [Machine.workers_resumeGate, hworker]
  · rw [heq]
    exact (List.length_set ..).trans sound.gateCount
  · intro other gate hother
    rw [heq] at hother
    by_cases hne : index = other
    · subst hne
      rw [Machine.log, List.getElem?_set_self resumed.lt_length] at hother
      cases hother
      cases resumed with
      | @closed wake task hgate _ =>
          obtain ⟨whole, hwhole, acts, hcourse⟩ := sound.gates index _ hgate
          obtain ⟨own, hown, _⟩ := Task.resume_course task machine.time machine.shared
          have hall := hcourse.append hown
          refine ⟨whole, hwhole, ?_⟩
          cases hstanding : (task.resume machine.time machine.shared).standing with
          | crashed panic => exact ⟨_, panic, hstanding ▸ hall, .inl rfl⟩
          | _ => exact ⟨_, hstanding ▸ hall⟩
      | broken hgate =>
          obtain ⟨whole, hwhole, acts, cause, hends, _⟩ := sound.gates index _ hgate
          exact ⟨whole, hwhole, acts, cause, hends, .inr rfl⟩
    · rw [Machine.log, List.getElem?_set_ne hne] at hother
      exact sound.gates other gate hother

/-- Every step keeps the accounts of a pool in order. -/
theorem Sound.step (sound : Sound plan gates width signal machine) (step : Machine.Step plan signal machine next) :
    Sound plan gates width signal next := by
  cases step with
  | elapse elapsed stops hsignal => exact sound_elapse sound elapsed stops hsignal
  | take hworker _ hstop => exact sound_take sound hworker hstop
  | skip hworker hstop => exact sound_skip sound hworker hstop
  | drop hworker hjob =>
      obtain ⟨past, history⟩ := sound.workers _ _ hworker
      obtain ⟨job, hsome⟩ := history.exists_job (List.mem_cons_self)
      cases hjob.symm.trans hsome
  | rest hworker => exact sound_rest sound hworker
  | gate index => exact sound_gate sound index
  | pass hworker hjob hopens => exact sound_pass sound hworker hjob hopens
  | «break» hworker hjob hgate hbroken => exact sound_break sound hworker hjob hgate hbroken
  | resume hworker _ => exact sound_resume sound hworker
  | report hworker => exact sound_report sound hworker
  | crash hworker hjob => exact sound_crash sound hworker hjob

/-- The accounts of a pool are in order before its first turn. -/
theorem sound_start (workers : Nat) (plan : Plan σ γ) (gates : List (Task σ Event γ)) (stop : Bool)
    (shared : σ) {signal : Prop} (hsignal : stop = true → signal) :
    Sound plan gates (Pool.width workers plan.jobs.length) signal
      (start workers plan gates stop shared) where
  length := by simp [start]
  gateCount := by simp [start]
  cause := fun hstop => .inl (hsignal hstop)
  workers := by
    intro id worker hworker
    simp only [start, List.getElem?_map, Option.map_eq_some_iff] at hworker
    obtain ⟨found, hfound, rfl⟩ := hworker
    obtain ⟨hlt, rfl⟩ := List.getElem?_eq_some_iff.mp hfound
    rw [List.getElem_range]
    exact ⟨[],
      { queue := rfl, settled := nofun, inHand := trivial, waiting := fun _ _ => ⟨rfl, rfl⟩
        order := .nil, working := fun hheld => absurd rfl hheld, crashed := nofun, skipped := nofun
        stopped := nofun, failed := fun _ hfailing => absurd hfailing.choose_spec.1 List.not_mem_nil }⟩
  gates := by
    intro index gate hgate
    simp only [start, List.getElem?_map, Option.map_eq_some_iff] at hgate
    obtain ⟨task, htask, rfl⟩ := hgate
    exact ⟨task, htask, [], .stay _⟩

/-- The accounts of a pool are in order after any schedule. -/
theorem sound_runSchedule (workers : Nat) (plan : Plan σ γ) (gates : List (Task σ Event γ))
    (stop : Bool) (shared : σ) (schedule : List Turn) :
    Sound plan gates (Pool.width workers plan.jobs.length)
      (stop = true ∨ ∃ turn ∈ schedule, turn.stops = true)
      ((start workers plan gates stop shared).runSchedule plan schedule) :=
  ((Machine.runSchedule_steps schedule).mono .inr).invariant (Sound plan gates _ _)
    (sound_start workers plan gates stop shared .inl) fun step sound => sound.step step

/-- What every step of a pool keeps whose accounts are in order holds after any schedule. -/
theorem invariant_runSchedule {workers : Nat} {plan : Plan σ γ} {gates : List (Task σ Event γ)}
    {stop : Bool} {shared : σ} (holds : Machine σ γ → Prop) (schedule : List Turn)
    (hstart : holds (start workers plan gates stop shared))
    (hstep : ∀ {machine next}, Sound plan gates (Pool.width workers plan.jobs.length) True machine →
      Machine.Step plan True machine next → holds machine → holds next) :
    holds ((start workers plan gates stop shared).runSchedule plan schedule) := by
  have hboth := ((Machine.runSchedule_steps schedule).mono fun _ => trivial).invariant
    (fun machine => Sound plan gates (Pool.width workers plan.jobs.length) True machine ∧ holds machine)
    ⟨sound_start workers plan gates stop shared fun _ => trivial, hstart⟩
    fun step h => ⟨h.1.step step, hstep h.1 step h.2⟩
  exact hboth.2

end Acceptance.Pool
