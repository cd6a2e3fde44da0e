import Acceptance.Proofs.Feature.Slot

/-!
# Ledgers of a pool

Whatever order its workers are polled in, the slots of a pool that runs features agree with what its
units have told. So the hooks after a feature are called when the last of its units has told its
records, and only then.
-/

namespace Acceptance.FeatureRunner

open Pool (Machine)

variable {σ ω : Type} (runner : FeatureRunner σ ω) (features : List Feature)

/-- What a pool has to do for some features. -/
abbrev planOf : Pool.Plan (σ × List Slot) (Option HookError) :=
  runner.pooledPlan (runner.selectAll features)

/-- The index of the feature that a unit belongs to. -/
def owner (unit : Nat) : Option Nat := (runner.planOf features).jobs[unit]?.bind Pool.Job.gate

/-- What the books say about the unit that a worker has in hand. -/
def Stage (books : Books) : Pool.Phase (σ × List Slot) → Prop
  | .atGate unit => unit ∈ books.waiting
  | .running unit _ task => runner.Going features (runner.owner features) books unit task
  | .reporting unit (.ok records) => (unit, records) ∈ books.told
  | _ => True

/-- The books of a pool are in order. -/
structure Ledger (machine : Machine (σ × List Slot) (Option HookError)) (books : Books) : Prop where
  /-- Every unit waits or has told its records, and none has twice. -/
  units : (books.waiting ++ books.told.map Prod.fst).Perm
    (List.range (runner.planOf features).jobs.length)
  slots : runner.SlotsAgree features (runner.owner features) books
    (fun unit => .ended unit ∈ machine.trace) machine.shared.2
  stages : ∀ (id : Nat) (worker : Pool.Worker (σ × List Slot)), machine.workers[id]? = some worker →
    runner.Stage features books worker.phase ∧ ∀ unit ∈ worker.queue, unit ∈ books.waiting
  gates : ∀ (index wake : Nat) task, machine.gates[index]? = some (.closed wake task) →
    ∃ own : Task σ Event (Option HookError), task = own.onFirst
  ended : ∀ unit, .ended unit ∈ machine.trace → ∃ records, (unit, records) ∈ books.told
  reported : ∀ unit, .ended unit ∈ machine.trace →
    machine.recordsOf unit = [] ∨ (unit, machine.recordsOf unit) ∈ books.told

variable {runner features} {machine next : Machine (σ × List Slot) (Option HookError)}
  {books : Books} {unit id : Nat} {queue : List Nat}

/-! ## Units in the books -/

section Units

variable {records : List Record}

/-- A unit tells its records once. -/
theorem Ledger.pass (h : (books.waiting ++ books.told.map Prod.fst).Perm
      (List.range (runner.planOf features).jobs.length)) (hwaiting : unit ∈ books.waiting) :
    ((books.pass unit records).waiting ++ (books.pass unit records).told.map Prod.fst).Perm
      (List.range (runner.planOf features).jobs.length) := by
  refine .trans ?_ h
  have hfirst := (List.perm_cons_erase hwaiting).symm
  rw [Books.pass, List.map_append, ← List.append_assoc]
  refine .trans List.perm_append_comm ?_
  exact hfirst.append_right _

theorem Ledger.nodup (ledger : runner.Ledger features machine books) :
    (books.waiting ++ books.told.map Prod.fst).Nodup :=
  ledger.units.nodup_iff.mpr List.nodup_range

/-- A unit that has told its records does not wait. -/
theorem Ledger.notMem_waiting (ledger : runner.Ledger features machine books)
    (htold : (unit, records) ∈ books.told) : unit ∉ books.waiting := fun hwaiting =>
  (List.nodup_append.mp ledger.nodup).2.2 _ hwaiting _ (List.mem_map_of_mem (f := Prod.fst) htold) rfl

/-- A unit that waits has not ended. -/
theorem Ledger.not_ended (ledger : runner.Ledger features machine books)
    (hwaiting : unit ∈ books.waiting) : .ended unit ∉ machine.trace := by
  intro hended
  obtain ⟨records, htold⟩ := ledger.ended unit hended
  exact ledger.notMem_waiting htold hwaiting

/-- A unit has told one list of records only. -/
theorem Ledger.unique (ledger : runner.Ledger features machine books) {others : List Record}
    (htold : (unit, records) ∈ books.told) (hothers : (unit, others) ∈ books.told) :
    records = others := by
  have hnodup := (List.nodup_append.mp ledger.nodup).2.1
  exact congrArg Prod.snd (List.inj_on_of_nodup_map hnodup htold hothers rfl)

variable {other : Nat} {owner : Nat → Option Nat}

/-- What one unit tells does not keep another one from going on. -/
theorem Going.pass {task : Task (σ × List Slot) Event (List Record)}
    (going : runner.Going features owner books other task) (hne : other ≠ unit)
    (hwaiting : unit ∈ books.waiting) :
    runner.Going features owner (books.pass unit records) other task := by
  cases going with
  | telling tell howner' hfeature hscheduled hwaiting' =>
      exact .telling tell howner' hfeature hscheduled ((List.mem_erase_of_ne hne).mpr hwaiting')
  | @closing index' feature others acts after hfeature hscheduled hpending hlast hcourse =>
      have hother : owner unit ≠ some index' := fun heq =>
        absurd hpending (Nat.ne_of_gt (Books.pending_pos hwaiting heq))
      have htold : (books.pass unit records).toldOf owner index' = books.toldOf owner index' :=
        Books.toldOf_pass_of_ne hother
      rw [failedSoFar, ← htold] at hcourse
      exact .closing hfeature hscheduled ((Books.pending_pass_of_ne hother).trans hpending)
        (htold.symm ▸ hlast) hcourse

theorem Stage.pass {phase : Pool.Phase (σ × List Slot)} (h : runner.Stage features books phase)
    (hne : ∀ other ∈ phase.held, other ≠ unit) (hwaiting : unit ∈ books.waiting) :
    runner.Stage features (books.pass unit records) phase := by
  cases phase with
  | idle => trivial
  | stopped => trivial
  | atGate other =>
      exact (List.mem_erase_of_ne (hne other (List.mem_singleton_self _))).mpr h
  | running other wake task =>
      exact Going.pass h (hne other (List.mem_singleton_self _)) hwaiting
  | reporting other outcome =>
      cases outcome with
      | ok records => exact List.mem_append_left _ h
      | error panic => trivial

end Units

/-! ## Steps that leave the books as they are -/

theorem Ledger.keep (ledger : runner.Ledger features machine books)
    (hshared : next.shared.2 = machine.shared.2)
    (hended : ∀ unit, .ended unit ∈ next.trace ↔ .ended unit ∈ machine.trace)
    (hstages : ∀ (id : Nat) (worker : Pool.Worker (σ × List Slot)), next.workers[id]? = some worker →
      runner.Stage features books worker.phase ∧ ∀ unit ∈ worker.queue, unit ∈ books.waiting)
    (hgates : ∀ (index wake : Nat) task, next.gates[index]? = some (.closed wake task) →
      ∃ own : Task σ Event (Option HookError), task = own.onFirst)
    (hreported : ∀ unit, .ended unit ∈ machine.trace →
      next.recordsOf unit = machine.recordsOf unit ∨ (unit, next.recordsOf unit) ∈ books.told) :
    runner.Ledger features next books where
  units := ledger.units
  slots := by
    rw [hshared, funext fun unit => propext (hended unit)]
    exact ledger.slots
  stages := hstages
  gates := hgates
  ended := fun unit h => ledger.ended unit ((hended unit).mp h)
  reported := by
    intro unit h
    rcases hreported unit ((hended unit).mp h) with heq | htold
    · rw [heq]
      exact ledger.reported unit ((hended unit).mp h)
    · exact .inr htold

/-- One worker goes on, and the books stay as they are. -/
theorem Ledger.keep_worker (ledger : runner.Ledger features machine books)
    {worker : Pool.Worker (σ × List Slot)} (hworkers : next.workers = machine.workers.set id worker)
    (hstage : runner.Stage features books worker.phase)
    (hqueue : ∀ unit ∈ worker.queue, unit ∈ books.waiting)
    (hshared : next.shared.2 = machine.shared.2) (hgates : next.gates = machine.gates)
    (hended : ∀ unit, .ended unit ∈ next.trace ↔ .ended unit ∈ machine.trace)
    (hreported : ∀ unit, .ended unit ∈ machine.trace →
      next.recordsOf unit = machine.recordsOf unit ∨ (unit, next.recordsOf unit) ∈ books.told) :
    runner.Ledger features next books := by
  refine ledger.keep hshared hended ?_ (hgates ▸ ledger.gates) hreported
  intro other found hfound
  rw [hworkers] at hfound
  by_cases hother : id = other
  · subst hother
    have hlt : id < machine.workers.length := by
      have := (List.getElem?_eq_some_iff.mp hfound).1
      rwa [List.length_set] at this
    rw [List.getElem?_set_self hlt] at hfound
    cases hfound
    exact ⟨hstage, hqueue⟩
  · rw [List.getElem?_set_ne hother] at hfound
    exact ledger.stages other found hfound

/-! ## Steps -/

section Steps

variable {gates : List (Task (σ × List Slot) Event (Option HookError))} {width : Nat} {signal : Prop}

theorem mem_trace_log {mark other : Pool.Mark} (hne : other ≠ mark) :
    other ∈ (machine.log [mark]).trace ↔ other ∈ machine.trace := by
  simp [Machine.log, hne]

/-- The jobs of a pool for features are those of their instances. -/
theorem exists_of_job {job : Pool.Job (σ × List Slot) (Option HookError)}
    (hjob : (runner.planOf features).jobs[unit]? = some job) :
    ∃ index feature, ∃ instance_ ∈ runner.scheduled feature, features[index]? = some feature ∧
      job = runner.jobOf feature index instance_ := by
  have hmem := List.mem_of_getElem? hjob
  rw [jobs_pooledPlan] at hmem
  obtain ⟨index, feature, instance_, hinstance, hfeature, heq⟩ := mem_jobsFrom hmem
  rw [Nat.zero_add] at heq
  exact ⟨index, feature, instance_, hinstance, hfeature, heq⟩

theorem Ledger.take (ledger : runner.Ledger features machine books)
    (hworker : machine.workers[id]? = some ⟨unit :: queue, .idle⟩) :
    runner.Ledger features ((machine.log [.started unit]).setWorker id ⟨queue, .atGate unit⟩) books := by
  obtain ⟨_, hqueue⟩ := ledger.stages id _ hworker
  obtain ⟨hwaiting, hrest⟩ := List.forall_mem_cons.mp hqueue
  exact ledger.keep_worker rfl hwaiting hrest rfl rfl (fun _ => mem_trace_log nofun)
    fun _ _ => .inl rfl

/-- A unit that waits may be skipped. -/
theorem Ledger.skip (ledger : runner.Ledger features machine books)
    (hwaiting : unit ∈ books.waiting) :
    runner.Ledger features (machine.skip (runner.planOf features) unit) books := by
  refine ledger.keep ?_ ?_ ?_ ?_ ?_
  · unfold Machine.skip
    split <;> rfl
  · intro other
    unfold Machine.skip
    split
    · exact mem_trace_log nofun
    · exact Iff.rfl
  · rw [Machine.workers_skip]
    exact ledger.stages
  · rw [Machine.gates_skip]
    exact ledger.gates
  · intro other hended
    have hne : other ≠ unit := fun heq => ledger.not_ended hwaiting (heq ▸ hended)
    exact .inl (Machine.skip_of_ne _ machine hne).2

/-- A worker whose unit has not told its records and is done with, or that has no unit in hand. -/
theorem Ledger.leave (ledger : runner.Ledger features machine books)
    {worker : Pool.Worker (σ × List Slot)} (hstage : runner.Stage features books worker.phase)
    (hqueue : ∀ unit ∈ worker.queue, unit ∈ books.waiting) :
    runner.Ledger features (machine.setWorker id worker) books :=
  ledger.keep_worker rfl hstage hqueue rfl rfl (fun _ => Iff.rfl) fun _ _ => .inl rfl

theorem Ledger.foldl_skip (ledger : runner.Ledger features machine books)
    (hqueue : ∀ unit ∈ queue, unit ∈ books.waiting) :
    runner.Ledger features (queue.foldl (Machine.skip (runner.planOf features)) machine) books := by
  induction queue generalizing machine with
  | nil => exact ledger
  | cons unit queue ih =>
      obtain ⟨hwaiting, hrest⟩ := List.forall_mem_cons.mp hqueue
      exact ih (ledger.skip hwaiting) hrest

theorem Ledger.resumeGate (ledger : runner.Ledger features machine books) (index : Nat) :
    runner.Ledger features (machine.resumeGate index) books := by
  obtain heq | ⟨next, left, events, resumed, heq⟩ := Pool.resumeGate_eq machine index
  · rwa [heq]
  rw [heq]
  -- The slots are out of reach of the task of a gate.
  have hnext : left.2 = machine.shared.2 ∧
      ∀ wake task, next = .closed wake task → ∃ own : Task σ Event (Option HookError), task = own.onFirst := by
    cases resumed with
    | @closed wake task hgate _ =>
        obtain ⟨own, rfl⟩ := ledger.gates index wake task hgate
        obtain ⟨⟨state, slots⟩, hshared⟩ : ∃ shared, machine.shared = shared := ⟨_, rfl⟩
        rw [hshared, Task.resume_onFirst]
        refine ⟨rfl, fun wake task heq => ?_⟩
        cases hstanding : (own.resume machine.time state).standing <;> rw [hstanding] at heq <;>
          cases heq
        · exact ⟨_, rfl⟩
        · exact ⟨_, rfl⟩
        · exact ⟨.hang, rfl⟩
    | broken hgate => exact ⟨rfl, nofun⟩
  refine ledger.keep hnext.1 (fun _ => by simp) ledger.stages ?_ fun _ _ => .inl rfl
  intro other wake task hother
  by_cases hne : index = other
  · subst hne
    rw [Machine.log, List.getElem?_set_self resumed.lt_length] at hother
    exact hnext.2 wake task (Option.some.inj hother)
  · rw [Machine.log, List.getElem?_set_ne hne] at hother
    exact ledger.gates other wake task hother

theorem Ledger.pass_gate (ledger : runner.Ledger features machine books)
    {job : Pool.Job (σ × List Slot) (Option HookError)} {opened : Option (Option HookError)}
    (hworker : machine.workers[id]? = some ⟨queue, .atGate unit⟩)
    (hjob : (runner.planOf features).jobs[unit]? = some job) :
    runner.Ledger features (machine.setWorker id ⟨queue, .running unit 0 (job.body opened)⟩) books := by
  obtain ⟨hwaiting, hqueue⟩ := ledger.stages id _ hworker
  obtain ⟨index, feature, instance_, hinstance, hfeature, rfl⟩ := exists_of_job hjob
  have howner : runner.owner features unit = some index := by
    rw [owner, hjob]
    rfl
  refine ledger.leave ?_ hqueue
  simp only [Stage, jobOf, runUnit_eq]
  exact .telling _ howner hfeature (List.ne_nil_of_mem hinstance) hwaiting

theorem Ledger.break (ledger : runner.Ledger features machine books) {panic : Panic}
    (hworker : machine.workers[id]? = some ⟨queue, .atGate unit⟩) :
    runner.Ledger features
      ((machine.log [.crashed unit]).setWorker id ⟨queue, .reporting unit (.error panic)⟩) books := by
  obtain ⟨_, hqueue⟩ := ledger.stages id _ hworker
  exact ledger.keep_worker rfl trivial hqueue rfl rfl (fun _ => mem_trace_log nofun)
    fun _ _ => .inl rfl

/-- What is reported of a unit that has ended is what it has told. -/
theorem Ledger.report (ledger : runner.Ledger features machine books) {records : List Record}
    (hworker : machine.workers[id]? = some ⟨queue, .reporting unit (.ok records)⟩)
    (hempty : machine.recordsOf unit = []) (stop : Bool) :
    runner.Ledger features
      ({ machine.report unit records with stop }.setWorker id ⟨queue, .idle⟩) books := by
  obtain ⟨htold, hqueue⟩ := ledger.stages id _ hworker
  refine ledger.keep_worker rfl trivial hqueue rfl rfl (fun _ => Iff.rfl) ?_
  intro other _
  by_cases hother : other = unit
  · subst hother
    have hrecords : (machine.report other records).recordsOf other = records := by
      rw [Machine.recordsOf_report_self, hempty, List.nil_append]
    right
    change (other, (machine.report other records).recordsOf other) ∈ books.told
    rwa [hrecords]
  · exact .inl (Machine.recordsOf_report_of_ne hother)

theorem Ledger.crash (ledger : runner.Ledger features machine books) {panic : Panic}
    {failed : Record} (hworker : machine.workers[id]? = some ⟨queue, .reporting unit (.error panic)⟩)
    (hended : .ended unit ∉ machine.trace) :
    runner.Ledger features
      ((queue.foldl (Machine.skip (runner.planOf features)) (machine.report unit [failed])).setWorker id
        ⟨[], .stopped⟩) books := by
  obtain ⟨_, hqueue⟩ := ledger.stages id _ hworker
  have hreported : runner.Ledger features (machine.report unit [failed]) books := by
    refine ledger.keep rfl (fun _ => Iff.rfl) ledger.stages ledger.gates ?_
    intro other hother
    exact .inl (Machine.recordsOf_report_of_ne fun heq => hended (heq ▸ hother))
  exact (hreported.foldl_skip hqueue).leave trivial nofun

section Tells

variable {books' : Books} (tells : Tells books books' unit)

include tells

theorem Tells.units (ledger : runner.Ledger features machine books) :
    (books'.waiting ++ books'.told.map Prod.fst).Perm
      (List.range (runner.planOf features).jobs.length) := by
  obtain rfl | ⟨hwaiting, records, rfl⟩ := tells
  · exact ledger.units
  · exact Ledger.pass ledger.units hwaiting

theorem Tells.told {entry : Nat × List Record} (h : entry ∈ books.told) : entry ∈ books'.told := by
  obtain rfl | ⟨_, records, rfl⟩ := tells
  · exact h
  · exact List.mem_append_left _ h

theorem Tells.waiting {other : Nat} (hne : other ≠ unit) (h : other ∈ books.waiting) :
    other ∈ books'.waiting := by
  obtain rfl | ⟨_, records, rfl⟩ := tells
  · exact h
  · exact (List.mem_erase_of_ne hne).mpr h

theorem Tells.stage {phase : Pool.Phase (σ × List Slot)} (hne : ∀ other ∈ phase.held, other ≠ unit)
    (h : runner.Stage features books phase) : runner.Stage features books' phase := by
  obtain rfl | ⟨hwaiting, records, rfl⟩ := tells
  · exact h
  · exact h.pass hne hwaiting

end Tells

/-- A worker goes on with its unit, which may tell its records, and the books of all other units stay
in order. -/
theorem Ledger.proceed {books' : Books} {phase phase' : Pool.Phase (σ × List Slot)}
    (ledger : runner.Ledger features machine books) (tells : Tells books books' unit)
    (hworker : machine.workers[id]? = some ⟨queue, phase⟩) (hqueue : unit ∉ queue)
    (hothers : ∀ (other : Nat) (worker : Pool.Worker (σ × List Slot)), other ≠ id →
      machine.workers[other]? = some worker → unit ∉ worker.units)
    (hempty : machine.recordsOf unit = [])
    (hworkers : next.workers = machine.workers.set id ⟨queue, phase'⟩)
    (hstage : runner.Stage features books' phase')
    (hslots : runner.SlotsAgree features (runner.owner features) books'
      (fun unit => .ended unit ∈ next.trace) next.shared.2)
    (hgates : next.gates = machine.gates)
    (hended : ∀ other, .ended other ∈ next.trace →
      .ended other ∈ machine.trace ∨ other = unit ∧ ∃ records, (unit, records) ∈ books'.told)
    (hrecords : ∀ other, next.recordsOf other = machine.recordsOf other) :
    runner.Ledger features next books' where
  units := tells.units ledger
  slots := hslots
  stages := by
    intro other found hfound
    rw [hworkers] at hfound
    by_cases hother : id = other
    · subst hother
      rw [List.getElem?_set_self (List.getElem?_eq_some_iff.mp hworker).1] at hfound
      cases hfound
      refine ⟨hstage, fun waiting hwaiting => ?_⟩
      exact tells.waiting (fun heq => hqueue (heq ▸ hwaiting))
        ((ledger.stages id _ hworker).2 waiting hwaiting)
    · rw [List.getElem?_set_ne hother] at hfound
      have hnot := hothers other found (Ne.symm hother) hfound
      obtain ⟨hphase, hwaiting⟩ := ledger.stages other found hfound
      refine ⟨tells.stage ?_ hphase, fun waiting hmem => tells.waiting ?_ (hwaiting waiting hmem)⟩
      · rintro held hheld rfl
        exact hnot (List.mem_append_left _ hheld)
      · rintro rfl
        exact hnot (List.mem_append_right _ hmem)
  gates := hgates ▸ ledger.gates
  ended := by
    intro other hother
    rcases hended other hother with hbefore | ⟨rfl, htold⟩
    · obtain ⟨records, htold⟩ := ledger.ended other hbefore
      exact ⟨records, tells.told htold⟩
    · exact htold
  reported := by
    intro other hother
    rw [hrecords]
    rcases hended other hother with hbefore | ⟨rfl, _⟩
    · exact (ledger.reported other hbefore).imp_right tells.told
    · exact .inl hempty

/-- When a unit has been resumed the books are in order again, if they fit how it stands. -/
theorem Ledger.resumed {books' : Books} {wake : Nat}
    {task : Task (σ × List Slot) Event (List Record)}
    (ledger : runner.Ledger features machine books)
    (hworker : machine.workers[id]? = some ⟨queue, .running unit wake task⟩) (hqueue : unit ∉ queue)
    (hothers : ∀ (other : Nat) (worker : Pool.Worker (σ × List Slot)), other ≠ id →
      machine.workers[other]? = some worker → unit ∉ worker.units)
    (hempty : machine.recordsOf unit = []) (hbooks : Tells books books' unit)
    (hresumed : runner.Resumed features (runner.owner features) books'
      (fun other => .ended other ∈ machine.trace) unit
      (task.resume machine.time (machine.shared.1, machine.shared.2)).state.2
      (task.resume machine.time (machine.shared.1, machine.shared.2)).standing) :
    runner.Ledger features (machine.resumeUnit id queue unit task) books' := by
  have hmarks (other : Nat) (marks : List Pool.Mark) :
      .ended other ∈ machine.trace ++
          ((task.resume machine.time machine.shared).events.map (Pool.Mark.fromUnit unit) ++ marks) ↔
        .ended other ∈ machine.trace ∨ .ended other ∈ marks := by
    simp
  rw [Prod.eta] at hresumed
  rw [Pool.resumeUnit_eq]
  -- Only a unit that is finished gets the mark that it has ended.
  have hgoes (standing : Task.Standing (σ × List Slot) Event (List Record))
      (hopen : ∀ other, .ended other ∉ Pool.lastMarks unit standing)
      (hagree : runner.SlotsAgree features (runner.owner features) books'
        (fun unit => .ended unit ∈ machine.trace) (task.resume machine.time machine.shared).state.2)
      (hstage : runner.Stage features books' (Pool.phaseAfter machine.time unit standing)) :
      runner.Ledger features
        (({ machine with shared := (task.resume machine.time machine.shared).state }.log
            ((task.resume machine.time machine.shared).events.map (Pool.Mark.fromUnit unit) ++
              Pool.lastMarks unit standing)).setWorker id
          ⟨queue, Pool.phaseAfter machine.time unit standing⟩) books' := by
    have hsame (other : Nat) := (hmarks other (Pool.lastMarks unit standing)).trans
      (or_iff_left (hopen other))
    refine ledger.proceed hbooks hworker hqueue hothers hempty rfl hstage ?_ rfl
      (fun other hother => .inl ((hsame other).mp hother)) fun _ => rfl
    rw [← funext fun other => propext (hsame other)] at hagree
    exact hagree
  obtain ⟨records, hstanding⟩ | ⟨panic, hstanding⟩ | hopen :=
    (task.resume machine.time machine.shared).standing.ended_or_isOpen
  · rw [hstanding] at hresumed ⊢
    obtain ⟨htold, hagree⟩ := hresumed
    have hends (other : Nat) : .ended other ∈ machine.trace ++
        ((task.resume machine.time machine.shared).events.map (Pool.Mark.fromUnit unit) ++
          [.ended unit]) ↔ .ended other ∈ machine.trace ∨ other = unit := by
      rw [hmarks, List.mem_singleton, Pool.Mark.ended.injEq]
    refine ledger.proceed hbooks hworker hqueue hothers hempty rfl htold ?_ rfl
      (fun other hother => ((hends other).mp hother).imp_right fun heq => ⟨heq, records, htold⟩)
      fun _ => rfl
    rw [← funext fun other => propext (hends other)] at hagree
    exact hagree
  · rw [hstanding] at hresumed ⊢
    exact hgoes (.crashed panic) (by simp [Pool.lastMarks]) hresumed trivial
  · obtain ⟨hagree, hgoing⟩ := (resumed_iff_of_isOpen hopen).mp hresumed
    obtain ⟨hnone, wake, hphase⟩ := Pool.phaseAfter_of_isOpen hopen machine.time unit
    refine hgoes _ (by simp [hnone]) hagree ?_
    rw [hphase]
    exact hgoing

/-- When a unit is resumed it may tell its records, and the books are in order again. -/
theorem Ledger.resume {wake : Nat} {task : Task (σ × List Slot) Event (List Record)}
    (ledger : runner.Ledger features machine books)
    (hworker : machine.workers[id]? = some ⟨queue, .running unit wake task⟩) (hqueue : unit ∉ queue)
    (hothers : ∀ (other : Nat) (worker : Pool.Worker (σ × List Slot)), other ≠ id →
      machine.workers[other]? = some worker → unit ∉ worker.units)
    (hempty : machine.recordsOf unit = []) (hended : .ended unit ∉ machine.trace) :
    ∃ books', runner.Ledger features (machine.resumeUnit id queue unit task) books' := by
  obtain ⟨books', hbooks, hresumed⟩ := Going.resume machine.time machine.shared.1
    (ledger.stages id _ hworker).1 ledger.slots hended
  exact ⟨books', ledger.resumed hworker hqueue hothers hempty hbooks hresumed⟩

/-- Every step of a pool keeps its books in order. -/
theorem Ledger.step (ledger : runner.Ledger features machine books)
    (sound : Pool.Sound (runner.planOf features) gates width signal machine)
    (step : Machine.Step (runner.planOf features) signal machine next) :
    ∃ books', runner.Ledger features next books' := by
  cases step with
  | elapse elapsed stops _ =>
      exact ⟨books, ledger.keep rfl (fun _ => Iff.rfl) ledger.stages ledger.gates fun _ _ => .inl rfl⟩
  | take hworker _ _ => exact ⟨books, ledger.take hworker⟩
  | skip hworker _ =>
      obtain ⟨hwaiting, hqueue⟩ := List.forall_mem_cons.mp (ledger.stages _ _ hworker).2
      exact ⟨books, (ledger.skip hwaiting).leave trivial hqueue⟩
  | drop hworker _ =>
      have hqueue := (List.forall_mem_cons.mp (ledger.stages _ _ hworker).2).2
      exact ⟨books, ledger.leave trivial hqueue⟩
  | rest hworker => exact ⟨books, ledger.leave trivial nofun⟩
  | gate index => exact ⟨books, ledger.resumeGate index⟩
  | pass hworker hjob _ => exact ⟨books, ledger.pass_gate hworker hjob⟩
  | «break» hworker _ _ _ => exact ⟨books, ledger.break hworker⟩
  | resume hworker _ =>
      obtain ⟨hqueue, hothers, hempty, hended⟩ := sound.alone hworker
      exact ledger.resume hworker hqueue hothers hempty hended
  | @report id unit queue records hworker =>
      obtain ⟨past, history⟩ := sound.workers id _ hworker
      exact ⟨books, ledger.report hworker history.inHand.2 _⟩
  | @crash id unit queue job panic hworker _ =>
      obtain ⟨past, history⟩ := sound.workers id _ hworker
      obtain ⟨⟨_, events, _, _, hmarks⟩, _⟩ := history.inHand
      refine ⟨books, ledger.crash hworker fun hended => ?_⟩
      have hmem : .ended unit ∈ Pool.marksOf unit machine.trace := (Pool.mem_marksOf rfl).mpr hended
      simp [hmarks, Pool.callMarks] at hmem

end Steps

/-! ## Whole schedules -/

section Schedules

theorem countP_range {α : Type} (values : List α) (p : Option α → Bool) :
    (List.range values.length).countP (fun i => p values[i]?) =
      values.countP fun value => p (some value) := by
  induction values with
  | nil => rfl
  | cons value rest ih =>
      rw [List.length_cons, List.range_succ_eq_map, List.countP_cons, List.countP_cons,
        List.countP_map]
      exact congrArg (· + _) ih

/-- A feature has as many jobs as instances that are to be run. -/
theorem countP_jobsFrom {features : List Feature} {first offset : Nat} {feature : Feature}
    (hfeature : features[offset]? = some feature) :
    (runner.jobsFrom first features).countP (fun job => job.gate = some (first + offset)) =
      (runner.scheduled feature).length := by
  induction features generalizing first offset with
  | nil => cases hfeature
  | cons head rest ih =>
      rw [jobsFrom, List.countP_append, List.countP_map]
      cases offset with
      | zero =>
          cases hfeature
          have hlater : (runner.jobsFrom (first + 1) rest).countP
              (fun job => job.gate = some (first + 0)) = 0 := by
            rw [List.countP_eq_zero]
            intro job hjob
            obtain ⟨offset, found, instance_, _, _, rfl⟩ := mem_jobsFrom hjob
            simp only [jobOf, Option.some.injEq, decide_eq_true_eq]
            omega
          rw [hlater, Nat.add_zero, List.countP_eq_length]
          intro instance_ _
          simp [jobOf]
      | succ offset =>
          have hhead : (runner.scheduled head).countP
              ((fun job => decide (job.gate = some (first + (offset + 1)))) ∘
                runner.jobOf head first) = 0 := by
            rw [List.countP_eq_zero]
            intro instance_ _
            simp [jobOf]
          rw [hhead, Nat.zero_add, ← ih hfeature]
          rw [Nat.add_comm offset, ← Nat.add_assoc]

/-- The books of a pool are in order before its first turn: all units wait. -/
theorem ledger_start (stop : Bool) (state : σ) :
    runner.Ledger features (runner.pooledStart (runner.selectAll features) stop state)
      ⟨List.range (runner.planOf features).jobs.length, []⟩ where
  units := by simp
  slots := by
    refine ⟨?_, ?_⟩
    · simp [pooledStart, Pool.start, selectAll]
    · intro index feature slot hfeature hslot
      have hslot' : slot = slotOf (runner.selected feature) := by
        simpa [pooledStart, Pool.start, selectAll_eq, hfeature, eq_comm] using hslot
      have hpending : slot.pending =
          Books.pending (runner.owner features)
            ⟨List.range (runner.planOf features).jobs.length, []⟩ index := by
        have hcount := countP_range (runner.planOf features).jobs
          fun job => job.bind Pool.Job.gate = some index
        have hjobs : (runner.jobsFrom 0 features).countP (fun job => job.gate = some (0 + index)) =
            (runner.scheduled feature).length := countP_jobsFrom hfeature
        rw [Nat.zero_add, ← jobs_pooledPlan] at hjobs
        rw [hslot', Books.pending]
        exact (hcount.trans hjobs).symm
      refine
        { pending := hpending, failed := ?_, unfinished := fun _ => ?_
          finished := fun hzero hscheduled => ?_ }
      · simp [hslot', slotOf, selected, failedSoFar, Books.toldOf]
      · rw [hslot']
        exact ⟨rfl, rfl⟩
      · rw [hslot'] at hzero
        exact absurd (List.eq_nil_of_length_eq_zero hzero) hscheduled
  stages := by
    intro id worker hworker
    simp only [pooledStart, Pool.start, List.getElem?_map, Option.map_eq_some_iff] at hworker
    obtain ⟨found, _, rfl⟩ := hworker
    exact ⟨trivial, fun unit hunit => List.mem_range.mpr (Pool.mem_queueOf.mp hunit).1⟩
  gates := by
    intro index wake task hgate
    simp only [pooledStart, Pool.start, List.getElem?_map, Option.map_eq_some_iff] at hgate
    obtain ⟨_, ⟨selected, _, rfl⟩, heq⟩ := hgate
    cases heq
    exact ⟨_, rfl⟩
  ended := nofun
  reported := nofun

/-- The books of a pool are in order after any schedule. -/
theorem exists_ledger (schedule : List Pool.Turn) (stop : Bool) (state : σ) :
    ∃ books, runner.Ledger features
      ((runner.pooledStart (runner.selectAll features) stop state).runSchedule
        (runner.planOf features) schedule) books := by
  refine Pool.invariant_runSchedule (fun machine => ∃ books, runner.Ledger features machine books)
    schedule ⟨_, ledger_start stop state⟩ ?_
  rintro machine next sound step ⟨books, ledger⟩
  exact ledger.step sound step

end Schedules

end Acceptance.FeatureRunner
