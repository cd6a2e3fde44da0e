import Acceptance.Proofs.Feature.Pooled
import Acceptance.Proofs.Feature.Span

/-!
# All features of a pool

Every step of a pool concerns one feature, or none, and leaves the others where they are. So it is known
of all features how far they have come, in whatever order the workers of the pool are polled.
-/

namespace Acceptance.FeatureRunner

open Pool (Machine)
open Acceptance.Task (Act)

variable {σ ω : Type} {runner : FeatureRunner σ ω} {features : List Feature} {index : Nat}
  {books : Books}

/-! ## All features of a pool -/

variable (runner features) in
/-- How far all features of a pool have come. -/
def Spans (machine : Machine (σ × List Slot) (Option HookError)) (books : Books) : Prop :=
  ∀ index feature, features[index]? = some feature →
    runner.Span features index feature books machine.gates[index]? (Pool.Runs machine)
      (Pool.marksAt (runner.owner features) index machine.trace)

section Steps

variable {machine next : Machine (σ × List Slot) (Option HookError)}
  {gates : List (Task (σ × List Slot) Event (Option HookError))} {width id unit : Nat}
  {queue : List Nat} {signal : Prop}

theorem exists_isUnit_of_job {job : Pool.Job (σ × List Slot) (Option HookError)}
    (hjob : (runner.planOf features).jobs[unit]? = some job) :
    ∃ index feature instance_, features[index]? = some feature ∧
      runner.IsUnit features index feature unit instance_ ∧
      job = runner.jobOf feature index instance_ := by
  obtain ⟨index, feature, instance_, _, hfeature, rfl⟩ := exists_of_job hjob
  exact ⟨index, feature, instance_, hfeature, hjob, rfl⟩

/-- Features come no further where nothing happens and no unit starts to run. -/
theorem Spans.keep (spans : runner.Spans features machine books) (hgates : next.gates = machine.gates)
    (htrace : next.trace = machine.trace)
    (hruns : ∀ unit task, Pool.Runs next unit task → Pool.Runs machine unit task) :
    runner.Spans features next books := by
  intro index feature hfeature
  rw [hgates, htrace]
  exact (kept_of_runs fun unit task _ => hruns unit task).span (spans index feature hfeature)

/-- What happens to a unit does not concern other features than its own. -/
theorem marksAt_of_ne {added : List Pool.Mark} (hadded : ∀ mark ∈ added, mark.unit? = some unit)
    (hne : runner.owner features unit ≠ some index) :
    Pool.marksAt (runner.owner features) index added = [] :=
  Pool.marksAt_eq_nil fun mark hmark => Pool.Mark.group?_of_unit? (hadded mark hmark) ▸ hne

theorem marksAt_of_eq {added : List Pool.Mark} (hadded : ∀ mark ∈ added, mark.unit? = some unit)
    (howner : runner.owner features unit = some index) :
    Pool.marksAt (runner.owner features) index added = added :=
  Pool.marksAt_eq_self fun mark hmark => Pool.Mark.group?_of_unit? (hadded mark hmark) ▸ howner

/-- A unit that waits in a queue is started or skipped. -/
theorem Spans.mark (spans : runner.Spans features machine books) (hwaiting : unit ∈ books.waiting)
    (hfresh : Pool.marksOf unit machine.trace = []) {mark : Pool.Mark}
    (hmark : mark = .started unit ∨ mark = .skipped unit) (hgates : next.gates = machine.gates)
    (htrace : next.trace = machine.trace ++ [mark])
    (hruns : ∀ unit task, Pool.Runs next unit task → Pool.Runs machine unit task) :
    runner.Spans features next books := by
  have hunit : ∀ found ∈ [mark], found.unit? = some unit := by
    obtain rfl | rfl := hmark <;> simp [Pool.Mark.unit?]
  intro index feature hfeature
  rw [hgates, htrace, Pool.marksAt_append]
  have hspan := (kept_of_runs fun unit task _ => hruns unit task).span (spans index feature hfeature)
  by_cases howner : runner.owner features unit = some index
  · obtain ⟨instance_, _, isUnit⟩ := exists_isUnit hfeature howner
    rw [marksAt_of_eq hunit howner]
    exact hspan.mark isUnit hwaiting (by rwa [Pool.marksOf_marksAt howner]) hmark
  · rwa [marksAt_of_ne hunit howner, List.append_nil]

theorem Spans.skip (spans : runner.Spans features machine books) (hwaiting : unit ∈ books.waiting)
    (hfresh : Pool.marksOf unit machine.trace = []) :
    runner.Spans features (machine.skip (runner.planOf features) unit) books := by
  unfold Machine.skip
  split
  · exact spans.mark hwaiting hfresh (.inr rfl) rfl rfl fun _ _ h => h
  · exact spans

theorem Spans.foldl_skip (spans : runner.Spans features machine books) (hnodup : queue.Nodup)
    (hqueue : ∀ unit ∈ queue, unit ∈ books.waiting ∧ Pool.marksOf unit machine.trace = []) :
    runner.Spans features (queue.foldl (Machine.skip (runner.planOf features)) machine) books := by
  induction queue generalizing machine with
  | nil => exact spans
  | cons unit queue ih =>
      obtain ⟨⟨hwaiting, hfresh⟩, hrest⟩ := List.forall_mem_cons.mp hqueue
      obtain ⟨hnot, hnodup⟩ := List.nodup_cons.mp hnodup
      refine ih (spans.skip hwaiting hfresh) hnodup fun other hother => ?_
      have hne : other ≠ unit := fun heq => hnot (heq ▸ hother)
      refine (hrest other hother).imp_right fun hfresh => ?_
      exact (Machine.skip_of_ne _ machine hne).1.trans hfresh

/-- A unit that waits at the gate of its feature resumes the gate. -/
theorem Spans.resumeGate (spans : runner.Spans features machine books)
    (ledger : runner.Ledger features machine books)
    (sound : Pool.Sound (runner.planOf features) gates width signal machine) (hwidth : 0 < width)
    {feature : Feature} {instance_ : Instance}
    (hworker : machine.workers[id]? = some ⟨queue, .atGate unit⟩)
    (hfeature : features[index]? = some feature)
    (isUnit : runner.IsUnit features index feature unit instance_) :
    runner.Spans features (machine.resumeGate index) books := by
  obtain heq | ⟨gate, left, events, resumed, heq⟩ := Pool.resumeGate_eq machine index
  · rwa [heq]
  have howner := isUnit.owner
  obtain ⟨_, hinstance, _⟩ := exists_isUnit hfeature howner
  obtain ⟨hwaiting, _⟩ := ledger.stages id _ hworker
  obtain ⟨past, history⟩ := sound.workers id _ hworker
  rw [heq]
  intro other found hfound
  have hspan := spans other found hfound
  rw [Machine.trace_log, Pool.marksAt_append]
  change runner.Span features other found books (machine.gates.set index _)[other]?
    (Pool.Runs machine) _
  by_cases hother : index = other
  · subst hother
    cases hfeature.symm.trans hfound
    rw [List.getElem?_set_self resumed.lt_length, Pool.marksAt_fromGate]
    cases resumed with
    | broken hgate =>
        rw [hgate] at hspan
        exact hspan.stay_broken fun _ _ _ h => h
    | closed hgate _ =>
        rw [hgate] at hspan
        refine hspan.resumeGate (List.ne_nil_of_mem hinstance) ⟨unit, ?_⟩
          (Nat.ne_of_gt (Books.pending_pos hwaiting howner)) ?_
        · have hstarted : .started unit ∈ Pool.marksOf unit machine.trace := by
            rw [history.inHand.1]
            exact List.mem_singleton_self _
          rw [← Pool.marksOf_marksAt howner] at hstarted
          exact Pool.mem_of_marksOf hstarted
        · intro other instance_ isOther hearly htold
          refine ⟨(mem_waiting ledger.units isOther).resolve_right ?_, ?_⟩
          · rintro ⟨records, hrecords⟩
            have hmem := (Books.mem_toldOf isOther.owner).mpr hrecords
            rw [htold] at hmem
            cases hmem
          · have hsame := Pool.marksOf_marksAt isOther.owner machine.trace
            rw [hsame]
            refine sound.early hwidth (List.getElem?_eq_some_iff.mp isOther).1 fun mark hmark => ?_
            exact hearly mark (Pool.mem_of_marksOf (hsame ▸ hmark))
  · rw [List.getElem?_set_ne hother, Pool.marksAt_fromGate_of_ne hother, List.append_nil]
    exact hspan

/-- A unit passes the gate of its feature. -/
theorem Spans.pass (spans : runner.Spans features machine books)
    (ledger : runner.Ledger features machine books)
    (sound : Pool.Sound (runner.planOf features) gates width signal machine)
    {feature : Feature} {instance_ : Instance} {value : Option HookError}
    (hworker : machine.workers[id]? = some ⟨queue, .atGate unit⟩)
    (hfeature : features[index]? = some feature)
    (isUnit : runner.IsUnit features index feature unit instance_)
    (hopened : machine.gates[index]? = some (.opened value)) :
    runner.Spans features (machine.setWorker id
      ⟨queue, .running unit 0 (runner.runUnit feature index instance_ value)⟩) books := by
  have howner := isUnit.owner
  obtain ⟨hwaiting, _⟩ := ledger.stages id _ hworker
  obtain ⟨past, history⟩ := sound.workers id _ hworker
  intro other found hfound
  change runner.Span features other found books machine.gates[other]? _
    (Pool.marksAt (runner.owner features) other machine.trace)
  have hspan := spans other found hfound
  have hruns (other : Nat) (task : Task (σ × List Slot) Event (List Record)) (hne : other ≠ unit)
      (h : Pool.Runs (machine.setWorker id
        ⟨queue, .running unit 0 (runner.runUnit feature index instance_ value)⟩) other task) :
      Pool.Runs machine other task := by
    refine h.of_still rfl fun wake hphase => ?_
    cases hphase
    exact hne rfl
  by_cases hother : index = other
  · subst hother
    cases hfeature.symm.trans hfound
    rw [hopened] at hspan ⊢
    refine hspan.pass isUnit hwaiting ?_ hruns fun task h => ?_
    · rw [Pool.marksOf_marksAt howner]
      exact history.inHand.1
    · obtain ⟨wake, hphase⟩ | ⟨other, queue, wake, hne, hother⟩ := h.of_set rfl
      · cases hphase
        rfl
      · exact absurd List.mem_cons_self
          (sound.notMem_units hworker List.mem_cons_self hne hother)
  · refine (kept_of_runs fun unit' task howner' h => hruns unit' task ?_ h).span hspan
    rintro rfl
    exact hother (Option.some.inj (howner.symm.trans howner'))

/-- A unit that waits at the gate of its feature crashes there when the gate is broken. -/
theorem Spans.break {panic : Panic} (spans : runner.Spans features machine books)
    {feature : Feature} {instance_ : Instance} (hfeature : features[index]? = some feature)
    (isUnit : runner.IsUnit features index feature unit instance_)
    (hbroken : machine.gates[index]? = some (.broken panic)) :
    runner.Spans features
      ((machine.log [.crashed unit]).setWorker id ⟨queue, .reporting unit (.error panic)⟩) books := by
  have howner := isUnit.owner
  have hunit : ∀ found ∈ [Pool.Mark.crashed unit], found.unit? = some unit := by simp [Pool.Mark.unit?]
  have hruns (other : Nat) (task : Task (σ × List Slot) Event (List Record))
      (h : Pool.Runs ((machine.log [.crashed unit]).setWorker id
        ⟨queue, .reporting unit (.error panic)⟩) other task) : Pool.Runs machine other task :=
    h.of_still rfl (by rintro _ ⟨⟩)
  intro other found hfound
  change runner.Span features other found books machine.gates[other]? _
    (Pool.marksAt (runner.owner features) other (machine.trace ++ [.crashed unit]))
  have hspan := spans other found hfound
  by_cases hother : index = other
  · subst hother
    cases hfeature.symm.trans hfound
    rw [hbroken] at hspan ⊢
    exact hspan.stay_broken fun unit' task _ => hruns unit' task
  · rw [Pool.marksAt_append, marksAt_of_ne hunit fun h => hother (Option.some.inj (howner.symm.trans h)),
      List.append_nil]
    exact (kept_of_runs fun unit' task _ => hruns unit' task).span hspan

/-- A worker goes on with its unit. -/
theorem Spans.resume {wake : Nat} {task : Task (σ × List Slot) Event (List Record)}
    (spans : runner.Spans features machine books) (ledger : runner.Ledger features machine books)
    (sound : Pool.Sound (runner.planOf features) gates width signal machine)
    (hworker : machine.workers[id]? = some ⟨queue, .running unit wake task⟩) :
    ∃ books', runner.Ledger features (machine.resumeUnit id queue unit task) books' ∧
      runner.Spans features (machine.resumeUnit id queue unit task) books' := by
  obtain ⟨hqueue, hothers, hempty, hended⟩ := sound.alone hworker
  obtain ⟨past, history⟩ := sound.workers id _ hworker
  obtain ⟨job, hjob⟩ := history.exists_job List.mem_cons_self
  obtain ⟨index, feature, instance_, hfeature, isUnit, _⟩ := exists_isUnit_of_job hjob
  have howner := isUnit.owner
  have hruns (other : Nat) (left : Task (σ × List Slot) Event (List Record)) (hne : other ≠ unit)
      (h : Pool.Runs (machine.resumeUnit id queue unit task) other left) :
      Pool.Runs machine other left := by
    rw [Pool.resumeUnit_eq] at h
    refine h.of_still rfl fun wake hphase => ?_
    have hheld := Pool.held_phaseAfter machine.time unit
      (task.resume machine.time machine.shared).standing
    dsimp only at hphase
    rw [hphase] at hheld
    exact hne (List.cons.inj hheld).1
  have hunit (left : Task (σ × List Slot) Event (List Record))
      (h : Pool.Runs (machine.resumeUnit id queue unit task) unit left) :
      Continues machine.time unit
        (task.resume machine.time (machine.shared.1, machine.shared.2)).standing left := by
    rw [Pool.resumeUnit_eq] at h
    obtain hphase | ⟨other, queue, wake, hne, hother⟩ := h.of_set rfl
    · exact hphase
    · exact absurd List.mem_cons_self (hothers other _ hne hother)
  obtain ⟨books', tells, resumed, hspan⟩ := (spans index feature hfeature).resume machine.time
    machine.shared.1 machine.shared.2 hfeature isUnit ⟨id, queue, wake, hworker⟩ ledger.slots hended
    hruns hunit
  refine ⟨books', ledger.resumed hworker hqueue hothers hempty tells resumed, ?_⟩
  intro other found hfound
  have htrace : (machine.resumeUnit id queue unit task).trace = machine.trace ++
      ((task.resume machine.time machine.shared).events.map (.fromUnit unit) ++
        Pool.lastMarks unit (task.resume machine.time machine.shared).standing) := by
    rw [Pool.resumeUnit_eq]
    rfl
  have hgates : (machine.resumeUnit id queue unit task).gates = machine.gates := by
    rw [Pool.resumeUnit_eq]
    rfl
  rw [htrace, hgates, Pool.marksAt_append]
  by_cases hother : runner.owner features unit = some other
  · cases howner.symm.trans hother
    cases hfeature.symm.trans hfound
    rw [marksAt_of_eq (fun _ => Pool.unit?_of_mem_resume) howner]
    exact hspan
  · rw [marksAt_of_ne (fun _ => Pool.unit?_of_mem_resume) hother, List.append_nil]
    exact (kept_of_tells tells hother hruns).span (spans other found hfound)

/-- Every step of a pool keeps its books in order, and tells how far its features have come. -/
theorem Spans.step (spans : runner.Spans features machine books)
    (ledger : runner.Ledger features machine books)
    (sound : Pool.Sound (runner.planOf features) gates width signal machine) (hwidth : 0 < width)
    (step : Machine.Step (runner.planOf features) signal machine next) :
    ∃ books', runner.Ledger features next books' ∧ runner.Spans features next books' := by
  cases step with
  | elapse elapsed stops _ =>
      refine ⟨books, ?_, spans.keep rfl rfl fun _ _ h => h⟩
      exact ledger.keep rfl (fun _ => Iff.rfl) ledger.stages ledger.gates fun _ _ => .inl rfl
  | take hworker _ _ =>
      obtain ⟨past, history⟩ := sound.workers _ _ hworker
      obtain ⟨_, hqueue⟩ := ledger.stages _ _ hworker
      refine ⟨books, ledger.take hworker, spans.mark (hqueue _ List.mem_cons_self)
        (history.waiting _ List.mem_cons_self).1 (.inl rfl) rfl rfl fun _ _ h => ?_⟩
      exact h.of_still rfl nofun
  | skip hworker _ =>
      obtain ⟨past, history⟩ := sound.workers _ _ hworker
      obtain ⟨hwaiting, hqueue⟩ := List.forall_mem_cons.mp (ledger.stages _ _ hworker).2
      have hskipped := spans.skip hwaiting (history.waiting _ List.mem_cons_self).1
      exact ⟨books, (ledger.skip hwaiting).leave trivial hqueue,
        hskipped.keep rfl rfl fun _ _ h => h.of_still rfl nofun⟩
  | drop hworker _ =>
      have hqueue := (List.forall_mem_cons.mp (ledger.stages _ _ hworker).2).2
      exact ⟨books, ledger.leave trivial hqueue, spans.keep rfl rfl fun _ _ h => h.of_still rfl nofun⟩
  | rest hworker =>
      exact ⟨books, ledger.leave trivial nofun, spans.keep rfl rfl fun _ _ h => h.of_still rfl nofun⟩
  | gate index hworker hjob hgate =>
      obtain ⟨found, feature, instance_, hfeature, isUnit, rfl⟩ := exists_isUnit_of_job hjob
      cases hgate
      exact ⟨books, ledger.resumeGate _,
        spans.resumeGate ledger sound hwidth hworker hfeature isUnit⟩
  | pass hworker hjob hopens =>
      obtain ⟨index, feature, instance_, hfeature, isUnit, rfl⟩ := exists_isUnit_of_job hjob
      obtain ⟨value, rfl, hopened⟩ := hopens
      exact ⟨books, ledger.pass_gate hworker hjob,
        spans.pass ledger sound hworker hfeature isUnit hopened⟩
  | «break» hworker hjob hgate hbroken =>
      obtain ⟨index, feature, instance_, hfeature, isUnit, rfl⟩ := exists_isUnit_of_job hjob
      cases hgate
      exact ⟨books, ledger.break hworker, spans.break hfeature isUnit hbroken⟩
  | resume hworker _ => exact spans.resume ledger sound hworker
  | report hworker =>
      obtain ⟨past, history⟩ := sound.workers _ _ hworker
      refine ⟨books, ledger.report hworker history.inHand.2 _, spans.keep rfl rfl fun _ _ h => ?_⟩
      exact h.of_still rfl nofun
  | @crash id unit queue job panic hworker hjob =>
      obtain ⟨past, history⟩ := sound.workers _ _ hworker
      obtain ⟨_, hqueue⟩ := ledger.stages _ _ hworker
      have hended : .ended unit ∉ machine.trace := by
        obtain ⟨⟨_, events, _, _, hmarks⟩, _⟩ := history.inHand
        rw [← Pool.mem_marksOf rfl, hmarks]
        simp [Pool.callMarks]
      have hunits := (List.nodup_append.mp history.nodup).2.1
      have hreported : runner.Spans features
          (machine.report unit [.failed job.instance_ (.workerCrashed panic.message) machine.time])
          books := spans.keep rfl rfl fun _ _ h => h
      have hskipped := hreported.foldl_skip (List.nodup_cons.mp hunits).2 fun other hother =>
        ⟨hqueue other hother, (history.waiting other hother).1⟩
      exact ⟨books, ledger.crash hworker hended,
        hskipped.keep rfl rfl fun _ _ h => h.of_still rfl nofun⟩

end Steps

/-! ## Whole schedules -/

section Schedules

/-- Nothing has happened to any feature before the first turn of a pool. -/
theorem spans_start (stop : Bool) (state : σ) :
    runner.Spans features (runner.pooledStart (runner.selectAll features) stop state)
      ⟨List.range (runner.planOf features).jobs.length, []⟩ := by
  intro index feature hfeature
  have hgate : (runner.pooledStart (runner.selectAll features) stop state).gates[index]? =
      some (.closed 0 (runner.beforeFeature feature).onFirst) := by
    simp [pooledStart, Pool.start, selectAll_eq, hfeature, selected]
  refine .closed hgate (.stay _) ⟨List.forall_mem_nil _, rfl, .inl rfl⟩ rfl ?_
  rintro unit task _ ⟨id, queue, wake, hworker⟩
  simp only [pooledStart, Pool.start, List.getElem?_map, Option.map_eq_some_iff] at hworker
  obtain ⟨_, _, heq⟩ := hworker
  cases heq

variable (runner features) in
/-- After any schedule the books of a pool are in order, and it is known how far its features have
come. -/
theorem exists_spans (schedule : List Pool.Turn) (stop : Bool) (state : σ) :
    ∃ books, runner.Ledger features (runner.pooledMachine features schedule stop state) books ∧
      runner.Spans features (runner.pooledMachine features schedule stop state) books := by
  refine Pool.invariant_runSchedule
    (fun machine => ∃ books, runner.Ledger features machine books ∧ runner.Spans features machine books)
    schedule ⟨_, ledger_start stop state, spans_start stop state⟩ ?_
  rintro machine next sound step ⟨books, ledger, spans⟩
  exact spans.step ledger sound (Pool.width_pos _ _) step

end Schedules

end Acceptance.FeatureRunner
