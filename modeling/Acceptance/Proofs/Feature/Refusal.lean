import Acceptance.Proofs.Feature.FailFast
import Acceptance.Proofs.Pool.Progress

/-!
# Features that are refused

A feature whose hooks before it fail is refused: all of its instances are reported as failed. On a pool such
a report stops the start of further instances where failures do. When features are run one after another it
does not: the features after one that is refused are run as if nothing had happened.
-/

namespace Acceptance

variable {σ ω : Type}

namespace ScenarioRunner

variable {runner : ScenarioRunner σ ω} {instance_ : Instance} {number : Nat}

theorem Settles.not_refused {outcome : Outcome} {deciding : List (Task.Act σ Event)} {status : Status}
    {found : Option ScenarioError}
    (h : runner.Settles instance_ number outcome deciding status found) (error : HookError) :
    found ≠ some (.featureHook error) := by
  cases h <;> simp

/-- No attempt at an instance is reported as failed by the hooks before its feature. -/
theorem RetriesFrom.not_refused {tries : List (Try σ)}
    (h : runner.RetriesFrom instance_ number tries) (error : HookError) :
    ∀ attempt ∈ tries, attempt.record.error ≠ some (.featureHook error) := by
  induction h with
  | last _ _ _ _ hsettles => exact List.forall_mem_singleton.mpr (hsettles.not_refused error)
  | again _ _ _ _ hretried _ ih =>
      refine List.forall_mem_cons.mpr ⟨?_, ih⟩
      simp [hretried.error]

end ScenarioRunner

namespace FeatureRunner

variable {runner : FeatureRunner σ ω} {features : List Feature} {unit : Nat}

/-! ## On a pool -/

section Pooled

variable {machine : Pool.Machine (σ × List Slot) (Option HookError)}
  {gates : List (Task (σ × List Slot) Event (Option HookError))}
  {job : Pool.Job (σ × List Slot) (Option HookError)} {record : Record} {error : HookError}

/-- A unit that is reported as refused has returned a failure. -/
theorem endsFailed_of_refused {fate : Pool.Fate}
    (settled : Pool.Settled (runner.planOf features) gates machine unit fate)
    (hjob : (runner.planOf features).jobs[unit]? = some job)
    (hrecord : record ∈ machine.recordsOf unit) (herror : record.error = some (.featureHook error)) :
    fate.isReturned = true ∧ Pool.Machine.endsFailed (machine.recordsOf unit) = true := by
  obtain ⟨job', events, hjob', hcalled, _, hrecords⟩ := settled
  cases hjob.symm.trans hjob'
  obtain ⟨index, feature, instance_, _, _, rfl⟩ := exists_of_job hjob
  rw [hrecords] at hrecord ⊢
  cases fate with
  | crashed panic now =>
      cases List.mem_singleton.mp hrecord
      cases herror
  | skipped now =>
      cases List.mem_singleton.mp hrecord
      cases herror
  | returned records =>
      -- Only a refused unit gets such a record: an attempt fails by its own world, hooks and steps.
      refine ⟨rfl, ?_⟩
      cases hcalled _ rfl with
      | ran _ hends _ =>
          obtain ⟨own, hown, _⟩ := reportOf_of_ends hends
          generalize Option.join _ = refused at hown
          cases refused with
          | none =>
              obtain ⟨tries, _, rfl, htries⟩ := ScenarioRunner.retriesFrom_of_ends hown
              obtain ⟨attempt, hattempt, rfl⟩ := List.mem_map.mp hrecord
              exact absurd herror (htries.not_refused error attempt hattempt)
          | some error' =>
              obtain ⟨now, later, _, hlater⟩ := Task.ends_clock.mp hown
              cases (Task.ends_done.mp hlater).2
              rfl

/-- The start of units is stopped once one is reported as refused. -/
theorem stop_of_refused (hfast : runner.options.failFast = true) (schedule : List Pool.Turn)
    (stop : Bool) (state : σ) (hjob : (runner.planOf features).jobs[unit]? = some job)
    (hrecord : record ∈ (runner.pooledMachine features schedule stop state).recordsOf unit)
    (herror : record.error = some (.featureHook error)) :
    (runner.pooledMachine features schedule stop state).stop = true := by
  have hwidth := Pool.width_pos runner.options.workers (runner.planOf features).jobs.length
  have hunit := (List.getElem?_eq_some_iff.mp hjob).1
  have sound := sound_pooledMachine runner features schedule stop state
  obtain ⟨fate, settled⟩ := sound.settled_of_reported hwidth hunit (List.ne_nil_of_mem hrecord)
  obtain ⟨hreturned, hfailed⟩ := endsFailed_of_refused settled hjob hrecord herror
  exact sound.stop_of_failed hwidth hfast hunit (settled.isReturned_iff.mp hreturned) hfailed

end Pooled

/-! ## One after another -/

section Sequential

variable {stop stop' : Bool} {visit : Visit σ} {visits : List (Visit σ)}

theorem VisitsCourse.append {before after : List (Visit σ)}
    (course : runner.VisitsCourse stop (before ++ after) stop') :
    ∃ middle, runner.VisitsCourse stop before middle ∧ runner.VisitsCourse middle after stop' := by
  induction before generalizing stop with
  | nil => exact ⟨stop, .nil, course⟩
  | cons visit before ih =>
      cases course with
      | cons first later =>
          obtain ⟨middle, hbefore, hafter⟩ := ih later
          exact ⟨middle, .cons first hbefore, hafter⟩

/-- A visit that is refused does not stop the start of further instances. -/
theorem Visited.of_refused (visited : runner.Visited visit stop stop') {error : HookError}
    (h : visit.refused = some error) :
    stop' = false ∧ ∃ now, ∀ unit ∈ visit.units, unit.acts = [] ∧
      unit.report = [.failed unit.instance_ (.featureHook error) now] := by
  cases visited with
  | still _ hnone => exact absurd (hnone.symm.trans h) (Option.some_ne_none error).symm
  | ran _ hnone => exact absurd (hnone.symm.trans h) (Option.some_ne_none error).symm
  | refused _ hrefused _ _ hunits =>
      obtain rfl := Option.some.inj (hrefused.symm.trans h)
      exact ⟨rfl, _, hunits⟩

/-- A visit with something to be run is refused where the hooks before its feature always fail. -/
theorem Visited.exists_refused (visited : runner.Visited visit false stop')
    (hscheduled : runner.scheduled visit.feature ≠ [])
    (hfails : ∀ acts, ¬ (runner.beforeFeature visit.feature).Ends acts (.finished none)) :
    ∃ error, visit.refused = some error := by
  cases visited with
  | still hnothing => exact absurd (hnothing.resolve_right Bool.false_ne_true) hscheduled
  | refused _ hrefused => exact ⟨_, hrefused⟩
  | ran _ hnone hbefore => exact absurd (hnone ▸ hbefore) (hfails _)

/-- An instance that is run is not skipped. -/
theorem Ran.not_isSkipped {unit : UnitRun σ} (ran : runner.Ran unit.instance_ unit.acts unit.report) :
    ¬ unit.IsSkipped := by
  rintro ⟨⟨now, hreport⟩, _⟩
  rw [hreport] at ran
  exact (List.forall_mem_singleton.mp ran.isShaped).2 rfl

/-- A visit with something to be run is not silent, unless the start of instances is stopped. -/
theorem Visited.not_silent (visited : runner.Visited visit false stop')
    (hunits : visit.units ≠ []) (h : runner.scheduled visit.feature ≠ []) : ¬ visit.IsSilent := by
  intro hsilent
  obtain ⟨unit, rest, heq⟩ := List.exists_cons_of_ne_nil hunits
  have hskipped := hsilent.units unit (heq ▸ List.mem_cons_self)
  cases visited with
  | still hnothing => exact h (hnothing.resolve_right Bool.false_ne_true)
  | refused _ _ _ _ hrefused =>
      obtain ⟨now, hreport⟩ := hskipped.report
      rw [(hrefused unit (heq ▸ List.mem_cons_self)).2] at hreport
      cases congrArg (List.map Record.status) hreport
  | ran _ _ _ hcourse =>
      rw [heq] at hcourse
      cases hcourse with
      | ran ran => exact ran.not_isSkipped hskipped

/-- As long as the start of instances is not stopped, visits are silent exactly if there is nothing to be
run in them. -/
theorem VisitsCourse.silent_iff (course : runner.VisitsCourse stop visits stop') (hstop : stop = false)
    (hinstances : ∀ visit ∈ visits,
      visit.units.map UnitRun.instance_ = (runner.selection visit.feature).instances) :
    (∀ visit ∈ visits, visit.IsSilent) ↔ ∀ visit ∈ visits, runner.scheduled visit.feature = [] := by
  refine ⟨?_, fun hnothing => (course.silent (.inl hnothing)).2⟩
  induction course with
  | nil => exact fun _ => nofun
  | @cons visit rest stop middle _ first _ ih =>
      intro hsilent
      obtain ⟨hhead, htail⟩ := List.forall_mem_cons.mp hsilent
      obtain ⟨hunits, hrest⟩ := List.forall_mem_cons.mp hinstances
      subst hstop
      have hnothing : runner.scheduled visit.feature = [] := by
        by_contra hscheduled
        refine first.not_silent ?_ hscheduled hhead
        rw [scheduled_eq hscheduled, ← hunits] at hscheduled
        simpa using hscheduled
      -- A visit with nothing to be run leaves the signal as it was, so the next one is still not stopped.
      obtain ⟨rfl, _⟩ := first.silent (.inl hnothing)
      exact List.forall_mem_cons.mpr ⟨hnothing, ih rfl hrest htail⟩

/-- After a visit that is refused, no hook is called and no instance is run in the further visits exactly if
there is nothing to be run in them. -/
theorem VisitsCourse.silent_after_refused {before after : List (Visit σ)} {error : HookError}
    (course : runner.VisitsCourse stop (before ++ visit :: after) stop')
    (hinstances : ∀ found ∈ before ++ visit :: after,
      found.units.map UnitRun.instance_ = (runner.selection found.feature).instances)
    (hrefused : visit.refused = some error) :
    (∃ now, ∀ unit ∈ visit.units, unit.acts = [] ∧
        unit.report = [.failed unit.instance_ (.featureHook error) now]) ∧
      ((∀ later ∈ after, later.IsSilent) ↔
        ∀ later ∈ after, runner.scheduled later.feature = []) := by
  obtain ⟨middle, _, hcourse⟩ := course.append
  cases hcourse with
  | cons first later =>
      obtain ⟨hstop, hunits⟩ := first.of_refused hrefused
      refine ⟨hunits, later.silent_iff hstop fun found hfound => hinstances found ?_⟩
      exact List.mem_append_right _ (List.mem_cons_of_mem _ hfound)

end Sequential

/-! ## Runs -/

/-- Where failures stop the start of further instances, a feature that is refused does so on a pool, and does
not when features are run one after another. -/
theorem stops_after_refusal (runner : FeatureRunner σ ω) (features : List Feature)
    (hfast : runner.options.failFast = true) (stop : Bool) (state : σ) :
    (∀ schedule later unit job, (runner.planOf features).jobs[unit]? = some job →
      ∀ record ∈ (runner.pooledMachine features schedule stop state).recordsOf unit,
        ∀ error, record.error = some (.featureHook error) →
          (∀ other,
            .started other ∈ (runner.pooledMachine features (schedule ++ later) stop state).trace →
              .started other ∈ (runner.pooledMachine features schedule stop state).trace) ∧
          ∀ runs, runner.runScheduled? (schedule ++ later) stop features state = some runs →
            ∀ other job', (runner.planOf features).jobs[other]? = some job' →
              .started other ∉ (runner.pooledMachine features schedule stop state).trace →
                ∃ now, (runner.pooledMachine features (schedule ++ later) stop state).recordsOf other =
                  [.skipped job'.instance_ now]) ∧
    (∀ runs, runner.runSequential? stop features state = some runs →
      ∃ visits, runner.Tour stop features visits runs ∧
        ∀ before visit after error, visits = before ++ visit :: after → visit.refused = some error →
          (∃ now, ∀ unit ∈ visit.units, unit.acts = [] ∧
            unit.report = [.failed unit.instance_ (.featureHook error) now]) ∧
          ((∀ later ∈ after, later.IsSilent) ↔
            ∀ later ∈ after, runner.scheduled later.feature = [])) := by
  constructor
  · intro schedule later unit job hjob record hrecord error herror
    have hstop := stop_of_refused hfast schedule stop state hjob hrecord herror
    have hquiet : ∀ other,
        .started other ∈ (runner.pooledMachine features (schedule ++ later) stop state).trace →
          .started other ∈ (runner.pooledMachine features schedule stop state).trace := by
      intro other hstarted
      rw [pooledMachine, Pool.Machine.runSchedule_append] at hstarted
      exact (Pool.quiet_runSchedule hstop later).mem_trace hstarted
    refine ⟨hquiet, fun runs hruns other job' hjob' hstarted => ?_⟩
    -- When the pool is done every unit has met its fate, and one that was never started is skipped.
    obtain ⟨fate, settled⟩ := exists_settled (collected_of_runScheduled? hruns).1 hjob'
    obtain ⟨now, rfl⟩ := settled.exists_skipped fun h => hstarted (hquiet other h)
    obtain ⟨found, _, hfound, _, _, hrecords⟩ := settled
    cases hjob'.symm.trans hfound
    exact ⟨now, hrecords⟩
  · intro runs hruns
    obtain ⟨visits, tour⟩ := exists_tour hruns
    refine ⟨visits, tour, ?_⟩
    rintro before visit after error rfl hrefused
    exact tour.course.silent_after_refused tour.instances hrefused

/-- A runner as `fragile` that stops at the first failure, with a hook before each feature that fails where
the feature has gates. -/
def barred : FeatureRunner PUnit PUnit :=
  { fragile with
    suite := { fragile.suite with
      hooks := Hooks.register {} .beforeFeature
        { withWorld := fun _ => .done (.done (.ok ⟨⟩))
          alone := fun context =>
            .done (.done (if context.feature = "Gates" then .error "no key" else .ok ⟨⟩)) } [] 0 }
    options := { failFast := true } }

/-- A feature is run after one that is refused, although failures stop the start of further instances. -/
theorem fences_after_refusal :
    ∃ runs, barred.run? 0 false [gates, fences] ⟨⟩ = some runs ∧ barred.options.failFast = true ∧
      (Summary.ofResults runs.results).results.map (fun record => (record.key, record.status)) =
        [(⟨"Gates", "opening"⟩, .failed), (⟨"Gates", "closing"⟩, .failed),
          (⟨"Gates", "locking"⟩, .failed), (⟨"Fences", "painting"⟩, .passed)] ∧
      (Summary.ofResults runs.results).results.head?.bind Record.error =
        some (.featureHook ⟨.beforeFeature, "no key"⟩) ∧
      runs.events =
        [.hook .beforeFeature 0 "Gates" none 0, .hook .beforeFeature 0 "Fences" none 0,
          .world ⟨"Fences", "painting"⟩ 1, .offer ⟨"Fences", "painting"⟩ 1 "it works"] := by
  refine ⟨_, by cbv, by cbv, by cbv, by cbv, by cbv⟩

/-- The gates are the first of two features to be visited, and refused. -/
theorem exists_refused_gates {visits : List (Visit PUnit)} {runs : FeatureRuns PUnit}
    (tour : barred.Tour false [gates, fences] visits runs) :
    ∃ first second error, visits = [first, second] ∧ first.refused = some error ∧
      second.feature = fences := by
  obtain ⟨first, _, rfl, hfirst, hrest⟩ := List.map_eq_cons_iff.mp tour.order
  obtain ⟨second, _, rfl, hsecond, hnil⟩ := List.map_eq_cons_iff.mp hrest
  obtain rfl := List.map_eq_nil_iff.mp hnil
  have hlength : (barred.scheduled gates).length = 3 := by cbv
  have hbefore : barred.beforeFeature gates = .emit (.hook .beforeFeature 0 "Gates" none 0)
      (.done (some ⟨.beforeFeature, "no key"⟩)) := by cbv
  rw [← hfirst] at hlength hbefore
  cases tour.course with
  | cons visited _ =>
      have hfails : ∀ acts, ¬ (barred.beforeFeature first.feature).Ends acts (.finished none) := by
        intro acts hends
        rw [hbefore] at hends
        obtain ⟨_, _, hdone⟩ := Task.ends_emit.mp hends
        cases (Task.ends_done.mp hdone).2
      have hscheduled := List.ne_nil_of_length_eq_add_one hlength
      obtain ⟨error, hrefused⟩ := visited.exists_refused hscheduled hfails
      exact ⟨first, second, error, rfl, hrefused, hsecond⟩

/-- Two turns of the first of two workers, after which the first instance of the gates is reported. -/
def knocks : List Pool.Turn := List.replicate 2 ⟨0, 1, false⟩

theorem stops_after_refusal_gates :
    (∃ runs job now, (barred.withWorkers 2).runScheduled? (knocks ++ [⟨1, 1, false⟩]) false
        [gates, fences] ⟨⟩ = some runs ∧
      ((barred.withWorkers 2).planOf [gates, fences]).jobs[3]? = some job ∧
      job.instance_.key = ⟨"Fences", "painting"⟩ ∧
      ((barred.withWorkers 2).pooledMachine [gates, fences] (knocks ++ [⟨1, 1, false⟩]) false
        ⟨⟩).recordsOf 3 = [.skipped job.instance_ now]) ∧
    ∃ runs visits visit, barred.runSequential? false [gates, fences] ⟨⟩ = some runs ∧
      barred.Tour false [gates, fences] visits runs ∧ visit ∈ visits ∧ visit.feature = fences ∧
      ¬ visit.IsSilent := by
  constructor
  · obtain ⟨runs, hruns⟩ : ∃ runs, (barred.withWorkers 2).runScheduled? (knocks ++ [⟨1, 1, false⟩])
        false [gates, fences] ⟨⟩ = some runs := ⟨_, by cbv⟩
    obtain ⟨opening, hopening⟩ :
        ∃ job, ((barred.withWorkers 2).planOf [gates, fences]).jobs[0]? = some job := ⟨_, by cbv⟩
    obtain ⟨record, hrecord, herror⟩ : ∃ record, ((barred.withWorkers 2).pooledMachine
        [gates, fences] knocks false ⟨⟩).recordsOf 0 = [record] ∧
          record.error = some (.featureHook ⟨.beforeFeature, "no key"⟩) := ⟨_, by cbv, by cbv⟩
    obtain ⟨painting, hpainting, hkey⟩ :
        ∃ job, ((barred.withWorkers 2).planOf [gates, fences]).jobs[3]? = some job ∧
          job.instance_.key = ⟨"Fences", "painting"⟩ := ⟨_, by cbv, by cbv⟩
    have hstarted : wasStarted ((barred.withWorkers 2).pooledMachine [gates, fences] knocks false
        ⟨⟩) 3 = false := by cbv
    have hskipped := ((stops_after_refusal (barred.withWorkers 2) [gates, fences] rfl false ⟨⟩).1
      knocks [⟨1, 1, false⟩] 0 opening hopening record (hrecord ▸ List.mem_cons_self) _ herror).2
        runs hruns 3 painting hpainting
    obtain ⟨now, hrecords⟩ := hskipped fun h =>
      Bool.false_ne_true (hstarted.symm.trans (wasStarted_iff.mpr h))
    exact ⟨runs, painting, now, hruns, hpainting, hkey, hrecords⟩
  · obtain ⟨runs, hruns⟩ : ∃ runs, barred.runSequential? false [gates, fences] ⟨⟩ = some runs :=
      ⟨_, by cbv⟩
    obtain ⟨visits, tour, hall⟩ :=
      (stops_after_refusal barred [gates, fences] rfl false ⟨⟩).2 runs hruns
    obtain ⟨first, second, error, rfl, hrefused, hsecond⟩ := exists_refused_gates tour
    refine ⟨runs, _, second, hruns, tour, by simp, hsecond, fun hsilent => ?_⟩
    have hnothing := (hall [] first [second] error rfl hrefused).2.mp
      (List.forall_mem_singleton.mpr hsilent)
    have hscheduled : (barred.scheduled fences).length = 1 := by cbv
    rw [← hsecond, List.forall_mem_singleton.mp hnothing] at hscheduled
    cases hscheduled

end FeatureRunner

end Acceptance
