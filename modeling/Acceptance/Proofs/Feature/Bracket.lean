import Acceptance.Proofs.Feature.Liveness
import Acceptance.Proofs.Feature.Spans

/-!
# Hooks around features

On a pool the hooks around a feature bracket what happens to it, in whatever order the workers are
polled and whatever becomes of its instances. The hooks before it are called once, when its first
instance is started, and no instance goes on before they have ended. The hooks after it are called once,
by the instance that ends last, or when the pool is done if some of the instances crashed or were skipped.
-/

namespace Acceptance.FeatureRunner

open Pool (Machine)
open Acceptance.Task (Act)

variable {σ ω : Type} {runner : FeatureRunner σ ω} {features : List Feature} {index : Nat}
  {books : Books}

/-! ## What is seen of a feature -/

section Traces

variable (runner features) (index) (feature : Feature)

/-- What has become of a unit in the end, given what the hooks before its feature ended with. -/
inductive Met (refused : Option HookError) (instance_ : Instance) (unit : Nat) : List Pool.Mark → Prop
  | skipped : Met _ _ _ [.skipped unit]
  | crashed {own : List (Act σ Event)} {panic : Panic}
      (hends : (runner.reportOf instance_ refused).Ends own (.crashed panic)) :
      Met _ _ _ (Pool.callMarks unit (Task.events own) ++ [.crashed unit])
  | ended {own : List (Act σ Event)} {records : List Record}
      (hends : (runner.reportOf instance_ refused).Ends own (.finished records)) :
      Met _ _ _ (Pool.callMarks unit (Task.events own) ++ [.ended unit])

/-- How far a unit has come. -/
inductive Trail (refused : Option HookError) (instance_ : Instance) (unit : Nat) :
    List Pool.Mark → Prop
  | untouched : Trail _ _ _ []
  | called {own : List (Act σ Event)} {tell : Task σ Event (List Record)}
      (hcourse : (runner.reportOf instance_ refused).Course own tell) :
      Trail _ _ _ (Pool.callMarks unit (Task.events own))
  | met {marks : List Pool.Mark} (hmet : runner.Met refused instance_ unit marks) :
      Trail _ _ _ marks

/-- The hooks around a feature bracket what happens to the feature on a pool, however far it has come:
the hooks before it come first, and then what its units do, and then the hooks after it. -/
inductive Bracketed : List Pool.Mark → Prop
  | closed {acts : List (Act σ Event)} {own : Task σ Event (Option HookError)}
      {marks : List Pool.Mark} (hcourse : (runner.beforeFeature feature).Course acts own)
      (hopening : Opening acts marks) : Bracketed marks
  | opened {refused : Option HookError} {opening body : List Pool.Mark}
      (hbegun : runner.Begun feature refused opening body)
      (htrails : ∀ unit instance_, runner.IsUnit features index feature unit instance_ →
        runner.Trail refused instance_ unit (Pool.marksOf unit (opening ++ body))) :
      Bracketed (opening ++ body)
  | closing {refused : Option HookError} {opening body : List Pool.Mark} {last : Nat}
      {failed : Bool} {acts : List (Act σ Event)} {after : Task σ Event (List HookError)}
      (hbegun : runner.Begun feature refused opening body)
      (hall : runner.AllTell features index feature refused last (opening ++ body))
      (hcourse : (runner.afterFeature feature failed).Course acts after) :
      Bracketed (opening ++ body ++ (Task.events acts).map (.fromUnit last))
  | done {refused : Option HookError} {opening body : List Pool.Mark} {last : Nat}
      {failed : Bool} {acts : List (Act σ Event)} {errors : List HookError}
      (hbegun : runner.Begun feature refused opening body)
      (hall : runner.AllTell features index feature refused last (opening ++ body))
      (hends : (runner.afterFeature feature failed).Ends acts (.finished errors)) :
      Bracketed (opening ++ body ++ ((Task.events acts).map (.fromUnit last) ++ [.ended last]))

/-- What has happened to a feature when its pool is done, given what was done for it after that, and
which verdict the hooks after it were told if they were called. -/
inductive Enclosed (late : List (Act σ Event)) : Option Bool → List Pool.Mark → Prop
  | idle {marks : List Pool.Mark} (hmarks : ∀ mark ∈ marks, ∃ unit, mark = .skipped unit)
      (hlate : late = []) : Enclosed _ none marks
  | pooled {refused : Option HookError} {opening body : List Pool.Mark} {last : Nat}
      {failed : Bool} {acts : List (Act σ Event)} {errors : List HookError}
      (hbegun : runner.Begun feature refused opening body)
      (hall : runner.AllTell features index feature refused last (opening ++ body))
      (hends : (runner.afterFeature feature failed).Ends acts (.finished errors)) (hlate : late = []) :
      Enclosed _ (some failed)
        (opening ++ body ++ ((Task.events acts).map (.fromUnit last) ++ [.ended last]))
  | late {refused : Option HookError} {opening body : List Pool.Mark} {failed : Bool}
      {errors : List HookError} (hbegun : runner.Begun feature refused opening body)
      (hmet : ∀ unit instance_, runner.IsUnit features index feature unit instance_ →
        runner.Met refused instance_ unit (Pool.marksOf unit (opening ++ body)))
      (hends : (runner.afterFeature feature failed).Ends late (.finished errors)) :
      Enclosed _ (some failed) (opening ++ body)

end Traces

section Seen

variable {feature : Feature} {refused : Option HookError} {instance_ : Instance} {unit : Nat}
  {gate : Option (Pool.Gate (σ × List Slot) (Option HookError))} {marks : List Pool.Mark}

theorem Stands.trail {goes : Task (σ × List Slot) Event (List Record) → Prop}
    (stands : runner.Stands index feature books goes refused instance_ unit marks) :
    runner.Trail refused instance_ unit marks := by
  cases stands with
  | waiting hmarks =>
      obtain rfl | rfl := hmarks
      · exact .untouched
      · exact .met .skipped
  | telling hcourse => exact .called hcourse
  | crashed hends => exact .met (.crashed hends)
  | ended hends => exact .met (.ended hends)

/-- A unit with a final mark has come to its end. -/
theorem Trail.met_of_isFinal (trail : runner.Trail refused instance_ unit marks)
    (hfinal : ∃ mark ∈ marks, mark.isFinal = true) : runner.Met refused instance_ unit marks := by
  obtain ⟨mark, hmark, hfinal⟩ := hfinal
  cases trail with
  | untouched => cases hmark
  | called => exact absurd ((Pool.isFinal_of_mem_callMarks hmark).symm.trans hfinal) Bool.false_ne_true
  | met hmet => exact hmet

theorem Span.bracketed {runs : Nat → Task (σ × List Slot) Event (List Record) → Prop}
    (span : runner.Span features index feature books gate runs marks)
    (calm : runner.HooksAvoid features .crash) (hfeature : features[index]? = some feature) :
    runner.Bracketed features index feature marks := by
  have hmem := List.mem_of_getElem? hfeature
  cases span with
  | closed _ hcourse hopening => exact .closed hcourse hopening
  | broken _ hends hscheduled => exact absurd rfl (calm.before feature hmem hscheduled _ _ hends)
  | opened _ hbegun _ hunits =>
      exact .opened hbegun fun unit instance_ isUnit => (hunits unit instance_ isUnit).trail
  | closing _ hbegun _ hlast hall hclosing =>
      obtain ⟨_, hinstance, _⟩ := exists_isUnit hfeature (mem_told_of_last hlast).2
      cases hclosing with
      | calling hcourse => exact .closing hbegun hall hcourse
      | called hends => exact .done hbegun hall hends
      | crashed hends =>
          exact absurd rfl (calm.after feature hmem (List.ne_nil_of_mem hinstance) _ _ _ hends)

end Seen

/-! ## Pools that are done -/

section Done

variable {machine : Machine (σ × List Slot) (Option HookError)} {feature : Feature}
  {gates : List (Task (σ × List Slot) Event (Option HookError))} {first : Nat} {slot : Slot}
  {late : List (Act σ Event)} {errors : List HookError}

/-- A pool for some features that is done, with its books. -/
structure Rested (runner : FeatureRunner σ ω) (features : List Feature)
    (gates : List (Task (σ × List Slot) Event (Option HookError)))
    (machine : Machine (σ × List Slot) (Option HookError)) (books : Books) : Prop where
  ledger : runner.Ledger features machine books
  spans : runner.Spans features machine books
  settled : ∀ (unit : Nat) (job : Pool.Job (σ × List Slot) (Option HookError)),
    (runner.planOf features).jobs[unit]? = some job →
      ∃ fate, Pool.Settled (runner.planOf features) gates machine unit fate

theorem mem_marksAt_started {unit : Nat} :
    .started unit ∈ Pool.marksAt (runner.owner features) index machine.trace ↔
      .started unit ∈ machine.trace ∧ runner.owner features unit = some index :=
  List.mem_filter.trans (and_congr_right fun _ => decide_eq_true_iff)

namespace Rested

variable (rested : runner.Rested features gates machine books)

include rested

theorem exists_isFinal {unit : Nat} {instance_ : Instance} {marks : List Pool.Mark}
    (hmarks : Pool.marksAt (runner.owner features) index machine.trace = marks)
    (isUnit : runner.IsUnit features index feature unit instance_) :
    ∃ mark ∈ Pool.marksOf unit marks, mark.isFinal = true := by
  obtain ⟨fate, settled⟩ := rested.settled unit _ isUnit
  rw [← hmarks, Pool.marksOf_marksAt isUnit.owner]
  exact settled.exists_isFinal

/-- Where nothing but early marks is seen of a feature, all of its units were skipped. -/
theorem eq_skipped {marks : List Pool.Mark} {acts : List (Act σ Event)}
    (hfeature : features[index]? = some feature)
    (hmarks : Pool.marksAt (runner.owner features) index machine.trace = marks)
    (hopening : Opening acts marks) : ∀ mark ∈ marks, ∃ unit, mark = .skipped unit := by
  -- A unit that was started has a mark that is not early.
  have hnot (unit : Nat) : .started unit ∉ marks := by
    intro hstarted
    have howner := (mem_marksAt_started.mp (hmarks ▸ hstarted)).2
    obtain ⟨instance_, _, isUnit⟩ := exists_isUnit hfeature howner
    obtain ⟨fate, _, events, _, _, hfate, _⟩ := rested.settled unit _ isUnit
    rw [← Pool.marksOf_marksAt howner, hmarks] at hfate
    have hearly (mark : Pool.Mark) (h : mark ∈ fate.marks unit events) : mark.isEarly = true :=
      hopening.early mark (Pool.mem_of_marksOf (hfate ▸ h))
    cases fate with
    | returned records => cases hearly (.ended unit) (by simp [Pool.Fate.marks])
    | crashed panic now => cases hearly (.crashed unit) (by simp [Pool.Fate.marks])
    | skipped now =>
        have hself : .started unit ∈ Pool.marksOf unit marks := (Pool.mem_marksOf rfl).mpr hstarted
        rw [hfate] at hself
        simp [Pool.Fate.marks] at hself
  have hevents : Pool.gateEvents marks = [] := by
    rw [hopening.events, hopening.started.resolve_right (not_exists.mpr hnot)]
    rfl
  intro mark hmark
  have hearly := hopening.early mark hmark
  cases mark with
  | started unit => exact absurd hmark (hnot unit)
  | skipped unit => exact ⟨unit, rfl⟩
  | fromGate gate event =>
      have hnone := List.filterMap_eq_nil_iff.mp hevents _ hmark
      cases hnone
  | ended unit => cases hearly
  | crashed unit => cases hearly
  | fromUnit unit event => cases hearly

theorem isReport {unit : Nat} {job : Pool.Job (σ × List Slot) (Option HookError)}
    (hjob : (runner.planOf features).jobs[unit]? = some job) :
    Aggregate.IsReport job.instance_.key (machine.recordsOf unit) :=
  (rested.settled unit job hjob).elim fun _ settled => isReport_of_settled settled hjob

/-- A unit that has ended has told what is reported of it. -/
theorem mem_told_iff {unit : Nat} {records : List Record}
    (howner : runner.owner features unit = some index) (hended : .ended unit ∈ machine.trace) :
    (unit, records) ∈ books.told ↔ records = machine.recordsOf unit := by
  obtain ⟨job, hjob, _⟩ := Option.bind_eq_some_iff.mp howner
  have htold := (rested.ledger.reported unit hended).resolve_left (rested.isReport hjob).nonempty
  constructor
  · exact fun h => rested.ledger.unique h htold
  · rintro rfl
    exact htold

variable {refused : Option HookError} {opening body : List Pool.Mark} {last : Nat}

/-- A unit does not call the hooks after its feature any more. -/
theorem not_calling {events : List Event}
    (hmarks : Pool.marksAt (runner.owner features) index machine.trace =
      opening ++ body ++ events.map (.fromUnit last))
    (hall : runner.AllTell features index feature refused last (opening ++ body)) : False := by
  obtain ⟨instance_, own, _, isUnit, _, htold⟩ := hall.told
  obtain ⟨mark, hmark, hfinal⟩ := rested.exists_isFinal hmarks isUnit
  rw [Pool.marksOf_append, htold, Pool.marksOf_fromUnit] at hmark
  rcases List.mem_append.mp hmark with hmark | hmark
  · exact Bool.false_ne_true ((Pool.isFinal_of_mem_callMarks hmark).symm.trans hfinal)
  · obtain ⟨event, _, rfl⟩ := List.mem_map.mp hmark
    cases hfinal

/-- When the hooks after a feature have been called by its last unit, the verdict that they were told is
that of the feature. -/
theorem failed_eq {rest : List Feature} {events : List Event}
    (hdistinct : runner.HasDistinctKeys feature)
    (remaining : runner.Remaining features index first (feature :: rest))
    (hmarks : Pool.marksAt (runner.owner features) index machine.trace =
      opening ++ body ++ (events.map (.fromUnit last) ++ [.ended last]))
    (hall : runner.AllTell features index feature refused last (opening ++ body)) :
    runner.failedSoFar (runner.owner features) books index feature =
      (runner.resultOf 0 feature (unitsTold machine first (runner.scheduled feature).length)
        []).aggregate.hasFailures := by
  refine failedSoFar_eq_hasFailures hdistinct remaining (fun _ _ => rested.isReport)
    fun unit records howner => rested.mem_told_iff howner ?_
  have hsub (mark : Pool.Mark)
      (hmark : mark ∈ opening ++ body ++ (events.map (.fromUnit last) ++ [.ended last])) :
      mark ∈ machine.trace := (List.mem_filter.mp (hmarks.symm ▸ hmark)).1
  by_cases hne : unit = last
  · subst hne
    exact hsub _ (by simp)
  · obtain ⟨instance_, _, isUnit⟩ := exists_isUnit remaining.getElem?_index howner
    obtain ⟨others, own, _, hended⟩ := hall.others unit instance_ isUnit hne
    have hmem : .ended unit ∈ Pool.marksOf unit (opening ++ body) := by
      rw [hended]
      exact List.mem_append_right _ (List.mem_singleton_self _)
    exact hsub _ (List.mem_append_left _ (Pool.mem_of_marksOf hmem))

/-- The hooks around a feature have enclosed what happened to the feature when its pool is done. -/
theorem enclosed (calm : runner.HooksAvoid features .crash) {rest : List Feature}
    (remaining : runner.Remaining features index first (feature :: rest))
    (hslot : machine.shared.2[index]? = some slot)
    (hlate : Late runner machine first feature slot late errors) :
    ∃ called, runner.Enclosed features index feature late called
        (Pool.marksAt (runner.owner features) index machine.trace) ∧
      (runner.HasDistinctKeys feature → ∀ failed ∈ called,
        failed = (runner.resultOf 0 feature (unitsTold machine first (runner.scheduled feature).length)
          []).aggregate.hasFailures) := by
  have hfeature := remaining.getElem?_index
  have hmem := List.mem_of_getElem? hfeature
  have agrees := rested.ledger.slots.agrees index feature slot hfeature hslot
  have span := rested.spans index feature hfeature
  have hstarted (offset : Nat) (hoffset : offset < (runner.scheduled feature).length) :
      wasStarted machine (first + offset) = true ↔ .started (first + offset) ∈
        Pool.marksAt (runner.owner features) index machine.trace := by
    have howner := (remaining.owner_iff (first + offset)).mpr ⟨offset, hoffset, rfl⟩
    rw [mem_marksAt_started, and_iff_left howner, wasStarted_iff]
  generalize hmarks : Pool.marksAt (runner.owner features) index machine.trace = marks
    at span hstarted ⊢
  cases span with
  | closed _ _ hopening =>
      have hskipped := rested.eq_skipped hfeature hmarks hopening
      refine ⟨none, .idle hskipped ?_, nofun⟩
      cases hlate with
      | nothing => rfl
      | called _ hcalled =>
          obtain ⟨offset, hoffset, hcalled⟩ := hcalled
          obtain ⟨unit, heq⟩ := hskipped _ ((hstarted offset hoffset).mp hcalled)
          cases heq
  | broken _ hends hscheduled => exact absurd rfl (calm.before feature hmem hscheduled _ _ hends)
  | @opened refused opening body _ hbegun hpending hstands =>
      cases hlate with
      | called _ _ hafter =>
          refine ⟨some _, .late hbegun (fun unit instance_ isUnit => ?_) hafter, ?_⟩
          · exact (hstands unit instance_ isUnit).trail.met_of_isFinal
              (rested.exists_isFinal hmarks isUnit)
          · rintro _ _ ⟨rfl⟩
            rfl
      | nothing hnothing =>
          exfalso
          rcases hnothing with hfinished | hnone
          · have hopen := (agrees.unfinished (.inl (agrees.pending ▸ hpending))).1
            exact Bool.false_ne_true (hopen.symm.trans hfinished)
          · obtain ⟨unit, hunit⟩ := hbegun.started
            have hmem : .started unit ∈ opening ++ body := List.mem_append_left _ hunit
            obtain ⟨offset, hoffset, rfl⟩ :=
              (remaining.owner_iff unit).mp (mem_marksAt_started.mp (hmarks ▸ hmem)).2
            have hcalled := (hstarted offset hoffset).mpr hmem
            exact Bool.false_ne_true ((hnone offset hoffset).symm.trans hcalled)
  | closing _ hbegun hpending hlast hall hclosing =>
      obtain ⟨_, hinstance, _⟩ := exists_isUnit hfeature (mem_told_of_last hlast).2
      have hscheduled := List.ne_nil_of_mem hinstance
      have hfinished := (agrees.finished (agrees.pending.trans hpending) hscheduled).1
      cases hlate with
      | called hopen => exact absurd (hopen.symm.trans hfinished) Bool.false_ne_true
      | nothing =>
          cases hclosing with
          | calling => exact (rested.not_calling hmarks hall).elim
          | crashed hends => exact absurd rfl (calm.after feature hmem hscheduled _ _ _ hends)
          | called hends =>
              refine ⟨some _, .pooled hbegun hall hends rfl, ?_⟩
              rintro hdistinct _ ⟨rfl⟩
              exact rested.failed_eq hdistinct remaining hmarks hall

end Rested

end Done

/-! ## Whole runs -/

section Runs

variable {schedule : List Pool.Turn} {stop : Bool} {state : σ} {feature : Feature}

variable (runner features index) (feature) in
/-- The hooks around a feature enclose what happens to it on a pool that is done, given what was done for
it after that. They are called if one of its units was started, and the verdict that the hooks after it are
told is that of its templates and units. -/
structure HooksEnclose (machine : Machine (σ × List Slot) (Option HookError))
    (late : List (Act σ Event)) (called : Option Bool) : Prop where
  enclosed : runner.Enclosed features index feature late called
    (Pool.marksAt (runner.owner features) index machine.trace)
  started : called.isSome = true ↔
    ∃ unit, runner.owner features unit = some index ∧ .started unit ∈ machine.trace
  verdict : runner.HasDistinctKeys feature → ∀ failed ∈ called, (failed = true ↔
    (runner.selection feature).failed ≠ [] ∨
      ∃ unit, runner.owner features unit = some index ∧
        Machine.endsFailed (machine.recordsOf unit) = true)

theorem Enclosed.isSome_iff {machine : Machine (σ × List Slot) (Option HookError)}
    {late : List (Act σ Event)} {called : Option Bool}
    (enclosed : runner.Enclosed features index feature late called
      (Pool.marksAt (runner.owner features) index machine.trace)) :
    called.isSome = true ↔
      ∃ unit, runner.owner features unit = some index ∧ .started unit ∈ machine.trace := by
  have hstarted {refused : Option HookError} {opening body later : List Pool.Mark}
      (hmarks : Pool.marksAt (runner.owner features) index machine.trace = opening ++ body ++ later)
      (begun : runner.Begun feature refused opening body) :
      ∃ unit, runner.owner features unit = some index ∧ .started unit ∈ machine.trace := by
    obtain ⟨unit, hunit⟩ := begun.started
    have hmem : .started unit ∈ opening ++ body ++ later :=
      List.mem_append_left _ (List.mem_append_left _ hunit)
    exact ⟨unit, (mem_marksAt_started.mp (hmarks ▸ hmem)).symm⟩
  generalize hmarks : Pool.marksAt (runner.owner features) index machine.trace = marks at enclosed
  cases enclosed with
  | idle hskipped =>
      refine iff_of_false Bool.false_ne_true ?_
      rintro ⟨unit, howner, hunit⟩
      obtain ⟨other, heq⟩ := hskipped _ (hmarks ▸ mem_marksAt_started.mpr ⟨hunit, howner⟩)
      cases heq
  | pooled hbegun => exact iff_of_true rfl (hstarted hmarks hbegun)
  | late hbegun => exact iff_of_true rfl (hstarted (hmarks.trans (List.append_nil _).symm) hbegun)

/-- A feature has failed if one of its templates has or one of its units. -/
theorem hasFailures_iff {machine : Machine (σ × List Slot) (Option HookError)} {first : Nat}
    {rest : List Feature} (hdistinct : runner.HasDistinctKeys feature)
    (remaining : runner.Remaining features index first (feature :: rest))
    (hreports : ∀ unit job, (runner.planOf features).jobs[unit]? = some job →
      Aggregate.IsReport job.instance_.key (machine.recordsOf unit)) :
    (runner.resultOf 0 feature (unitsTold machine first (runner.scheduled feature).length)
        []).aggregate.hasFailures = true ↔
      (runner.selection feature).failed ≠ [] ∨
        ∃ unit, runner.owner features unit = some index ∧
          Machine.endsFailed (machine.recordsOf unit) = true := by
  rw [hasFailures_resultOf_eq 0 hdistinct (remaining.isReports hreports), Bool.or_eq_true,
    hasFailures_resultOf_nil 0 hdistinct]
  refine or_congr_right ?_
  simp [unitsTold, remaining.owner_iff]

/-- What is done for the features after a pool. -/
theorem Collected.hooksEnclose {machine : Machine (σ × List Slot) (Option HookError)}
    {gates : List (Task (σ × List Slot) Event (Option HookError))} {books : Books} {first : Nat}
    {all : List Feature} {slots : List Slot} {lates : List (List (Act σ Event))}
    {results : List FeatureResult} (calm : runner.HooksAvoid all .crash)
    (rested : runner.Rested all gates machine books)
    (collected : Collected runner machine first features slots lates results)
    (remaining : runner.Remaining all index first features)
    (hslots : machine.shared.2.drop index = slots) :
    lates.length = features.length ∧ ∀ offset feature late, features[offset]? = some feature →
      lates[offset]? = some late →
        ∃ called, runner.HooksEnclose all (index + offset) feature machine late called := by
  refine ⟨collected.length_lates, fun offset feature late hfeature hlate => ?_⟩
  obtain ⟨first, rest, slot, late', errors, here, hslot, hlate', hlates, _⟩ :=
    collected.exists_late remaining hslots hfeature
  cases hlate.symm.trans hlates
  obtain ⟨called, enclosed, hverdict⟩ := rested.enclosed calm here hslot hlate'
  refine ⟨called, enclosed, enclosed.isSome_iff, fun hdistinct failed hfailed => ?_⟩
  rw [hverdict hdistinct failed hfailed]
  exact hasFailures_iff hdistinct here fun _ _ => rested.isReport

end Runs

/-- Whatever happens on a pool, the hooks around each feature bracket what happens to the feature, at any
time, as long as no such hook crashes. When the pool is done, those after a feature have been called once
if one of its units was started, and else neither of them. -/
theorem hooks_bracket (runner : FeatureRunner σ ω) (features : List Feature)
    (calm : runner.HooksAvoid features .crash)
    (schedule : List Pool.Turn) (stop : Bool) (state : σ) :
    (∀ mark ∈ (runner.pooledMachine features schedule stop state).trace,
      ∃ index feature, features[index]? = some feature ∧
        mark.group? (runner.owner features) = some index) ∧
    (∀ index feature, features[index]? = some feature →
      runner.Bracketed features index feature (Pool.marksAt (runner.owner features) index
        (runner.pooledMachine features schedule stop state).trace)) ∧
    (∀ runs, runner.runScheduled? schedule stop features state = some runs →
      ∃ lates : List (List (Act σ Event)), lates.length = features.length ∧
        runs.events = (runner.pooledMachine features schedule stop state).trace.filterMap
          Pool.Mark.event? ++ lates.flatMap Task.events ∧
        ∀ index feature late, features[index]? = some feature → lates[index]? = some late →
          ∃ called, runner.HooksEnclose features index feature
            (runner.pooledMachine features schedule stop state) late called) ∧
    (runner.UnitsAvoid features .hang → ∃ later : List Pool.Turn, (∀ turn ∈ later, turn.stops = false) ∧
      ∃ runs, runner.runScheduled? (schedule ++ later) stop features state = some runs) := by
  obtain ⟨books, ledger, spans⟩ := exists_spans runner features schedule stop state
  refine ⟨?_, ?_, ?_, fun live => IsLive.exists_runs ⟨live, calm⟩ schedule stop state⟩
  · intro mark hmark
    obtain ⟨job, hjob, hgroup⟩ := Pool.accounted_runSchedule runner.options.workers
      (runner.planOf features) _ stop _ schedule mark hmark
    obtain ⟨unit, hunit⟩ := List.getElem?_of_mem hjob
    obtain ⟨index, feature, instance_, _, hfeature, rfl⟩ := exists_of_job hunit
    exact ⟨index, feature, hfeature, hgroup⟩
  · exact fun index feature hfeature => (spans index feature hfeature).bracketed calm hfeature
  · intro runs hruns
    obtain ⟨hcomplete, lates, collected, hevents⟩ := collected_of_runScheduled? hruns
    have rested : runner.Rested features _ (runner.pooledMachine features schedule stop state) books :=
      ⟨ledger, spans, fun _ _ hjob => exists_settled hcomplete hjob⟩
    obtain ⟨hlength, henclose⟩ := collected.hooksEnclose calm rested (remaining_all features) rfl
    simp only [Nat.zero_add] at henclose
    exact ⟨lates, hlength, hevents, henclose⟩

/-- Turns in which the second of two workers is stopped before it starts anything. -/
def interrupted : List Pool.Turn :=
  [⟨0, 1, false⟩, ⟨1, 1, true⟩, ⟨0, 1, false⟩, ⟨0, 1, false⟩, ⟨0, 1, false⟩]

theorem hooks_bracket_windows :
    (∃ runs late, unhurried.runScheduled? overtaking false [windows] ⟨⟩ = some runs ∧
      unhurried.HooksEnclose [windows] 0 windows
        (unhurried.pooledMachine [windows] overtaking false ⟨⟩) late (some true)) ∧
    ∃ runs late, unhurried.runScheduled? interrupted false [windows] ⟨⟩ = some runs ∧
      unhurried.HooksEnclose [windows] 0 windows
        (unhurried.pooledMachine [windows] interrupted false ⟨⟩) late (some true) := by
  have hroute (schedule : List Pool.Turn)
      (hruns : (unhurried.runScheduled? schedule false [windows] ⟨⟩).isSome = true)
      (hfailed : Machine.endsFailed
        ((unhurried.pooledMachine [windows] schedule false ⟨⟩).recordsOf 0) = true)
      (hstarted : wasStarted (unhurried.pooledMachine [windows] schedule false ⟨⟩) 0 = true) :
      ∃ runs late, unhurried.runScheduled? schedule false [windows] ⟨⟩ = some runs ∧
        unhurried.HooksEnclose [windows] 0 windows
          (unhurried.pooledMachine [windows] schedule false ⟨⟩) late (some true) := by
    obtain ⟨runs, hruns⟩ := Option.isSome_iff_exists.mp hruns
    obtain ⟨lates, hlength, _, henclose⟩ :=
      (hooks_bracket unhurried [windows] (unitsAvoid_unhurried .crash).hooks schedule false ⟨⟩).2.2.1 runs hruns
    obtain ⟨late, rfl⟩ := List.length_eq_one_iff.mp hlength
    obtain ⟨called, henclose⟩ := henclose 0 windows late rfl rfl
    have howner : unhurried.owner [windows] 0 = some 0 := by cbv
    obtain ⟨failed, rfl⟩ := Option.isSome_iff_exists.mp
      (henclose.started.mpr ⟨0, howner, List.contains_iff_mem.mp hstarted⟩)
    have hverdict := (henclose.verdict hasDistinctKeys_windows failed rfl).mpr
      (.inr ⟨0, howner, hfailed⟩)
    exact ⟨runs, late, hruns, hverdict ▸ henclose⟩
  exact ⟨hroute overtaking (by cbv) (by cbv) (by cbv), hroute interrupted (by cbv) (by cbv) (by cbv)⟩

end Acceptance.FeatureRunner
