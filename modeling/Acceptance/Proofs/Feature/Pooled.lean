import Acceptance.Proofs.Feature.Ledger
import Acceptance.Proofs.Pool.Progress

/-!
# Features on a pool

What a pool that is done hands back for its features: for each of them the records of its units in
order, and what became of the hooks after it.
-/

namespace Acceptance.FeatureRunner

open Aggregate (IsReport)
open Pool (Machine)

variable {σ ω : Type} (runner : FeatureRunner σ ω)
  (machine : Machine (σ × List Slot) (Option HookError))

/-- The reports of the units of a feature, the first of which has a given number. -/
def unitsTold (first count : Nat) : List (List Record) :=
  (List.range count).map fun offset => machine.recordsOf (first + offset)

/-- The reports of all units of some features. -/
def pooledReports (first : Nat) : List Feature → List (List (List Record))
  | [] => []
  | feature :: rest =>
    runner.unitReports 0 feature (unitsTold machine first (runner.scheduled feature).length) ::
      pooledReports (first + (runner.scheduled feature).length) rest

/-- What is done for a feature when its pool is done, given its slot. The hooks after the feature are
called only now if one of its units was started and they have not been called yet. -/
inductive Late (first : Nat) (feature : Feature) (slot : Slot) :
    List (Task.Act σ Event) → List HookError → Prop
  | nothing (hnothing : slot.finished = true ∨
      ∀ offset < (runner.scheduled feature).length, wasStarted machine (first + offset) = false) :
      Late _ _ _ [] []
  | called {acts : List (Task.Act σ Event)} {errors : List HookError}
      (hopen : slot.finished = false)
      (hstarted : ∃ offset < (runner.scheduled feature).length,
        wasStarted machine (first + offset) = true)
      (hafter : (runner.afterFeature feature (runner.resultOf 0 feature
        (unitsTold machine first (runner.scheduled feature).length) []).aggregate.hasFailures).Ends
          acts (.finished errors)) :
      Late _ _ _ acts errors

/-- What is handed back for some features, given their slots, and what is done for them when their pool
is done. -/
inductive Collected : Nat → List Feature → List Slot → List (List (Task.Act σ Event)) →
    List FeatureResult → Prop
  | nil {first} : Collected first [] [] [] []
  | cons {first feature features slot slots acts errors lates results}
      (hlate : Late runner machine first feature slot acts errors)
      (rest : Collected (first + (runner.scheduled feature).length) features slots lates results) :
      Collected first (feature :: features) (slot :: slots) (acts :: lates)
        (runner.resultOf 0 feature (unitsTold machine first (runner.scheduled feature).length)
          (slot.hookErrors ++ errors) :: results)

variable {runner machine} {features : List Feature} {slots : List Slot} {first : Nat}
  {results : List FeatureResult}

theorem wasStarted_iff {unit : Nat} :
    wasStarted machine unit = true ↔ .started unit ∈ machine.trace := by
  rw [wasStarted, List.contains_iff_mem]

theorem collected_of_ends {acts : List (Task.Act σ Event)} (hlength : slots.length = features.length)
    (h : (runner.collect machine first ((features.map runner.selected).zip slots)).Ends acts
      (.finished results)) :
    ∃ lates, Collected runner machine first features slots lates results ∧ acts = lates.flatten := by
  induction features generalizing first slots acts results with
  | nil =>
      obtain rfl := List.eq_nil_of_length_eq_zero hlength
      obtain ⟨rfl, heq⟩ := Task.ends_done.mp h
      cases heq
      exact ⟨[], .nil, rfl⟩
  | cons feature features ih =>
      obtain ⟨slot, slots, rfl⟩ := List.exists_cons_of_length_eq_add_one hlength
      have hflat : ((List.range (runner.scheduled feature).length).map (first + ·)).flatMap
          machine.recordsOf = (unitsTold machine first (runner.scheduled feature).length).flatten := by
        rw [List.flatMap_def, List.map_map]
        rfl
      unfold collect at h
      simp only [bind, pure, List.map_cons, List.zip_cons_cons, selected, hflat, aggregate_resultOf,
        Task.done_bind] at h
      split at h
      next hlate =>
        obtain ⟨late, before, _, rfl, hafter, h⟩ := Task.ends_bind_finished.mp h
        obtain ⟨later, between, _, rfl, hrest, h⟩ := Task.ends_bind_finished.mp h
        obtain ⟨rfl, heq⟩ := Task.ends_done.mp h
        cases heq
        obtain ⟨hstarted, hfinished⟩ := Bool.and_eq_true_iff.mp hlate
        obtain ⟨unit, hunit, hstarted⟩ := List.any_eq_true.mp hstarted
        obtain ⟨offset, hoffset, rfl⟩ := List.mem_map.mp hunit
        obtain ⟨lates, hlates, rfl⟩ := ih (Nat.succ.inj hlength) hrest
        refine ⟨before :: lates, .cons (.called (by simpa using hfinished)
          ⟨offset, List.mem_range.mp hoffset, hstarted⟩ hafter) hlates, by simp⟩
      next hnothing =>
        obtain ⟨later, between, _, rfl, hrest, h⟩ := Task.ends_bind_finished.mp h
        obtain ⟨rfl, heq⟩ := Task.ends_done.mp h
        cases heq
        obtain ⟨lates, hlates, rfl⟩ := ih (Nat.succ.inj hlength) hrest
        refine ⟨[] :: lates, .cons (.nothing ?_) hlates, by simp⟩
        by_cases hfinished : slot.finished = true
        · exact .inl hfinished
        · simp only [hfinished, Bool.not_false, Bool.and_true, List.any_eq_true, not_exists, not_and,
            Bool.not_eq_true] at hnothing
          exact .inr fun offset hoffset =>
            hnothing _ (List.mem_map_of_mem (List.mem_range.mpr hoffset))

/-- Nothing is called while outcomes are collected where the hooks after each feature that had units
have been called. -/
theorem exists_collect {pairs : List (Feature × Slot)}
    (hclosed : ∀ pair ∈ pairs, runner.scheduled pair.1 = [] ∨ pair.2.finished = true) :
    ∃ results, runner.collect machine first (pairs.map (Prod.map runner.selected id)) =
      .done results := by
  induction pairs generalizing first with
  | nil => exact ⟨[], rfl⟩
  | cons pair pairs ih =>
      obtain ⟨hhead, htail⟩ := List.forall_mem_cons.mp hclosed
      obtain ⟨later, hlater⟩ : ∃ results,
          runner.collect machine (first + (runner.scheduled pair.1).length)
            (pairs.map (Prod.map runner.selected id)) = .done results := ih htail
      have hnothing : (((List.range (runner.scheduled pair.1).length).map (first + ·)).any
          (wasStarted machine) && !pair.2.finished) = false := by
        rcases hhead with hempty | hfinished
        · simp [hempty]
        · simp [hfinished]
      simp only [List.map_cons, Prod.map, id, collect, selected, hnothing, Bool.false_eq_true,
        if_false]
      exact ⟨_, congrArg (Task.bind · _) hlater⟩

/-! ## The last features of a pool -/

section Drop

variable {α : Type} {items rest : List α} {item : α} {index : Nat}

theorem getElem?_of_drop (h : items.drop index = item :: rest) : items[index]? = some item := by
  rw [← Nat.add_zero index, ← List.getElem?_drop, h]
  rfl

theorem drop_of_drop (h : items.drop index = item :: rest) : items.drop (index + 1) = rest := by
  rw [← List.drop_drop, h]
  rfl

end Drop

/-- Some features are the last ones of a pool: the first of them has an index, and its units are numbered
from a number on. -/
structure Remaining (runner : FeatureRunner σ ω) (all : List Feature) (index first : Nat)
    (features : List Feature) : Prop where
  eq_drop : all.drop index = features
  before : ∀ job ∈ (runner.planOf all).jobs.take first, ∃ i < index, job.gate = some i
  jobs : (runner.planOf all).jobs.drop first = runner.jobsFrom index features

theorem remaining_all (features : List Feature) : runner.Remaining features 0 0 features :=
  ⟨rfl, nofun, jobs_pooledPlan features⟩

namespace Remaining

variable {all rest : List Feature} {index offset : Nat} {feature : Feature} {instance_ : Instance}

theorem next (remaining : runner.Remaining all index first (feature :: rest)) :
    runner.Remaining all (index + 1) (first + (runner.scheduled feature).length) rest where
  eq_drop := drop_of_drop remaining.eq_drop
  before := by
    intro job hjob
    rw [List.take_add, remaining.jobs, jobsFrom, List.take_left' (by simp)] at hjob
    rcases List.mem_append.mp hjob with hearlier | hown
    · obtain ⟨i, hi, hgate⟩ := remaining.before job hearlier
      exact ⟨i, Nat.lt_succ_of_lt hi, hgate⟩
    · obtain ⟨instance_, _, rfl⟩ := List.mem_map.mp hown
      exact ⟨index, Nat.lt_succ_self index, rfl⟩
  jobs := by
    rw [← List.drop_drop, remaining.jobs, jobsFrom, List.drop_left' (by simp)]

theorem getElem?_index (remaining : runner.Remaining all index first (feature :: rest)) :
    all[index]? = some feature :=
  getElem?_of_drop remaining.eq_drop

/-- The units of the first one are its instances, in order. -/
theorem job (remaining : runner.Remaining all index first (feature :: rest))
    (hinstance : (runner.scheduled feature)[offset]? = some instance_) :
    (runner.planOf all).jobs[first + offset]? = some (runner.jobOf feature index instance_) := by
  have hlt := (List.getElem?_eq_some_iff.mp hinstance).1
  rw [← List.getElem?_drop, remaining.jobs, jobsFrom, List.getElem?_append_left (by simpa using hlt),
    List.getElem?_map, hinstance]
  rfl

/-- The units of the first one follow those of the features before it. -/
theorem owner_iff (remaining : runner.Remaining all index first (feature :: rest)) (unit : Nat) :
    runner.owner all unit = some index ↔
      ∃ offset < (runner.scheduled feature).length, unit = first + offset := by
  constructor
  · intro howner
    obtain ⟨job, hjob, hgate⟩ := Option.bind_eq_some_iff.mp howner
    have hfirst : first ≤ unit := by
      by_contra hlt
      have hmem : job ∈ (runner.planOf all).jobs.take first := by
        rw [← List.getElem?_take_of_lt (Nat.lt_of_not_le hlt)] at hjob
        exact List.mem_of_getElem? hjob
      obtain ⟨i, hi, hgate'⟩ := remaining.before job hmem
      cases hgate.symm.trans hgate'
      exact Nat.lt_irrefl _ hi
    obtain ⟨offset, rfl⟩ := Nat.exists_eq_add_of_le hfirst
    refine ⟨offset, ?_, rfl⟩
    by_contra hlarge
    rw [← List.getElem?_drop, remaining.jobs, jobsFrom,
      List.getElem?_append_right (by simpa using hlarge)] at hjob
    obtain ⟨later, found, instance_, _, _, rfl⟩ := mem_jobsFrom (List.mem_of_getElem? hjob)
    simp only [jobOf, Option.some.injEq] at hgate
    omega
  · rintro ⟨offset, hoffset, rfl⟩
    rw [owner, remaining.job (List.getElem?_eq_getElem hoffset)]
    rfl

/-- What holds of the records of all units holds of those of the first one. -/
theorem forall₂_unitsTold {R : Instance → List Record → Prop}
    (remaining : runner.Remaining all index first (feature :: rest))
    (h : ∀ unit instance_, (runner.planOf all).jobs[unit]? =
      some (runner.jobOf feature index instance_) → R instance_ (machine.recordsOf unit)) :
    List.Forall₂ R (runner.scheduled feature)
      (unitsTold machine first (runner.scheduled feature).length) := by
  rw [List.forall₂_iff_get]
  refine ⟨by simp [unitsTold], fun offset hoffset _ => ?_⟩
  simpa [unitsTold] using h _ _ (remaining.job (List.getElem?_eq_getElem hoffset))

theorem isReports (remaining : runner.Remaining all index first (feature :: rest))
    (hreports : ∀ unit job, (runner.planOf all).jobs[unit]? = some job →
      IsReport job.instance_.key (machine.recordsOf unit)) :
    List.Forall₂ IsReport ((runner.scheduled feature).map Instance.key)
      (unitsTold machine first (runner.scheduled feature).length) :=
  List.forall₂_map_left_iff.mpr
    (remaining.forall₂_unitsTold fun unit _ hjob => hreports unit _ hjob)

end Remaining

theorem Collected.length_lates {lates : List (List (Task.Act σ Event))}
    (collected : Collected runner machine first features slots lates results) :
    lates.length = features.length := by
  induction collected with
  | nil => rfl
  | cons _ _ ih => simp [ih]

/-- What is handed back for one of the last features comes of its own slot and of what is done for it when
the pool is done. -/
theorem Collected.exists_late {all : List Feature} {index : Nat}
    {lates : List (List (Task.Act σ Event))}
    (collected : Collected runner machine first features slots lates results)
    (remaining : runner.Remaining all index first features)
    (hslots : machine.shared.2.drop index = slots) {offset : Nat} {feature : Feature}
    (hfeature : features[offset]? = some feature) :
    ∃ first rest slot late errors, runner.Remaining all (index + offset) first (feature :: rest) ∧
      machine.shared.2[index + offset]? = some slot ∧
      Late runner machine first feature slot late errors ∧ lates[offset]? = some late ∧
      results[offset]? = some (runner.resultOf 0 feature
        (unitsTold machine first (runner.scheduled feature).length) (slot.hookErrors ++ errors)) := by
  induction collected generalizing index offset with
  | nil => cases hfeature
  | @cons first _ features slot slots acts errors lates results hlate _ ih =>
      cases offset with
      | zero =>
          cases hfeature
          exact ⟨first, features, slot, acts, errors, remaining, getElem?_of_drop hslots, hlate, rfl, rfl⟩
      | succ offset =>
          have hlater := ih remaining.next (drop_of_drop hslots) hfeature
          rwa [Nat.add_right_comm] at hlater

/-! ## Reports of units -/

section Reports

variable {gates : List (Task (σ × List Slot) Event (Option HookError))} {width unit : Nat}
  {signal : Prop}

/-- Whatever becomes of a unit, its records are a report. -/
theorem isReport_of_settled {fate : Pool.Fate} {job : Pool.Job (σ × List Slot) (Option HookError)}
    (settled : Pool.Settled (runner.planOf features) gates machine unit fate)
    (hjob : (runner.planOf features).jobs[unit]? = some job) :
    IsReport job.instance_.key (machine.recordsOf unit) := by
  obtain ⟨job', events, hjob', hcalled, _, hrecords⟩ := settled
  cases hjob.symm.trans hjob'
  obtain ⟨index, feature, instance_, _, _, rfl⟩ := exists_of_job hjob
  rw [hrecords]
  cases fate with
  | returned records =>
      cases hcalled _ rfl with
      | ran hpasses hends horder =>
          obtain ⟨own, hown, htimes⟩ := reportOf_of_ends hends
          exact isReport_of_reportOf hown (horder.sublist htimes)
  | crashed panic now => exact Aggregate.isReport_singleton rfl
  | skipped now => exact Aggregate.isReport_singleton rfl

theorem Collected.told {all : List Feature} {index : Nat} {lates : List (List (Task.Act σ Event))}
    (collected : Collected runner machine first features slots lates results)
    (remaining : runner.Remaining all index first features)
    (hreports : ∀ unit job, (runner.planOf all).jobs[unit]? = some job →
      IsReport job.instance_.key (machine.recordsOf unit)) :
    runner.AllTold features (pooledReports runner machine first features) results := by
  induction collected generalizing index with
  | nil => exact .nil
  | cons _ _ ih =>
      refine .cons (told_resultOf _ _ (remaining.isReports hreports)) (ih remaining.next)

end Reports

/-! ## Pools that are done -/

/-- The pool for some features after a schedule. -/
def pooledMachine (runner : FeatureRunner σ ω) (features : List Feature) (schedule : List Pool.Turn)
    (stop : Bool) (state : σ) : Machine (σ × List Slot) (Option HookError) :=
  (runner.pooledStart (runner.selectAll features) stop state).runSchedule (runner.planOf features)
    schedule

theorem sound_pooledMachine (runner : FeatureRunner σ ω) (features : List Feature)
    (schedule : List Pool.Turn) (stop : Bool) (state : σ) :
    Pool.Sound (runner.planOf features)
      ((runner.selectAll features).map fun selected => (runner.beforeFeature selected.feature).onFirst)
      (Pool.width runner.options.workers (runner.planOf features).jobs.length)
      (stop = true ∨ ∃ turn ∈ schedule, turn.stops = true)
      (runner.pooledMachine features schedule stop state) :=
  Pool.sound_runSchedule ..

/-- Polling the workers in rounds is one of the schedules of a run. -/
theorem exists_runScheduled? (runner : FeatureRunner σ ω) (features : List Feature) (stop : Bool)
    (state : σ) (rounds : Nat) :
    ∃ schedule, (∀ turn ∈ schedule, turn.stops = false) ∧
      runner.runPooled? rounds stop features state =
        runner.runScheduled? schedule stop features state := by
  obtain ⟨schedule, hstops, hschedule⟩ := Machine.exists_schedule rounds
    (runner.pooledStart (runner.selectAll features) stop state)
  exact ⟨schedule, hstops, congrArg (runner.pooledResult? (runner.selectAll features)) hschedule⟩

section Done

variable {schedule : List Pool.Turn} {stop : Bool} {state : σ} {runs : FeatureRuns σ}

/-- Where nothing stops the start of units it is never stopped. -/
theorem stop_pooledMachine (hfast : runner.options.failFast = false)
    (hstops : ∀ turn ∈ schedule, turn.stops = false) :
    (runner.pooledMachine features schedule false state).stop = false := by
  rw [← Bool.not_eq_true]
  intro hstop
  rcases (sound_pooledMachine ..).stop_cause hstop with
    (hsignal | ⟨turn, hturn, hsignal⟩) | ⟨hfailFast, _⟩
  · cases hsignal
  · rw [hstops turn hturn] at hsignal
    cases hsignal
  · cases hfast.symm.trans hfailFast

/-- A pool that is done hands back what it has collected. -/
theorem collected_of_runScheduled? (h : runner.runScheduled? schedule stop features state = some runs) :
    (runner.pooledMachine features schedule stop state).isComplete = true ∧
      ∃ lates, Collected runner (runner.pooledMachine features schedule stop state) 0 features
          (runner.pooledMachine features schedule stop state).shared.2 lates runs.results ∧
        runs.events = (runner.pooledMachine features schedule stop state).trace.filterMap
          Pool.Mark.event? ++ lates.flatMap Task.events := by
  obtain ⟨books, ledger⟩ : ∃ books, runner.Ledger features
      (runner.pooledMachine features schedule stop state) books := exists_ledger schedule stop state
  change runner.pooledResult? (runner.selectAll features)
    (runner.pooledMachine features schedule stop state) = some runs at h
  generalize runner.pooledMachine features schedule stop state = machine at h ledger
  unfold pooledResult? at h
  split at h
  next hcomplete =>
    rw [selectAll_eq] at h
    obtain ⟨acts, hends, hevents, _⟩ := Task.run_ends
      (runner.collect machine 0 ((features.map runner.selected).zip machine.shared.2)) machine.time
      machine.shared.1
    dsimp only at h
    split at h
    next results hresults =>
      cases h
      rw [hresults] at hends
      obtain ⟨lates, hlates, rfl⟩ := collected_of_ends ledger.slots.length hends
      refine ⟨hcomplete, lates, hlates, ?_⟩
      rw [← hevents, Task.events, List.filterMap_flatten, List.flatMap_def]
      rfl
    next => cases h
  next => cases h

/-- The units of a pool that is done have met their fates. -/
theorem exists_settled (hcomplete : (runner.pooledMachine features schedule stop state).isComplete = true)
    {unit : Nat} {job : Pool.Job (σ × List Slot) (Option HookError)}
    (hjob : (runner.planOf features).jobs[unit]? = some job) :
    ∃ fate, Pool.Settled (runner.planOf features)
      ((runner.selectAll features).map fun selected => (runner.beforeFeature selected.feature).onFirst)
      (runner.pooledMachine features schedule stop state) unit fate := by
  obtain ⟨fate, settled, _⟩ := (sound_pooledMachine ..).entries (Pool.width_pos _ _) hcomplete hjob
  exact ⟨fate, settled⟩

/-- Whatever happens on a pool, the results of its features take all reports into account. -/
theorem allTold_of_runScheduled? (h : runner.runScheduled? schedule stop features state = some runs) :
    runner.AllTold features
      (runner.pooledReports (runner.pooledMachine features schedule stop state) 0 features)
      runs.results := by
  obtain ⟨hcomplete, _, collected, _⟩ := collected_of_runScheduled? h
  refine collected.told (remaining_all features) fun unit job hjob => ?_
  obtain ⟨fate, settled⟩ := exists_settled hcomplete hjob
  exact isReport_of_settled settled hjob

end Done

end Acceptance.FeatureRunner
