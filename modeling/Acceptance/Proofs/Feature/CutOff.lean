import Acceptance.Proofs.Feature.Difference
import Acceptance.Proofs.Pool.Crash

/-!
# Units that a crash cuts off

On a pool a crash has consequences for other instances: what is left of the queue of its worker is skipped.
In two runs that differ for one instance, the units of other instances are skipped alike, but for those that
a crash of this one has cut off.
-/

namespace Acceptance.FeatureRunner

open Pool (Machine)

variable {σ ω : Type} {left right runner runner' : FeatureRunner σ ω} {features : List Feature}
  {feature : Feature} {place : Place}

/-! ## Units -/

/-- The units of a pool in the order of their numbers: the number of a feature, the feature, and one of its
instances. -/
def unitsFrom (runner : FeatureRunner σ ω) (index : Nat) (features : List Feature) :
    List (Nat × Feature × Instance) :=
  (features.zipIdx index).flatMap fun entry =>
    (runner.scheduled entry.1).map fun instance_ => (entry.2, entry.1, instance_)

section Units

variable {index unit : Nat} {instance_ : Instance}

theorem unitsFrom_cons (index : Nat) (feature : Feature) (features : List Feature) :
    runner.unitsFrom index (feature :: features) =
      (runner.scheduled feature).map (fun instance_ => (index, feature, instance_)) ++
        runner.unitsFrom (index + 1) features := rfl

theorem jobsFrom_eq (index : Nat) (features : List Feature) :
    runner.jobsFrom index features =
      (runner.unitsFrom index features).map fun unit => runner.jobOf unit.2.1 unit.1 unit.2.2 := by
  induction features generalizing index with
  | nil => rfl
  | cons feature features ih =>
      rw [jobsFrom, unitsFrom_cons, List.map_append, List.map_map, ih]
      rfl

theorem unitPlaces_eq (features : List Feature) :
    runner.unitPlaces features =
      (runner.unitsFrom 0 features).map fun unit => ⟨unit.1, unit.2.2.key⟩ := by
  rw [unitPlaces, placesFrom, unitsFrom, List.map_flatMap]
  simp only [List.map_map]
  rfl

theorem job_of_unit (hunit : (runner.unitsFrom 0 features)[unit]? = some (index, feature, instance_)) :
    (runner.planOf features).jobs[unit]? = some (runner.jobOf feature index instance_) := by
  rw [jobs_pooledPlan, jobsFrom_eq, List.getElem?_map, hunit]
  rfl

theorem place_of_unit (hunit : (runner.unitsFrom 0 features)[unit]? = some (index, feature, instance_)) :
    (runner.unitPlaces features)[unit]? = some ⟨index, instance_.key⟩ := by
  rw [unitPlaces_eq, List.getElem?_map, hunit]
  rfl

theorem mem_of_unit (hunit : (runner.unitsFrom 0 features)[unit]? = some (index, feature, instance_)) :
    features[index]? = some feature ∧ instance_ ∈ runner.scheduled feature := by
  obtain ⟨⟨found, number⟩, hentry, hmem⟩ := List.mem_flatMap.mp (List.mem_of_getElem? hunit)
  obtain ⟨_, hinstance, heq⟩ := List.mem_map.mp hmem
  cases heq
  exact ⟨List.mk_mem_zipIdx_iff_getElem?.mp hentry, hinstance⟩

theorem exists_unit (hunit : unit < (runner.planOf features).jobs.length) :
    ∃ index feature instance_,
      (runner.unitsFrom 0 features)[unit]? = some (index, feature, instance_) := by
  rw [jobs_pooledPlan, jobsFrom_eq, List.length_map] at hunit
  exact ⟨_, _, _, List.getElem?_eq_getElem hunit⟩

theorem lt_of_unit (hunit : (runner.unitsFrom 0 features)[unit]? = some (index, feature, instance_)) :
    unit < (runner.planOf features).jobs.length :=
  (List.getElem?_eq_some_iff.mp (job_of_unit hunit)).1

variable {machine : Machine (σ × List Slot) (Option HookError)} {fate : Pool.Fate}
  {ending : Task.Ending (List Record)}

/-- What is reported of a unit that is called tells how the call ends. -/
theorem reportsEnding_of_settled
    (settled : Pool.Settled (runner.planOf features)
      ((runner.selectAll features).map fun selected => (runner.beforeFeature selected.feature).onFirst)
      machine unit fate)
    (hunit : (runner.unitsFrom 0 features)[unit]? = some (index, feature, instance_))
    (hending : ending ∈ fate.ending?) : ReportsEnding instance_ ending (machine.recordsOf unit) := by
  obtain ⟨job, events, hjob, _, _, hrecords⟩ := settled
  cases (job_of_unit hunit).symm.trans hjob
  rw [hrecords]
  cases fate with
  | returned records =>
      cases hending
      exact .finished records
  | crashed panic now =>
      cases hending
      exact .crashed panic now
  | skipped now => cases hending

/-- A unit that is called ends as its instance does where the hooks around its feature never crash. -/
theorem instanceEnds_of_settled (calm : runner.HooksAvoid features .crash)
    (settled : Pool.Settled (runner.planOf features)
      ((runner.selectAll features).map fun selected => (runner.beforeFeature selected.feature).onFirst)
      machine unit fate)
    (hunit : (runner.unitsFrom 0 features)[unit]? = some (index, feature, instance_))
    (hending : ending ∈ fate.ending?) : runner.InstanceEnds feature instance_ ending := by
  obtain ⟨job, events, hjob, hcalled, _⟩ := settled
  cases (job_of_unit hunit).symm.trans hjob
  obtain ⟨hfeature, hinstance⟩ := mem_of_unit hunit
  have hmem := List.mem_of_getElem? hfeature
  have hscheduled := List.ne_nil_of_mem hinstance
  cases hcalled ending hending with
  | ran hpasses hends _ =>
      obtain ⟨task, before, refused, htask, hbefore, rfl⟩ := hpasses
      obtain rfl := gate_eq hfeature htask
      obtain ⟨own, hown, _⟩ := hbefore.of_onFirst
      cases ending with
      | finished records =>
          obtain ⟨told, htold, _⟩ := reportOf_of_ends hends
          exact ⟨refused, own, told, hown, htold⟩
      | crashed panic =>
          -- A refused instance is only reported, so the hooks before the feature have passed.
          obtain ⟨rfl, told, htold⟩ := crashed_of_ends (calm.after feature hmem hscheduled) hends
          exact ⟨none, own, told, hown, htold⟩
      | hung => cases fate <;> cases hending
  | broke hgate htask hends _ =>
      cases hgate
      obtain rfl := gate_eq hfeature htask
      exact absurd rfl ((calm.before feature hmem hscheduled).onFirst _ _ hends)

end Units

/-! ## A pool that is worked off -/

/-- The number of workers that are used for some features. -/
def poolWidth (runner : FeatureRunner σ ω) (features : List Feature) : Nat :=
  Pool.width runner.options.workers (runner.planOf features).jobs.length

/-- A pool for some features is done, nothing has stopped the start of units, and the hooks around the
features never crash. -/
structure WorkedOff (runner : FeatureRunner σ ω) (features : List Feature)
    (machine : Machine (σ × List Slot) (Option HookError)) : Prop where
  sound : ∃ signal, Pool.Sound (runner.planOf features)
    ((runner.selectAll features).map fun selected => (runner.beforeFeature selected.feature).onFirst)
    (runner.poolWidth features) signal machine
  order : Pool.StartsInOrder (runner.poolWidth features) machine.trace
  complete : machine.isComplete = true
  stop : machine.stop = false
  calm : runner.HooksAvoid features .crash

theorem workedOff_of_runScheduled? (calm : runner.HooksAvoid features .crash)
    (hfast : runner.options.failFast = false) {schedule : List Pool.Turn}
    (hstops : ∀ turn ∈ schedule, turn.stops = false) {state : σ} {runs : FeatureRuns σ}
    (h : runner.runScheduled? schedule false features state = some runs) :
    runner.WorkedOff features (runner.pooledMachine features schedule false state) where
  sound := ⟨_, sound_pooledMachine ..⟩
  order := Pool.startsInOrder_runSchedule _ _ _ _ _ schedule
  complete := (collected_of_runScheduled? h).1
  stop := stop_pooledMachine hfast hstops
  calm := calm

/-- The record at a place tells that its unit is skipped, for it stands in the queue of a unit that has
crashed at another place. -/
def CutOff (runner : FeatureRunner σ ω) (features : List Feature)
    (machine : Machine (σ × List Slot) (Option HookError)) (place other : Place) (record : Record) : Prop :=
  record.status = .skipped ∧ ∃ unit later, (runner.unitPlaces features)[unit]? = some place ∧
    (runner.unitPlaces features)[later]? = some other ∧ unit < later ∧
    later % runner.poolWidth features = unit % runner.poolWidth features ∧ .crashed unit ∈ machine.trace

section Pooled

variable {machine machine' : Machine (σ × List Slot) (Option HookError)} {index unit : Nat}
  {instance_ : Instance}

namespace WorkedOff

variable (done : runner.WorkedOff features machine)

include done

theorem exists_settled (hunit : unit < (runner.planOf features).jobs.length) :
    ∃ fate, Pool.Settled (runner.planOf features)
      ((runner.selectAll features).map fun selected => (runner.beforeFeature selected.feature).onFirst)
      machine unit fate := by
  obtain ⟨signal, sound⟩ := done.sound
  obtain ⟨fate, settled, _⟩ := sound.entries (Pool.width_pos _ _) done.complete
    (List.getElem?_eq_getElem hunit)
  exact ⟨fate, settled⟩

theorem exists_crashed (hunit : unit < (runner.planOf features).jobs.length)
    (hskipped : .skipped unit ∈ machine.trace) :
    ∃ earlier < unit, earlier % runner.poolWidth features = unit % runner.poolWidth features ∧
      .crashed earlier ∈ machine.trace := by
  obtain ⟨signal, sound⟩ := done.sound
  refine (sound.skipped (Pool.width_pos _ _) hunit hskipped).resolve_left ?_
  simp [done.stop]

/-- Behind a unit that has not ended, all of its queue is skipped. -/
theorem skipped_behind (hended : .ended unit ∉ machine.trace) {later : Nat} (hlt : unit < later)
    (hlater : later < (runner.planOf features).jobs.length)
    (hclass : unit % runner.poolWidth features = later % runner.poolWidth features) :
    .skipped later ∈ machine.trace := by
  have hstarted : .started later ∉ machine.trace := fun h => hended (done.order.ended h hlt hclass)
  obtain ⟨fate, settled⟩ := done.exists_settled hlater
  obtain ⟨now, rfl⟩ := settled.exists_skipped hstarted
  exact settled.isSkipped_iff.mp rfl

variable (hunit : (runner.unitsFrom 0 features)[unit]? = some (index, feature, instance_))

include hunit

theorem ends_of_ended (hended : .ended unit ∈ machine.trace) :
    ∃ records, runner.InstanceEnds feature instance_ (.finished records) := by
  obtain ⟨fate, settled⟩ := done.exists_settled (lt_of_unit hunit)
  obtain ⟨records, rfl⟩ := settled.exists_returned hended
  exact ⟨records, instanceEnds_of_settled done.calm settled hunit rfl⟩

theorem ends_of_crashed (hcrashed : .crashed unit ∈ machine.trace) :
    ∃ panic, runner.InstanceEnds feature instance_ (.crashed panic) := by
  obtain ⟨fate, settled⟩ := done.exists_settled (lt_of_unit hunit)
  obtain ⟨panic, now, rfl⟩ := settled.exists_crashed hcrashed
  exact ⟨panic, instanceEnds_of_settled done.calm settled hunit rfl⟩

/-- A unit is skipped, or it is called and ends as its instance does. -/
theorem skipped_or_seen :
    (.skipped unit ∈ machine.trace ∧ ∃ now, machine.recordsOf unit = [.skipped instance_ now]) ∨
      (.skipped unit ∉ machine.trace ∧ runner.Seen feature instance_ (machine.recordsOf unit)) := by
  obtain ⟨fate, settled⟩ := done.exists_settled (lt_of_unit hunit)
  have hseen (ending : Task.Ending (List Record)) (hending : ending ∈ fate.ending?) :
      runner.Seen feature instance_ (machine.recordsOf unit) :=
    ⟨ending, instanceEnds_of_settled done.calm settled hunit hending,
      reportsEnding_of_settled settled hunit hending⟩
  have hmark := settled.isSkipped_iff
  cases fate with
  | returned records => exact .inr ⟨mt hmark.mpr Bool.false_ne_true, hseen _ rfl⟩
  | crashed panic now => exact .inr ⟨mt hmark.mpr Bool.false_ne_true, hseen _ rfl⟩
  | skipped now =>
      obtain ⟨_, _, hjob, _, _, hrecords⟩ := settled
      cases (job_of_unit hunit).symm.trans hjob
      exact .inl ⟨hmark.mp rfl, now, hrecords⟩

end WorkedOff

/-! ## Two pools -/

/-- Two runners have the same units on a pool of the same width, and an instance at another place than a
given one does not crash for the first of them and return for the second one. -/
structure CrashesWith (runner runner' : FeatureRunner σ ω) (features : List Feature) (place : Place) :
    Prop where
  units : runner'.unitsFrom 0 features = runner.unitsFrom 0 features
  width : runner'.poolWidth features = runner.poolWidth features
  crashes : ∀ index feature instance_, features[index]? = some feature →
    instance_ ∈ runner.scheduled feature → ⟨index, instance_.key⟩ ≠ place →
      ∀ panic records, runner.InstanceEnds feature instance_ (.crashed panic) →
        ¬ runner'.InstanceEnds feature instance_ (.finished records)

/-- What is skipped in one of two runs only stands behind a crash at the place where they differ. -/
theorem CrashesWith.cutOff (crashes : runner.CrashesWith runner' features place)
    (done : runner.WorkedOff features machine) (done' : runner'.WorkedOff features machine')
    (hunit : (runner.unitsFrom 0 features)[unit]? = some (index, feature, instance_))
    (hskipped : .skipped unit ∈ machine.trace) (hcalled : .skipped unit ∉ machine'.trace)
    {record : Record} (hrecord : record.status = .skipped) :
    runner.CutOff features machine place ⟨index, instance_.key⟩ record := by
  have hunit' := crashes.units.symm ▸ hunit
  obtain ⟨earlier, hlt, hclass, hcrashed⟩ := done.exists_crashed (lt_of_unit hunit) hskipped
  obtain ⟨number, first, other, hentry⟩ := exists_unit (Nat.lt_trans hlt (lt_of_unit hunit))
  -- In the other run the unit is called, so the earlier one has ended there.
  have hended : .ended earlier ∈ machine'.trace := by
    by_contra hended
    exact hcalled (done'.skipped_behind hended hlt (lt_of_unit hunit') (crashes.width.symm ▸ hclass))
  refine ⟨hrecord, earlier, unit, ?_, place_of_unit hunit, hlt, hclass.symm, hcrashed⟩
  rw [place_of_unit hentry]
  by_contra hne
  obtain ⟨hfeature, hinstance⟩ := mem_of_unit hentry
  obtain ⟨panic, hends⟩ := done.ends_of_crashed hentry hcrashed
  obtain ⟨records, hends'⟩ := done'.ends_of_ended (crashes.units.symm ▸ hentry) hended
  exact crashes.crashes number first other hfeature hinstance (fun h => hne (congrArg some h)) panic
    records hends hends'

/-- The records of a place are the same but for their times, unless it is the place where two runs differ,
or its unit is cut off by a crash there in one of them. -/
def SameOrCutOff (runner : FeatureRunner σ ω) (features : List Feature)
    (machine machine' : Machine (σ × List Slot) (Option HookError)) (place other : Place)
    (record record' : Record) : Prop :=
  other ≠ place → record.untimed = record'.untimed ∨
    runner.CutOff features machine place other record ∨ runner.CutOff features machine' place other record'

/-- Where no unit of the place has crashed in either run, none is cut off. -/
theorem SameOrCutOff.sameBut {other : Place} {record record' : Record}
    (h : SameOrCutOff runner features machine machine' place other record record')
    (hcalm : ∀ unit, (runner.unitPlaces features)[unit]? = some place →
      .crashed unit ∉ machine.trace ∧ .crashed unit ∉ machine'.trace) :
    SameBut place other record record' := by
  intro hne
  obtain hsame | ⟨_, unit, _, hunit, _, _, _, hcrashed⟩ | ⟨_, unit, _, hunit, _, _, _, hcrashed⟩ := h hne
  · exact hsame
  · exact absurd hcrashed (hcalm unit hunit).1
  · exact absurd hcrashed (hcalm unit hunit).2

section Differ

variable (differ : left.DiffersAt right features place)

include differ

theorem DiffersAt.unitsFrom_eq (index : Nat) (features : List Feature) :
    right.unitsFrom index features = left.unitsFrom index features := by
  simp only [unitsFrom, differ.scheduled_eq]

theorem DiffersAt.poolWidth_eq (features : List Feature) :
    right.poolWidth features = left.poolWidth features := by
  rw [poolWidth, poolWidth, jobs_pooledPlan, jobs_pooledPlan, jobsFrom_eq, jobsFrom_eq, List.length_map,
    List.length_map, differ.unitsFrom_eq, differ.corresponds.options]

theorem DiffersAt.unitPlaces_eq (features : List Feature) :
    right.unitPlaces features = left.unitPlaces features := by
  rw [FeatureRunner.unitPlaces_eq, FeatureRunner.unitPlaces_eq, differ.unitsFrom_eq]

theorem DiffersAt.cutOff_iff {other : Place} {record : Record} :
    right.CutOff features machine place other record ↔ left.CutOff features machine place other record := by
  rw [CutOff, CutOff, differ.unitPlaces_eq, differ.poolWidth_eq]

theorem DiffersAt.crashesWith : left.CrashesWith right features place where
  units := differ.unitsFrom_eq 0 features
  width := differ.poolWidth_eq features
  crashes := by
    intro index feature instance_ hfeature hinstance hne panic records hends hends'
    cases differ.ending_agree hfeature hinstance hne hends hends'

theorem DiffersAt.crashesWith_symm : right.CrashesWith left features place where
  units := (differ.unitsFrom_eq 0 features).symm
  width := (differ.poolWidth_eq features).symm
  crashes := by
    intro index feature instance_ hfeature hinstance hne panic records hends hends'
    rw [differ.scheduled_eq] at hinstance
    cases differ.ending_agree hfeature hinstance hne hends' hends

end Differ

theorem DiffersAt.related_of_unit (differ : left.DiffersAt right features place)
    (done : left.WorkedOff features machine) (done' : right.WorkedOff features machine')
    (hunit : (left.unitsFrom 0 features)[unit]? = some (index, feature, instance_)) :
    EndRelated (SameOrCutOff left features machine machine' place) ⟨index, instance_.key⟩
      (machine.recordsOf unit) (machine'.recordsOf unit) := by
  have hunit' : (right.unitsFrom 0 features)[unit]? = some (index, feature, instance_) :=
    (differ.unitsFrom_eq 0 features).symm ▸ hunit
  -- A unit is skipped in both runs, in one of them only, or in neither.
  rcases done.skipped_or_seen hunit with ⟨hskipped, now, hrecords⟩ | ⟨hcalled, hseen⟩
  all_goals
    rcases done'.skipped_or_seen hunit' with ⟨hskipped', now', hrecords'⟩ | ⟨hcalled', hseen'⟩
  · rw [hrecords, hrecords']
    exact .of_untimed (fun _ _ hsame _ => .inl hsame) rfl
  · intro record hrecord record' _ _
    rw [hrecords] at hrecord
    cases hrecord
    exact .inr (.inl (differ.crashesWith.cutOff done done' hunit hskipped hcalled' rfl))
  · intro record _ record' hrecord' _
    rw [hrecords'] at hrecord'
    cases hrecord'
    refine .inr (.inr (differ.cutOff_iff.mp ?_))
    exact differ.crashesWith_symm.cutOff done' done hunit' hskipped' hcalled rfl
  · obtain ⟨hfeature, hinstance⟩ := mem_of_unit hunit
    have hsame := differ.endRelated_of_seen hfeature hinstance hseen hseen'
    exact hsame.imp fun _ _ hsame hne => .inl (hsame hne)

/-- The reports of features on two pools are aligned where those of their units are. -/
theorem DiffersAt.aligned_pooledReports {R : Place → Record → Record → Prop}
    (differ : left.DiffersAt right features place)
    (hR : ∀ place record record', record.untimed = record'.untimed → R place record record')
    (first index : Nat) (rest : List Feature)
    (h : ∀ offset number feature instance_,
      (left.unitsFrom index rest)[offset]? = some (number, feature, instance_) →
        EndRelated R ⟨number, instance_.key⟩ (machine.recordsOf (first + offset))
          (machine'.recordsOf (first + offset))) :
    Aligned (EndRelated R) (placesFrom left.unitKeys index rest)
      (left.pooledReports machine first rest).flatten
      (right.pooledReports machine' first rest).flatten := by
  induction rest generalizing first index with
  | nil => exact .nil
  | cons feature rest ih =>
      rw [placesFrom_cons, pooledReports, pooledReports, List.flatten_cons, List.flatten_cons,
        differ.unitReports_eq, differ.scheduled_eq]
      -- The units of the first feature have the first numbers, and those of the others follow.
      refine .append (aligned_unitReports hR index 0 0 (.map_left ?_)) (ih _ _ ?_)
      · refine .map_range _ fun offset instance_ hinstance => h offset index feature instance_ ?_
        have hlt := (List.getElem?_eq_some_iff.mp hinstance).1
        rw [unitsFrom_cons, List.getElem?_append_left (by simpa using hlt), List.getElem?_map, hinstance]
        rfl
      · intro offset number other instance_ hentry
        rw [Nat.add_assoc]
        refine h _ number other instance_ ?_
        rw [unitsFrom_cons, List.getElem?_append_right (by simp), List.length_map, Nat.add_sub_cancel_left]
        exact hentry

/-- Two runs of features on a pool have the same final records but at the place where they differ, and
where a crash there has cut off a unit. -/
theorem DiffersAt.placeByPlace_runScheduled? (differ : left.DiffersAt right features place)
    (calm : left.HooksAvoid features .crash) (calm' : right.HooksAvoid features .crash)
    (hdistinct : ∀ feature ∈ features, left.HasDistinctKeys feature)
    (hfast : left.options.failFast = false) {schedule schedule' : List Pool.Turn}
    (hstops : ∀ turn ∈ schedule, turn.stops = false) (hstops' : ∀ turn ∈ schedule', turn.stops = false)
    {state state' : σ} {runs runs' : FeatureRuns σ}
    (h : left.runScheduled? schedule false features state = some runs)
    (h' : right.runScheduled? schedule' false features state' = some runs') :
    PlaceByPlace (left.resultPlaces features)
      (SameOrCutOff left features (left.pooledMachine features schedule false state)
        (right.pooledMachine features schedule' false state') place)
      (Summary.ofResults runs.results).results (Summary.ofResults runs'.results).results := by
  have hfast' : right.options.failFast = false := differ.corresponds.options ▸ hfast
  have done := workedOff_of_runScheduled? calm hfast hstops h
  have done' := workedOff_of_runScheduled? calm' hfast' hstops' h'
  refine differ.placeByPlace hdistinct (allTold_of_runScheduled? h) (allTold_of_runScheduled? h') ?_
  refine differ.aligned_pooledReports (fun _ _ _ hsame _ => .inl hsame) 0 0 features ?_
  intro offset index feature instance_ hentry
  rw [Nat.zero_add]
  exact differ.related_of_unit done done' hentry

end Pooled

end Acceptance.FeatureRunner
