import Acceptance.Proofs.Feature.Difference
import Acceptance.Proofs.Feature.Liveness
import Acceptance.Proofs.Feature.Selected

/-!
# Filters

A filter leaves out units and changes nothing about the others: where everything that is given from outside
is steady, a run with filters has the final records that the run without them has for the selected units,
in the same order.
-/

namespace Acceptance

variable {α β γ δ : Type}

/-- Reports that are the same but for times. -/
abbrev SameReport (report report' : List Record) : Prop :=
  report.map Record.untimed = report'.map Record.untimed

/-- One list has the entries of another one that belong to selected items, up to how entries are related. -/
inductive Sifted (selects : α → Bool) (R : β → γ → Prop) : List α → List β → List γ → Prop
  | nil : Sifted selects R [] [] []
  | kept {a b c as bs cs} (ha : selects a = true) (head : R b c) (tail : Sifted selects R as bs cs) :
      Sifted selects R (a :: as) (b :: bs) (c :: cs)
  | dropped {a c as bs cs} (ha : selects a = false) (tail : Sifted selects R as bs cs) :
      Sifted selects R (a :: as) bs (c :: cs)

namespace Sifted

variable {selects : α → Bool} {R : β → γ → Prop} {as as' : List α} {bs bs' : List β} {cs cs' : List γ}

theorem append (h : Sifted selects R as bs cs) (h' : Sifted selects R as' bs' cs') :
    Sifted selects R (as ++ as') (bs ++ bs') (cs ++ cs') := by
  induction h with
  | nil => exact h'
  | kept ha head _ ih => exact .kept ha head ih
  | dropped ha _ ih => exact .dropped ha ih

/-- What the selected items are related to is sifted from what all of them are related to. -/
theorem of_forall₂ {P : α → β → Prop} {Q : α → γ → Prop}
    (hleft : List.Forall₂ P (as.filter selects) bs) (hright : List.Forall₂ Q as cs)
    (h : ∀ a b c, P a b → Q a c → R b c) : Sifted selects R as bs cs := by
  induction hright generalizing bs with
  | nil =>
      cases hleft
      exact .nil
  | @cons a c as cs hc _ ih =>
      cases ha : selects a with
      | true =>
          rw [List.filter_cons_of_pos ha] at hleft
          obtain ⟨b, bs, hb, hbs, rfl⟩ := List.forall₂_cons_left_iff.mp hleft
          exact .kept ha (h a b c hb hc) (ih hbs)
      | false =>
          rw [List.filter_cons_of_neg (Bool.eq_false_iff.mp ha)] at hleft
          exact .dropped ha (ih hleft)

theorem map_filter {f : δ → α} {left : δ → β} {right : δ → γ} (items : List δ)
    (h : ∀ item, R (left item) (right item)) :
    Sifted selects R (items.map f) ((items.filter fun item => selects (f item)).map left)
      (items.map right) := by
  induction items with
  | nil => exact .nil
  | cons item items ih =>
      rw [List.filter_cons]
      cases hitem : selects (f item) with
      | true => exact .kept hitem (h item) ih
      | false => exact .dropped hitem ih

/-- Where entries are related by what they are mapped to, the one list can be computed from the other. -/
theorem map_eq {f : β → δ} {g : γ → δ} (h : Sifted selects (fun b c => f b = g c) as bs cs) :
    bs.map f = ((as.zip (cs.map g)).filter fun entry => selects entry.1).map Prod.snd := by
  induction h with
  | nil => rfl
  | kept ha head _ ih => simp [ha, head, ih]
  | dropped ha _ ih => simp [ha, ih]

/-- Reports that are the same but for times end with records that are. -/
theorem filterMap_getLast? {reports reports' : List (List Record)}
    (h : Sifted selects SameReport as reports reports') (hne : ∀ report ∈ reports', report ≠ []) :
    Sifted selects (fun record record' => record.untimed = record'.untimed) as
      (reports.filterMap List.getLast?) (reports'.filterMap List.getLast?) := by
  induction h with
  | nil => exact .nil
  | @kept a report report' as reports reports' ha head _ ih =>
      obtain ⟨hhead, htail⟩ := List.forall_mem_cons.mp hne
      have hlast := congrArg List.getLast? head
      have hlast' := List.getLast?_eq_some_getLast hhead
      rw [List.getLast?_map, List.getLast?_map, hlast', Option.map_some, Option.map_eq_some_iff] at hlast
      obtain ⟨record, hrecord, hsame⟩ := hlast
      rw [List.filterMap_cons_some hrecord, List.filterMap_cons_some hlast']
      exact .kept ha hsame (ih htail)
  | @dropped a report' as reports reports' ha _ ih =>
      obtain ⟨hhead, htail⟩ := List.forall_mem_cons.mp hne
      rw [List.filterMap_cons_some (List.getLast?_eq_some_getLast hhead)]
      exact .dropped ha (ih htail)

end Sifted

namespace FeatureRunner

variable {σ ω : Type} {runner : FeatureRunner σ ω} {feature : Feature} {features : List Feature}

/-! ## Units -/

theorem unitKeys_eq_map (feature : Feature) :
    runner.unitKeys feature = (runner.unitInstances feature).map Instance.key := by
  simp [unitKeys, unitInstances]

theorem HasDistinctKeys.of_unfiltered (h : runner.unfiltered.HasDistinctKeys feature) :
    runner.HasDistinctKeys feature := by
  rw [HasDistinctKeys, unitKeys_eq_map, unitInstances_eq_filter]
  rw [HasDistinctKeys, unitKeys_eq_map] at h
  exact h.sublist (List.filter_sublist.map Instance.key)

/-! ## Instances -/

theorem run_unfiltered (instance_ : Instance) : runner.unfiltered.run instance_ = runner.run instance_ :=
  runner.run_selecting runner.options.unfiltered instance_

theorem ScenariosAvoid.of_unfiltered {mishap : Task.Mishap}
    (h : runner.unfiltered.ScenariosAvoid features mishap) : runner.ScenariosAvoid features mishap := by
  intro feature hfeature hbefore instance_ hinstance
  rw [scheduled_eq_filter] at hinstance
  rw [← run_unfiltered]
  exact h feature hfeature hbefore instance_ (List.mem_filter.mp hinstance).1

theorem HooksAvoid.of_unfiltered {mishap : Task.Mishap}
    (h : runner.unfiltered.HooksAvoid features mishap) : runner.HooksAvoid features mishap := by
  have hscheduled (feature : Feature) (hsome : runner.scheduled feature ≠ []) :
      runner.unfiltered.scheduled feature ≠ [] := by
    intro hnil
    rw [scheduled_eq_filter, hnil] at hsome
    exact hsome rfl
  exact ⟨fun feature hfeature hsome => h.before feature hfeature (hscheduled feature hsome),
    fun feature hfeature hsome => h.after feature hfeature (hscheduled feature hsome)⟩

theorem UnitsAvoid.of_unfiltered {mishap : Task.Mishap}
    (h : runner.unfiltered.UnitsAvoid features mishap) : runner.UnitsAvoid features mishap :=
  ⟨h.hooks.of_unfiltered, h.scenarios.of_unfiltered⟩

/-- What is seen of an instance with filters is what is seen of it without them, but for times. -/
theorem untimed_seen (steady : runner.Steady) {instance_ : Instance} {report report' : List Record}
    (seen : runner.Seen feature instance_ report)
    (seen' : runner.unfiltered.Seen feature instance_ report') : SameReport report report' := by
  obtain ⟨ending, hends, hreport⟩ := seen
  obtain ⟨ending', hends', hreport'⟩ := seen'
  have hhooks : Task.Agree (· = ·) (runner.beforeFeature feature)
      (runner.unfiltered.beforeFeature feature) :=
    beforeFeature_agree (steady.agreeAlone .beforeFeature (featureContext feature none))
  have hrun := steady.run instance_
  rw [← run_unfiltered] at hrun
  exact hreport.untimed_eq hreport' (hends.agree hhooks (run_unfiltered instance_ ▸ hrun) hends')

/-! ## Reports -/

/-- The reports of a feature with filters are sifted from those without them. -/
theorem sifted_unitReports (steady : runner.Steady) {reports reports' : List (List Record)}
    (h : runner.Scheduled (runner.Seen feature) feature reports)
    (h' : runner.unfiltered.Scheduled (runner.unfiltered.Seen feature) feature reports') :
    Sifted runner.options.selects SameReport (runner.unfiltered.unitInstances feature) reports
      reports' := by
  obtain ⟨now, told, rfl, htold⟩ := h
  obtain ⟨now', told', rfl, htold'⟩ := h'
  have hfailed : (runner.selection feature).failed = _ := Selection.failed_eq_filter
  have hinstances : (runner.selection feature).instances = _ := Selection.instances_eq_filter
  rw [unitReports, unitReports, known, known, List.map_append, List.map_append, List.append_assoc,
    List.append_assoc]
  refine .append ?_ ?_
  · rw [List.map_map, List.map_map, hfailed]
    exact .map_filter _ fun _ => rfl
  · unfold scheduled at htold htold'
    split
    next hdry =>
      -- Nothing is run, so all instances are known to be skipped.
      have hdry' : runner.unfiltered.options.dryRun = true := hdry
      rw [if_pos hdry] at htold
      rw [if_pos hdry'] at htold' ⊢
      cases htold
      cases htold'
      have hsame (instance_ : Instance) :
          SameReport [Record.skipped instance_ now] [Record.skipped instance_ now'] := rfl
      have hskipped : Sifted runner.options.selects SameReport (List.map id _) _ _ :=
        .map_filter (runner.unfiltered.selection feature).instances hsame
      rw [List.append_nil, List.append_nil, hinstances, List.map_map, List.map_map]
      rwa [List.map_id] at hskipped
    next hdry =>
      have hdry' : ¬ runner.unfiltered.options.dryRun = true := hdry
      rw [if_neg hdry, hinstances] at htold
      rw [if_neg hdry'] at htold' ⊢
      exact .of_forall₂ htold htold' fun _ _ _ => untimed_seen steady

theorem sifted_reports (steady : runner.Steady) {reports reports' : List (List (List Record))}
    (h : List.Forall₂ (fun feature => runner.Scheduled (runner.Seen feature) feature) features reports)
    (h' : List.Forall₂ (fun feature => runner.unfiltered.Scheduled (runner.unfiltered.Seen feature) feature)
      features reports') :
    Sifted runner.options.selects SameReport (features.flatMap runner.unfiltered.unitInstances)
      reports.flatten reports'.flatten := by
  induction h generalizing reports' with
  | nil =>
      cases h'
      exact .nil
  | cons hhead _ ih =>
      cases h' with
      | cons hhead' htail' => exact .append (sifted_unitReports steady hhead hhead') (ih htail')

/-! ## Runs -/

/-- A run that is not stopped is told by one without a pool, but for times. -/
theorem IsRun.exists_sequential (steady : runner.Steady) (calm : runner.UnitsAvoid features .crash)
    (hdistinct : ∀ feature ∈ features, runner.HasDistinctKeys feature)
    (hfast : runner.options.failFast = false) {stopped : Bool} {runs : FeatureRuns σ}
    (h : runner.IsRun features stopped runs) (hstopped : stopped = false) :
    ∃ state single, runner.runSequential? false features state = some single ∧
      (Summary.ofResults runs.results).results.map Record.untimed =
        (Summary.ofResults single.results).results.map Record.untimed := by
  cases h with
  | @sequential _ state _ h => exact ⟨state, runs, hstopped ▸ h, rfl⟩
  | @pooled schedule stop state _ h =>
      obtain ⟨rfl, hstops⟩ := Bool.or_eq_false_iff.mp hstopped
      have hstops : ∀ turn ∈ schedule, turn.stops = false := by simpa using hstops
      obtain ⟨pooled, single, hpooled, hsingle, hsame, _⟩ :=
        exists_same_summary steady calm hdistinct hfast hstops (collected_of_runScheduled? h).1 0
      cases h.symm.trans hpooled
      exact ⟨state, single, (run?_one 0 false features state).symm.trans hsingle,
        congrArg Summary.results hsame⟩

/-- The final records of a run with filters are sifted from those of one without them. -/
theorem sifted_runSequential? (steady : runner.Steady)
    (hdistinct : ∀ feature ∈ features, runner.unfiltered.HasDistinctKeys feature)
    (hfast : runner.options.failFast = false) {state state' : σ} {runs runs' : FeatureRuns σ}
    (h : runner.runSequential? false features state = some runs)
    (h' : runner.unfiltered.runSequential? false features state' = some runs') :
    Sifted runner.options.selects (fun record record' => record.untimed = record'.untimed)
      (features.flatMap runner.unfiltered.unitInstances) (Summary.ofResults runs.results).results
      (Summary.ofResults runs'.results).results := by
  obtain ⟨_, reports, _, course, told⟩ := exists_course h
  obtain ⟨_, reports', _, course', told'⟩ := exists_course h'
  rw [Summary.results_ofResults, Summary.results_ofResults, told'.records_eq hdistinct,
    told.records_eq fun feature hfeature => (hdistinct feature hfeature).of_unfiltered]
  have hfast' : runner.unfiltered.options.failFast = false := hfast
  exact (sifted_reports steady (course.seen hfast) (course'.seen hfast')).filterMap_getLast? told'.nonempty

/-- Filters only leave out. The units that are selected are those among all units that pass the filters,
with the names and numbers that they have without them. Where everything that is given from outside is
steady and no unit crashes, the final records of a run with filters are exactly those of a run without
them for the units that pass, in the same order and but for times, whether features are run one after
another or on a pool, and in whatever order its workers take turns. Where nothing hangs, all such runs come
to an end. -/
theorem filters_only_leave_out (steady : runner.Steady)
    (calm : runner.unfiltered.UnitsAvoid features .crash)
    (hdistinct : ∀ feature ∈ features, runner.unfiltered.HasDistinctKeys feature)
    (hfast : runner.options.failFast = false) :
    features.flatMap runner.unitInstances =
      (features.flatMap runner.unfiltered.unitInstances).filter runner.options.selects ∧
    (∀ runs runs', runner.IsRun features false runs → runner.unfiltered.IsRun features false runs' →
      List.Forall₂ Record.IsOf (features.flatMap runner.unfiltered.unitInstances)
        (Summary.ofResults runs'.results).results ∧
      (Summary.ofResults runs.results).results.map Record.untimed =
        (((features.flatMap runner.unfiltered.unitInstances).zip
          ((Summary.ofResults runs'.results).results.map Record.untimed)).filter fun entry =>
            runner.options.selects entry.1).map Prod.snd) ∧
    (runner.unfiltered.UnitsAvoid features .hang → ∀ either ∈ [runner, runner.unfiltered], ∀ state,
      (∃ runs, either.runSequential? false features state = some runs) ∧
      ∀ schedule, ∃ later : List Pool.Turn, (∀ turn ∈ later, turn.stops = false) ∧
        ∃ runs, either.runScheduled? (schedule ++ later) false features state = some runs) := by
  refine ⟨?_, ?_, ?_⟩
  · rw [List.filter_flatMap]
    exact congrArg (List.flatMap · features) (funext unitInstances_eq_filter)
  · intro runs runs' h h'
    refine ⟨h'.results_isOf hdistinct, ?_⟩
    obtain ⟨state, single, hsingle, hsame⟩ := h.exists_sequential steady calm.of_unfiltered
      (fun feature hfeature => (hdistinct feature hfeature).of_unfiltered) hfast rfl
    obtain ⟨state', single', hsingle', hsame'⟩ :=
      h'.exists_sequential (steady.selecting runner.options.unfiltered) calm hdistinct hfast rfl
    rw [hsame, hsame']
    exact (sifted_runSequential? steady hdistinct hfast hsingle hsingle').map_eq
  · intro live either heither state
    have hlive : either.IsLive features := by
      rcases List.mem_cons.mp heither with rfl | heither
      · exact ⟨live.of_unfiltered, calm.hooks.of_unfiltered⟩
      · exact List.mem_singleton.mp heither ▸ ⟨live, calm.hooks⟩
    exact ⟨hlive.exists_runSequential? false state, fun schedule => hlive.exists_runs schedule false state⟩

/-! ## A row by itself -/

/-- The runner with two workers that is in no hurry, for what is tagged as wide. -/
def sparing : FeatureRunner PUnit PUnit :=
  { unhurried with options := { workers := 2, includeTags := some (.tag "wide") } }

/-- A feature with a template of two rows, the second of which is tagged, a scenario, and a template whose
examples cannot be had. -/
def sashes : Feature where
  name := "Sashes"
  scenarios :=
    [{ name := "a <size> one", steps := [.when "it works"]
       examples :=
        [{ headers := ["size"], rows := [["small"]] },
          { headers := ["size"], rows := [["large"]], tags := ["@wide"] }] },
      { name := "opening", steps := [.when "it breaks"] },
      { name := "another <size> one", tags := ["wide"], steps := [.when "it works"]
        examples := [{ external := some "missing" }] }]

theorem steady_sparing : sparing.Steady := steady_unhurried.selecting sparing.options

theorem scenariosAvoid_sparing (mishap : Task.Mishap) :
    sparing.unfiltered.ScenariosAvoid [sashes] mishap := by
  have hall : (sparing.unfiltered.scheduled sashes).all (fun instance_ =>
      ((sparing.unfiltered.run instance_).run 0 ⟨⟩).ending.value?.isSome) = true := by decide +kernel
  refine scenariosAvoid_of_steady (steady_unhurried.selecting sparing.unfiltered.options) 0 ⟨⟩ ?_ mishap
  rw [List.forall_mem_singleton]
  exact List.all_eq_true.mp hall

theorem unitsAvoid_sparing (mishap : Task.Mishap) : sparing.unfiltered.UnitsAvoid [sashes] mishap :=
  ⟨hooksAvoid_of_answered isAnswered_unhurried _ mishap, scenariosAvoid_sparing mishap⟩

theorem hasDistinctKeys_sashes : sparing.unfiltered.HasDistinctKeys sashes := by
  unfold HasDistinctKeys
  decide +kernel

/-- The second row keeps its name and its number although the first one is left out, and the pool that runs
it comes to what has been run without filters. -/
theorem filters_only_leave_out_sashes :
    ∃ runs runs', sparing.IsRun [sashes] false runs ∧ sparing.unfiltered.IsRun [sashes] false runs' ∧
      (Summary.ofResults runs.results).results.map (fun record => (record.key.scenario, record.iteration)) =
        [("another <size> one", none), ("a large one (example 2)", some 2)] ∧
      (Summary.ofResults runs'.results).results.map (fun record => (record.key.scenario, record.iteration)) =
        [("another <size> one", none), ("a small one (example 1)", some 1),
          ("a large one (example 2)", some 2), ("opening", none)] ∧
      (Summary.ofResults runs.results).results.map Record.untimed =
        ((([sashes].flatMap sparing.unfiltered.unitInstances).zip
          ((Summary.ofResults runs'.results).results.map Record.untimed)).filter fun entry =>
            sparing.options.selects entry.1).map Prod.snd ∧
      ∀ schedule, ∃ later : List Pool.Turn, (∀ turn ∈ later, turn.stops = false) ∧
        ∃ runs, sparing.runScheduled? (schedule ++ later) false [sashes] ⟨⟩ = some runs := by
  obtain ⟨-, hsame, hends⟩ := filters_only_leave_out steady_sparing (unitsAvoid_sparing .crash)
    (List.forall_mem_singleton.mpr hasDistinctKeys_sashes) rfl
  have hpooled : (sparing.runScheduled? [⟨0, 1, false⟩, ⟨0, 1, false⟩, ⟨0, 1, false⟩] false [sashes] ⟨⟩).map
      (fun runs => (Summary.ofResults runs.results).results.map fun record =>
        (record.key.scenario, record.iteration)) =
      some [("another <size> one", none), ("a large one (example 2)", some 2)] := by
    decide +kernel
  have hsequential : (sparing.unfiltered.runSequential? false [sashes] ⟨⟩).map
      (fun runs => (Summary.ofResults runs.results).results.map fun record =>
        (record.key.scenario, record.iteration)) =
      some [("another <size> one", none), ("a small one (example 1)", some 1),
        ("a large one (example 2)", some 2), ("opening", none)] := by
    decide +kernel
  obtain ⟨runs, hruns, hresults⟩ := Option.map_eq_some_iff.mp hpooled
  obtain ⟨runs', hruns', hresults'⟩ := Option.map_eq_some_iff.mp hsequential
  have h : sparing.IsRun [sashes] false runs := .pooled hruns
  have h' : sparing.unfiltered.IsRun [sashes] false runs' := .sequential hruns'
  exact ⟨runs, runs', h, h', hresults, hresults', (hsame runs runs' h h').2,
    (hends (unitsAvoid_sparing .hang) sparing List.mem_cons_self ⟨⟩).2⟩

end FeatureRunner

end Acceptance
