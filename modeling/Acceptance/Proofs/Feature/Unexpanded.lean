import Acceptance.Proofs.Feature.Liveness
import Acceptance.Proofs.Feature.Selected

/-!
# Templates that cannot be expanded

A template that cannot be expanded is filtered as it stands, with the tags of its feature and its own, since
there is no instance that has the tags of one of its blocks too. So it is left out of a run where only the
tags of a block would let it pass, and the failure is not reported.
-/

namespace Acceptance

/-! ## Tags that filters do not name -/

namespace Tag.Expression

/-- The tags that a condition names. -/
def names : Expression → List String
  | tag name => [name]
  | not operand => operand.names
  | and left right => left.names ++ right.names
  | or left right => left.names ++ right.names

/-- Tags that a condition does not name make no difference to it. -/
theorem eval_append {more : List String} (tags : List String) {condition : Expression}
    (h : ∀ name ∈ condition.names, ∀ tag ∈ more, normalize tag ≠ normalize name) :
    condition.eval (tags ++ more) = condition.eval tags := by
  induction condition with
  | tag name =>
      have hmore : more.any (fun present => normalize present == normalize name) = false := by
        rw [List.any_eq_false]
        exact fun present hpresent => by simpa using h name List.mem_cons_self present hpresent
      rw [eval, eval, List.any_append, hmore, Bool.or_false]
  | not operand ih => rw [eval, eval, ih h]
  | and left right ihleft ihright =>
      obtain ⟨hleft, hright⟩ := List.forall_mem_append.mp h
      rw [eval, eval, ihleft hleft, ihright hright]
  | or left right ihleft ihright =>
      obtain ⟨hleft, hright⟩ := List.forall_mem_append.mp h
      rw [eval, eval, ihleft hleft, ihright hright]

end Tag.Expression

namespace Options

/-- Whether tags pass the filters for tags. -/
def passes (options : Options) (tags : List String) : Bool :=
  options.includeTags.all (·.eval tags) && !options.excludeTags.any (·.eval tags)

/-- The tags that the filters name. -/
def namedTags (options : Options) : List String :=
  (options.includeTags.toList ++ options.excludeTags.toList).flatMap Tag.Expression.names

variable {options : Options}

theorem selects_eq_passes (hname : options.nameFilter = none) (instance_ : Instance) :
    options.selects instance_ = options.passes instance_.tags := by
  simp [selects, passes, hname]

theorem passes_append {more : List String} (tags : List String)
    (h : ∀ name ∈ options.namedTags, ∀ tag ∈ more, Tag.normalize tag ≠ Tag.normalize name) :
    options.passes (tags ++ more) = options.passes tags := by
  have heval (condition : Tag.Expression)
      (hnamed : condition ∈ options.includeTags.toList ++ options.excludeTags.toList) :
      condition.eval (tags ++ more) = condition.eval tags :=
    Tag.Expression.eval_append tags fun name hname =>
      h name (List.mem_flatMap.mpr ⟨condition, hnamed, hname⟩)
  unfold passes
  congr 1
  · cases hinclude : options.includeTags with
    | none => rfl
    | some condition => exact heval condition (by simp [hinclude])
  · cases hexclude : options.excludeTags with
    | none => rfl
    | some condition => exact congrArg Bool.not (heval condition (by simp [hexclude]))

end Options

/-- The tags that the instances of a block of examples have: those of the feature, of the template and of
the block. -/
def Examples.mergedTags (feature : Feature) (scenario : Scenario) (examples : Examples) : List String :=
  feature.tags ++ scenario.tags ++ examples.tags

namespace FeatureRunner

variable {σ ω : Type} {runner : FeatureRunner σ ω} {feature : Feature} {features : List Feature}
  {scenario : Scenario} {error : ExamplesError}

/-- A template that cannot be expanded and passes the filters as it stands is a unit. -/
theorem mem_failed (hscenario : scenario ∈ feature.scenarios)
    (hfails : Expansion.expand runner.source feature scenario = .error error)
    (hselects : runner.options.selects (.plain feature scenario) = true) :
    (Instance.plain feature scenario, error) ∈ (runner.selection feature).failed := by
  rw [selection, Selection.part_ofFeature Selection.failed rfl fun _ _ => rfl]
  refine List.mem_flatMap.mpr ⟨scenario, hscenario, ?_⟩
  simp [Selection.ofScenario, hfails, hselects]

/-- What is reported of a feature is in one of the results. -/
theorem AllTold.exists_told {S : Feature → List (List Record) → Prop}
    {reports : List (List (List Record))} {results : List FeatureResult}
    (told : runner.AllTold features reports results) (hall : List.Forall₂ S features reports)
    (hfeature : feature ∈ features) :
    ∃ report result, S feature report ∧ runner.Told feature report result ∧ result ∈ results := by
  induction told with
  | nil => cases hfeature
  | cons told _ ih =>
      obtain ⟨hfirst, hlater⟩ := List.forall₂_cons.mp hall
      rcases List.mem_cons.mp hfeature with rfl | hfeature
      · exact ⟨_, _, hfirst, told, List.mem_cons_self⟩
      · obtain ⟨report, result, hreport, htold, hmem⟩ := ih hlater hfeature
        exact ⟨report, result, hreport, htold, List.mem_cons_of_mem _ hmem⟩

/-- A run reports the failure of a template. -/
def Reports (runs : FeatureRuns σ) (feature : Feature) (scenario : Scenario) (error : ExamplesError) :
    Prop :=
  ∃ now, failedTemplate now (.plain feature scenario, error) ∈ (Summary.ofResults runs.results).results

theorem IsRun.reports_of_mem {stopped : Bool} {runs : FeatureRuns σ}
    (h : runner.IsRun features stopped runs) (hfeature : feature ∈ features)
    (hdistinct : runner.HasDistinctKeys feature)
    (hfailed : (Instance.plain feature scenario, error) ∈ (runner.selection feature).failed) :
    Reports runs feature scenario error := by
  obtain ⟨reports, told, hscheduled⟩ := h.exists_reports
  have hfateful : runner.IsFateful fun _ _ => True :=
    ⟨fun _ _ => trivial, fun _ _ _ => trivial, fun _ _ _ => trivial, fun _ _ _ _ => trivial⟩
  obtain ⟨_, result, ⟨now, instancesTold, rfl, _⟩, told, hresult⟩ :=
    told.exists_told (hscheduled _ hfateful) hfeature
  refine ⟨now, ?_⟩
  rw [Summary.results_ofResults]
  refine List.mem_flatMap.mpr ⟨result, hresult, ?_⟩
  rw [told.aggregate_eq hdistinct]
  refine List.mem_filterMap.mpr ⟨[failedTemplate now (.plain feature scenario, error)], ?_, rfl⟩
  exact List.mem_append_left _ (List.mem_map_of_mem (List.mem_append_left _ (List.mem_map_of_mem hfailed)))

theorem IsRun.passes_of_reports {stopped : Bool} {runs : FeatureRuns σ}
    (h : runner.IsRun features stopped runs) (hname : runner.options.nameFilter = none)
    (hreports : Reports runs feature scenario error) :
    runner.options.passes (feature.tags ++ scenario.tags) = true := by
  obtain ⟨now, hmem⟩ := hreports
  obtain ⟨_, _, instance_, hinstance, hisOf⟩ := h.exists_unit _ hmem
  have hselects := selects_of_mem_unitInstances hinstance
  rw [Options.selects_eq_passes hname, ← hisOf.tags] at hselects
  exact hselects

/-- Without a filter for names, the failure of a template that cannot be expanded is reported exactly where
the filters let the tags of its feature and its own pass, whatever the tags of its blocks are: by every
run, one after another or on a pool, stopped or not. So where the filters name no tag of a block, it is
reported if they let the tags of that block's instances pass. Where nothing hangs such runs come to an
end. -/
theorem unexpanded_reported_iff (hname : runner.options.nameFilter = none) (hfeature : feature ∈ features)
    (hdistinct : runner.HasDistinctKeys feature) (hscenario : scenario ∈ feature.scenarios)
    (hfails : Expansion.expand runner.source feature scenario = .error error) :
    (∀ stopped runs, runner.IsRun features stopped runs →
      (Reports runs feature scenario error ↔
        runner.options.passes (feature.tags ++ scenario.tags) = true) ∧
      ∀ examples ∈ scenario.examples,
        (∀ name ∈ runner.options.namedTags, ∀ tag ∈ examples.tags,
          Tag.normalize tag ≠ Tag.normalize name) →
        runner.options.passes (examples.mergedTags feature scenario) = true →
          Reports runs feature scenario error) ∧
    (runner.IsLive features → ∀ stop state,
      (∃ runs, runner.runSequential? stop features state = some runs) ∧
      ∀ schedule, ∃ later : List Pool.Turn, (∀ turn ∈ later, turn.stops = false) ∧
        ∃ runs, runner.runScheduled? (schedule ++ later) stop features state = some runs) := by
  constructor
  · intro stopped runs h
    have hreported : runner.options.passes (feature.tags ++ scenario.tags) = true →
        Reports runs feature scenario error := fun hpasses =>
      h.reports_of_mem hfeature hdistinct (mem_failed hscenario hfails
        ((Options.selects_eq_passes hname _).trans hpasses))
    refine ⟨⟨h.passes_of_reports hname, hreported⟩, ?_⟩
    intro examples _ hunnamed hpasses
    rw [Examples.mergedTags, Options.passes_append _ hunnamed] at hpasses
    exact hreported hpasses
  · intro live stop state
    exact ⟨live.exists_runSequential? stop state, fun schedule => live.exists_runs schedule stop state⟩

/-! ## A template that is left out -/

/-- The runner of `fragile` for what is tagged as slow. -/
def patient : FeatureRunner PUnit PUnit :=
  { fragile with options := { includeTags := some (.tag "slow") } }

/-- A template with a block whose examples cannot be had. The block is tagged. -/
def closing : Scenario where
  name := "closing"
  steps := [.when "it works"]
  examples := [{ external := some "missing", tags := ["slow"] }]

/-- A feature with this template, tagged or not. -/
def latches (tags : List String) : Feature := { name := "Latches", tags, scenarios := [closing] }

theorem expand_closing (tags : List String) :
    Expansion.expand patient.source (latches tags) closing = .error (.noSource "missing") := rfl

/-- Where the feature itself has the tag the failure is reported. -/
theorem unexpanded_reported_latches :
    ∃ runs, patient.runSequential? false [latches ["slow"]] ⟨⟩ = some runs ∧
      Reports runs (latches ["slow"]) closing (.noSource "missing") := by
  have hends : (patient.runSequential? false [latches ["slow"]] ⟨⟩).isSome = true := by decide +kernel
  obtain ⟨runs, hruns⟩ := Option.isSome_iff_exists.mp hends
  have hdistinct : patient.HasDistinctKeys (latches ["slow"]) := by
    unfold HasDistinctKeys
    decide +kernel
  obtain ⟨hreports, -⟩ := (unexpanded_reported_iff rfl List.mem_cons_self hdistinct List.mem_cons_self
    (expand_closing ["slow"])).1 false runs (.sequential hruns)
  exact ⟨runs, hruns, hreports.mpr (by decide)⟩

/-- Where only the block has the tag, its instances would pass the filter, but the run ends without a
result. -/
theorem latches_dropped :
    patient.options.nameFilter = none ∧ closing ∈ (latches []).scenarios ∧
      Expansion.expand patient.source (latches []) closing = .error (.noSource "missing") ∧
      (∃ examples ∈ closing.examples,
        patient.options.passes (examples.mergedTags (latches []) closing) = true) ∧
      ∃ runs, patient.runSequential? false [latches []] ⟨⟩ = some runs ∧
        (Summary.ofResults runs.results).results = [] ∧
        ¬ Reports runs (latches []) closing (.noSource "missing") := by
  have hends : (patient.runSequential? false [latches []] ⟨⟩).map
      (fun runs => (Summary.ofResults runs.results).results) = some [] := by
    decide +kernel
  obtain ⟨runs, hruns, hresults⟩ := Option.map_eq_some_iff.mp hends
  refine ⟨rfl, List.mem_cons_self, expand_closing [], ⟨_, List.mem_cons_self, by decide⟩, runs, hruns,
    hresults, ?_⟩
  rintro ⟨now, hmem⟩
  rw [hresults] at hmem
  cases hmem

end FeatureRunner

end Acceptance
