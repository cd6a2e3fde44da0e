import Acceptance.Aggregate
import Acceptance.Pool
import Acceptance.ScenarioRun
import Acceptance.Selection

/-!
# Runs of features

The selected instances of each feature run between the hooks of the feature, either one after another
or on a pool that all features share. A hook before the feature that fails makes all of its instances
fail. The hooks of a feature are called only if one of its instances is started.
-/

namespace Acceptance

/-- The outcome of a feature: its final records, what was noticed when its scenarios were expanded,
and the hooks after it that failed. -/
structure FeatureResult where
  aggregate : Aggregate := {}
  warnings : List ExpansionWarning := []
  usedColumns : List UsedColumns := []
  hookErrors : List HookError := []
deriving Inhabited

/-- What runs features. -/
structure FeatureRunner (σ ω : Type) extends ScenarioRunner σ ω where
  source : Option ExamplesSource

/-- The progress of a feature on a pool: the number of its units that have not ended, whether one of
them or a template failed, whether the hooks after it were called, and which of them failed. -/
structure Slot where
  pending : Nat
  failed : Bool
  finished : Bool := false
  hookErrors : List HookError := []
deriving DecidableEq, Inhabited

/-- The outcomes of some features, whether the start of further scenarios is stopped, the state that
is left, and what was reported on the way. -/
structure FeatureRuns (σ : Type) where
  results : List FeatureResult
  stop : Bool
  state : σ
  events : List Event

namespace FeatureRunner

variable {σ ω : Type}

/-- What the hooks of a feature are told. -/
def featureContext (feature : Feature) (status : Option Status) : HookContext :=
  { feature := feature.name, tags := feature.tags, status }

/-- Calls the hooks before a feature up to the first that fails. -/
def beforeFeature (runner : FeatureRunner σ ω) (feature : Feature) :
    Task σ Event (Option HookError) := do
  let context := featureContext feature none
  let (error, _) ← Suite.runHooks Suite.callAlone context
    (runner.suite.hooksFor .beforeFeature context) ⟨⟩
  pure error

/-- Calls all hooks after a feature, given whether it failed. -/
def afterFeature (runner : FeatureRunner σ ω) (feature : Feature) (failed : Bool) :
    Task σ Event (List HookError) := do
  let context := featureContext feature (some (if failed then .failed else .passed))
  let (errors, _) ← Suite.runAllHooks Suite.callAlone context
    (runner.suite.hooksFor .afterFeature context) ⟨⟩
  pure errors

/-- The record of a template that could not be expanded. -/
def failedTemplate (now : Nat) (template : Instance × ExamplesError) : Record :=
  .failed template.1 (.examples template.2.toText) now

/-- What is known of a feature before it runs, and the instances to run. Where nothing is to be run
they are recorded as skipped instead. -/
def select (runner : FeatureRunner σ ω) (now : Nat) (feature : Feature) :
    FeatureResult × List Instance :=
  let selection := Selection.ofFeature runner.options runner.source feature
  let failed := selection.failed.map (failedTemplate now)
  let result (records : List Record) : FeatureResult :=
    { aggregate := .ofRecords records
      warnings := selection.warnings
      usedColumns := selection.usedColumns }
  if runner.options.dryRun then
    (result (failed ++ selection.instances.map (Record.skipped · now)), [])
  else (result failed, selection.instances)

/-! ## One after another -/

/-- Runs an instance and gives its records. A crash outside of its steps and hooks makes it fail. -/
def runInstance (runner : FeatureRunner σ ω) (instance_ : Instance) :
    Task σ Event (List Record) := do
  match ← (runner.toScenarioRunner.run instance_).caught with
  | .ok records => pure records
  | .error panic => do
    let now ← Task.now
    pure [.failed instance_ (.workerCrashed panic.message) now]

/-- Runs instances in order until the start of further ones is stopped, which a failure does when
asked to; the others are skipped. -/
def runInstances (runner : FeatureRunner σ ω) (stop : Bool) :
    List Instance → Task σ Event (List Record × Bool)
  | [] => pure ([], stop)
  | instance_ :: rest => do
    let records ←
      if stop then do pure [.skipped instance_ (← Task.now)] else runner.runInstance instance_
    let stop := stop || (runner.options.failFast && Pool.Machine.endsFailed records)
    let (later, stop) ← runner.runInstances stop rest
    pure (records ++ later, stop)

/-- Runs a feature, and tells whether the start of further scenarios is stopped. -/
def runFeature (runner : FeatureRunner σ ω) (stop : Bool) (feature : Feature) :
    Task σ Event (FeatureResult × Bool) := do
  let now ← Task.now
  let (result, instances) := runner.select now feature
  if instances.isEmpty then pure (result, stop)
  else if stop then
    let skipped := instances.map (Record.skipped · now)
    pure ({ result with aggregate := result.aggregate.extend skipped }, stop)
  else do
    let (aggregate, stop) ← match ← runner.beforeFeature feature with
      | none => do
        let (records, stop) ← runner.runInstances stop instances
        pure (result.aggregate.merge (.ofRecords records), stop)
      | some error => do
        let now ← Task.now
        let failed := instances.map fun instance_ => Record.failed instance_ (.featureHook error) now
        pure (result.aggregate.extend failed, stop)
    let hookErrors ← runner.afterFeature feature aggregate.hasFailures
    pure ({ result with aggregate, hookErrors }, stop)

/-- Runs features one after another. -/
def runFeatures (runner : FeatureRunner σ ω) (stop : Bool) :
    List Feature → Task σ Event (List FeatureResult × Bool)
  | [] => pure ([], stop)
  | feature :: rest => do
    let (result, stop) ← runner.runFeature stop feature
    let (later, stop) ← runner.runFeatures stop rest
    pure (result :: later, stop)

/-! ## On a pool -/

/-- A selected feature: what is known of it, and its instances. -/
structure Selected where
  feature : Feature
  result : FeatureResult
  instances : List Instance

/-- Selects from features before a pool starts. -/
def selectAll (runner : FeatureRunner σ ω) (features : List Feature) : List Selected :=
  features.map fun feature =>
    let (result, instances) := runner.select 0 feature
    ⟨feature, result, instances⟩

/-- The slot of a feature before any of its units starts. -/
def slotOf (selected : Selected) : Slot :=
  { pending := selected.instances.length, failed := selected.result.aggregate.hasFailures }

/-- Changes the slot of a feature. -/
def modifySlot (index : Nat) (f : Slot → Slot) : Task (σ × List Slot) Event PUnit :=
  Task.modify fun state => (state.1, state.2.modify index f)

/-- The slot of a feature. -/
def getSlot (index : Nat) : Task (σ × List Slot) Event Slot := do
  pure ((← Task.get).2.getD index default)

/-- Notes the end of a unit of a feature, and calls the hooks after the feature when it was the last
one. -/
def endUnit (runner : FeatureRunner σ ω) (feature : Feature) (index : Nat) (failed : Bool) :
    Task (σ × List Slot) Event PUnit := do
  modifySlot index fun slot =>
    { slot with failed := slot.failed || failed, pending := slot.pending - 1 }
  let slot ← getSlot index
  if slot.pending = 0 then do
    modifySlot index fun slot => { slot with finished := true }
    let errors ← (runner.afterFeature feature slot.failed).onFirst
    modifySlot index fun slot => { slot with hookErrors := slot.hookErrors ++ errors }
  else pure ⟨⟩

/-- Runs an instance on a pool, given whether a hook before its feature failed. -/
def runUnit (runner : FeatureRunner σ ω) (feature : Feature) (index : Nat) (instance_ : Instance)
    (refused : Option HookError) : Task (σ × List Slot) Event (List Record) := do
  let records ← match refused with
    | none => (runner.toScenarioRunner.run instance_).onFirst
    | some error => do pure [.failed instance_ (.featureHook error) (← Task.now)]
  runner.endUnit feature index (Pool.Machine.endsFailed records)
  pure records

/-- The jobs for the instances of a feature. -/
def jobsOf (runner : FeatureRunner σ ω) (index : Nat) (selected : Selected) :
    List (Pool.Job (σ × List Slot) (Option HookError)) :=
  selected.instances.map fun instance_ =>
    { instance_
      gate := some index
      body := fun opened => runner.runUnit selected.feature index instance_ opened.join }

/-- What a pool has to do for some features. -/
def pooledPlan (runner : FeatureRunner σ ω) (features : List Selected) :
    Pool.Plan (σ × List Slot) (Option HookError) where
  jobs := (features.mapIdx runner.jobsOf).flatten
  failFast := runner.options.failFast

/-- The pool for some features before its first turn. The gate of a feature calls the hooks before
it. -/
def pooledStart (runner : FeatureRunner σ ω) (features : List Selected) (stop : Bool) (state : σ) :
    Pool.Machine (σ × List Slot) (Option HookError) :=
  Pool.start runner.options.workers (runner.pooledPlan features)
    (features.map fun selected => (runner.beforeFeature selected.feature).onFirst)
    stop (state, features.map slotOf)

/-- Whether a unit of a pool was started. -/
def wasStarted {τ γ : Type} (machine : Pool.Machine τ γ) (unit : Nat) : Bool :=
  machine.trace.contains (.started unit)

/-- The outcomes of features after a pool, their units being counted from a number on. The hooks after
a feature are called now if one of its units was started and another one crashed or was skipped. -/
def collect (runner : FeatureRunner σ ω)
    (machine : Pool.Machine (σ × List Slot) (Option HookError)) (first : Nat) :
    List (Selected × Slot) → Task σ Event (List FeatureResult)
  | [] => pure []
  | (selected, slot) :: rest => do
    let units := (List.range selected.instances.length).map (first + ·)
    let aggregate := selected.result.aggregate.extend (units.flatMap machine.recordsOf)
    let late ←
      if units.any (wasStarted machine) && !slot.finished then
        runner.afterFeature selected.feature aggregate.hasFailures
      else pure []
    let result := { selected.result with aggregate, hookErrors := slot.hookErrors ++ late }
    let later ← runner.collect machine (first + selected.instances.length) rest
    pure (result :: later)

/-- The outcomes of features after a pool that is done. -/
def pooledResult? (runner : FeatureRunner σ ω) (features : List Selected)
    (machine : Pool.Machine (σ × List Slot) (Option HookError)) : Option (FeatureRuns σ) :=
  if machine.isComplete then
    let closing := (runner.collect machine 0 (features.zip machine.shared.2)).run machine.time
      machine.shared.1
    match closing.ending with
    | .finished results =>
      some
        { results, stop := machine.stop, state := closing.state,
          events := machine.trace.filterMap Pool.Mark.event? ++ closing.events }
    | _ => none
  else none

/-- Runs features on a pool with a given schedule. There is no result if the schedule ends before the
pool is done. -/
def runScheduled? (runner : FeatureRunner σ ω) (schedule : List Pool.Turn) (stop : Bool)
    (features : List Feature) (state : σ) : Option (FeatureRuns σ) :=
  let selected := runner.selectAll features
  runner.pooledResult? selected
    ((runner.pooledStart selected stop state).runSchedule (runner.pooledPlan selected) schedule)

/-- Runs features on a pool whose workers are polled in rounds, for at most a number of rounds. -/
def runPooled? (runner : FeatureRunner σ ω) (rounds : Nat) (stop : Bool) (features : List Feature)
    (state : σ) : Option (FeatureRuns σ) :=
  let selected := runner.selectAll features
  runner.pooledResult? selected
    ((runner.pooledStart selected stop state).runRounds (runner.pooledPlan selected) rounds)

/-- Runs features one after another. There is no result if one of them never ends. -/
def runSequential? (runner : FeatureRunner σ ω) (stop : Bool) (features : List Feature) (state : σ) :
    Option (FeatureRuns σ) :=
  let whole := (runner.runFeatures stop features).run 0 state
  match whole.ending with
  | .finished (results, stop) => some { results, stop, state := whole.state, events := whole.events }
  | _ => none

/-- Runs features: on a pool when there is more than one worker, else one after another. -/
def run? (runner : FeatureRunner σ ω) (rounds : Nat) (stop : Bool) (features : List Feature)
    (state : σ) : Option (FeatureRuns σ) :=
  if 1 < runner.options.workers then runner.runPooled? rounds stop features state
  else runner.runSequential? stop features state

end FeatureRunner

end Acceptance
