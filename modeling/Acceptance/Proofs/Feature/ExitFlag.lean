import Acceptance.Proofs.Feature.Attempts
import Acceptance.Proofs.Feature.Bracket

/-!
# The exit flag

A run is to be reported as failed if a final record is one of a failure, or a hook after a feature failed, or
one after a scenario. Hooks after a scenario are called after each attempt, but only those after the last
attempt count: what failed after an attempt that was retried is discarded with its record.
-/

namespace Acceptance

/-! ## What a summary shows -/

namespace Summary

theorem foldl_absorb_featureHookErrors (summary : Summary) (results : List FeatureResult) :
    (results.foldl absorb summary).featureHookErrors =
      summary.featureHookErrors ++ results.flatMap FeatureResult.hookErrors :=
  foldl_absorb (fun _ _ => rfl) summary results

/-- Something has failed in a run: a final record is one of a failure, a hook after a feature failed, or a
hook after one of the attempts that some records are of. -/
def Alarms (results : List FeatureResult) (records : List Record) : Prop :=
  (∃ record ∈ (ofResults results).results, record.status = .failed) ∨
    (∃ result ∈ results, result.hookErrors ≠ []) ∨ ∃ record ∈ records, record.afterHookErrors ≠ []

theorem executionFailed_iff (results : List FeatureResult) :
    (ofResults results).executionFailed = true ↔ Alarms results (ofResults results).results := by
  have hhooks : (ofResults results).featureHookErrors = results.flatMap FeatureResult.hookErrors := by
    rw [ofResults, foldl_absorb_featureHookErrors]
    rfl
  have hexists : (!(ofResults results).featureHookErrors.isEmpty) = true ↔
      ∃ result ∈ results, result.hookErrors ≠ [] := by
    simp [hhooks, List.flatMap_eq_nil_iff]
  have hafter : ((ofResults results).results.any fun record => !record.afterHookErrors.isEmpty) =
      true ↔ ∃ record ∈ (ofResults results).results, record.afterHookErrors ≠ [] := by
    simp
  rw [executionFailed, Bool.or_eq_true, Bool.or_eq_true, hasFailures_ofResults, hexists, hafter,
    or_assoc, Alarms]

/-- The exit flag of a run is told by the last attempts of its units. It sees all attempts unless a hook
failed after one that was retried, and nothing else did. -/
structure SeesLast (results : List FeatureResult) (reports : List (List Record)) : Prop where
  flag : (ofResults results).executionFailed = true ↔
    Alarms results (reports.filterMap List.getLast?)
  overlooked : ((ofResults results).executionFailed = true ↔ Alarms results reports.flatten) ↔
    ((ofResults results).executionFailed = false →
      ∀ report ∈ reports, ∀ record ∈ report.dropLast, record.afterHookErrors = [])

variable {results : List FeatureResult} {reports : List (List Record)}

theorem Alarms.mono {records more : List Record} (h : Alarms results records) (hsub : records ⊆ more) :
    Alarms results more := by
  obtain hfailed | hhook | ⟨record, hrecord, herrors⟩ := h
  · exact .inl hfailed
  · exact .inr (.inl hhook)
  · exact .inr (.inr ⟨record, hsub hrecord, herrors⟩)

theorem mem_dropLast_or_getLast? {report : List Record} {record : Record} (h : record ∈ report) :
    record ∈ report.dropLast ∨ report.getLast? = some record := by
  obtain rfl | ⟨earlier, last, rfl⟩ := List.eq_nil_or_concat' report
  · cases h
  · simpa [eq_comm] using h

/-- What has failed in a run at all has failed by the end of the last attempts, unless it is a hook after an
attempt that was retried. -/
theorem Alarms.last (h : Alarms results reports.flatten)
    (hretried : ∀ report ∈ reports, ∀ record ∈ report.dropLast, record.afterHookErrors = []) :
    Alarms results (reports.filterMap List.getLast?) := by
  obtain hfailed | hhook | ⟨record, hrecord, herrors⟩ := h
  · exact .inl hfailed
  · exact .inr (.inl hhook)
  · obtain ⟨report, hreport, hmem⟩ := List.mem_flatten.mp hrecord
    have hlast := (mem_dropLast_or_getLast? hmem).resolve_left fun hearlier =>
      herrors (hretried report hreport record hearlier)
    exact .inr (.inr ⟨record, List.mem_filterMap.mpr ⟨report, hreport, hlast⟩, herrors⟩)

/-- The exit flag is told by the last attempts where the results are their records. -/
theorem seesLast_of_results (h : (ofResults results).results = reports.filterMap List.getLast?) :
    SeesLast results reports := by
  have hflag : (ofResults results).executionFailed = true ↔
      Alarms results (reports.filterMap List.getLast?) := by rw [executionFailed_iff, h]
  refine ⟨hflag, ?_⟩
  constructor
  · -- An error after a retried attempt would be an alarm, so the flag would not be off.
    intro hall hquiet report hreport record hrecord
    by_contra herrors
    have hmem := List.mem_flatten.mpr ⟨report, hreport, List.dropLast_subset report hrecord⟩
    have halarm : Alarms results reports.flatten := .inr (.inr ⟨record, hmem, herrors⟩)
    exact Bool.false_ne_true (hquiet.symm.trans (hall.mpr halarm))
  · intro hretried
    constructor
    · intro hfailed
      apply (hflag.mp hfailed).mono
      intro record hrecord
      obtain ⟨report, hreport, hlast⟩ := List.mem_filterMap.mp hrecord
      exact List.mem_flatten.mpr ⟨report, hreport, List.mem_of_getLast? hlast⟩
    · intro halarm
      by_contra hquiet
      have hquiet : (ofResults results).executionFailed = false := by simpa using hquiet
      have hfailed := hflag.mpr (halarm.last (hretried hquiet))
      exact Bool.false_ne_true (hquiet.symm.trans hfailed)

end Summary

namespace FeatureRunner

open Pool (Machine)
open Acceptance.Task (Act)

variable {σ ω : Type} {runner : FeatureRunner σ ω} {features : List Feature} {feature : Feature}
  {index : Nat}

/-! ## Hooks after features -/

/-- The hooks after a feature were called if an instance of it was started, and ended with some errors; there
are none where they were not called, or crashed. -/
def ClosesWith (runner : FeatureRunner σ ω) (feature : Feature) (started : Prop)
    (errors : List HookError) : Prop :=
  (¬ started ∧ errors = []) ∨
    started ∧ ∃ failed acts, (runner.afterFeature feature failed).Ends acts (.finished errors) ∨
      errors = [] ∧ ∃ panic, (runner.afterFeature feature failed).Ends acts (.crashed panic)

section Pooled

variable {machine : Machine (σ × List Slot) (Option HookError)} {books : Books} {first last : Nat}
  {gates : List (Task (σ × List Slot) Event (Option HookError))} {records : List Record}

/-- An instance of a feature was started on a pool. -/
def IsStarted (runner : FeatureRunner σ ω) (features : List Feature) (index : Nat)
    (machine : Machine (σ × List Slot) (Option HookError)) : Prop :=
  ∃ unit, runner.owner features unit = some index ∧ .started unit ∈ machine.trace

/-- The last unit of a feature that tells its records was started, and ends unless the hooks after the
feature crash. -/
theorem Rested.last_ends (rested : runner.Rested features gates machine books)
    (hfeature : features[index]? = some feature)
    (hpending : books.pending (runner.owner features) index = 0)
    (hlast : (books.toldOf (runner.owner features) index).getLast? = some (last, records)) :
    .started last ∈ machine.trace ∧ (.ended last ∈ machine.trace ∨
      ∃ failed acts panic, (runner.afterFeature feature failed).Ends acts (.crashed panic)) := by
  have span := rested.spans index feature hfeature
  have htrace {mark : Pool.Mark}
      (h : mark ∈ Pool.marksAt (runner.owner features) index machine.trace) : mark ∈ machine.trace :=
    List.mem_of_mem_filter h
  generalize hmarks : Pool.marksAt (runner.owner features) index machine.trace = marks at span htrace
  cases span with
  | closed _ _ _ htold => rw [htold] at hlast; cases hlast
  | broken _ _ _ htold => rw [htold] at hlast; cases hlast
  | opened _ _ hwaiting => exact absurd hpending hwaiting
  | closing _ _ _ hlast' hall hclosing =>
      cases hlast.symm.trans hlast'
      obtain ⟨_, own, _, _, _, hcalled⟩ := hall.told
      have hstarted : .started last ∈ Pool.callMarks last (Task.events own) := List.mem_cons_self
      refine ⟨htrace (List.mem_append_left _ (Pool.mem_of_marksOf (hcalled ▸ hstarted))), ?_⟩
      cases hclosing with
      | calling => exact (rested.not_calling hmarks hall).elim
      | called => exact .inl (htrace (by simp))
      | crashed hends => exact .inr ⟨_, _, _, hends⟩

theorem isStarted_iff {rest : List Feature}
    (remaining : runner.Remaining features index first (feature :: rest)) :
    runner.IsStarted features index machine ↔
      ∃ offset < (runner.scheduled feature).length, wasStarted machine (first + offset) = true := by
  simp only [IsStarted, remaining.owner_iff, wasStarted_iff]
  constructor
  · rintro ⟨_, ⟨offset, hoffset, rfl⟩, hstarted⟩
    exact ⟨offset, hoffset, hstarted⟩
  · rintro ⟨offset, hoffset, hstarted⟩
    exact ⟨_, ⟨offset, hoffset, rfl⟩, hstarted⟩

/-- The result of a feature on a pool that is done holds what the hooks after the feature ended with, whether
its last unit has called them or they were called when the pool was done. -/
theorem Rested.closesWith (rested : runner.Rested features gates machine books) {rest : List Feature}
    (remaining : runner.Remaining features index first (feature :: rest)) {slot : Slot}
    (hslot : machine.shared.2[index]? = some slot) {late : List (Act σ Event)}
    {errors : List HookError} (hlate : Late runner machine first feature slot late errors) :
    runner.ClosesWith feature (runner.IsStarted features index machine)
      (slot.hookErrors ++ errors) := by
  have hfeature := remaining.getElem?_index
  have agrees := rested.ledger.slots.agrees index feature slot hfeature hslot
  by_cases hwaiting : slot.pending ≠ 0 ∨ runner.scheduled feature = []
  · -- Some unit never told its records, so only the pool itself may have called the hooks.
    obtain ⟨hopen, hnone⟩ := agrees.unfinished hwaiting
    rw [hnone, List.nil_append, isStarted_iff remaining]
    cases hlate with
    | called _ hstarted hafter => exact .inr ⟨hstarted, _, _, .inl hafter⟩
    | nothing hnothing =>
        refine .inl ⟨?_, rfl⟩
        rintro ⟨offset, hoffset, hstarted⟩
        have hnever := (hnothing.resolve_left (by simp [hopen])) offset hoffset
        exact Bool.false_ne_true (hnever.symm.trans hstarted)
  · -- All units have told their records, and the last of them has ended only with the hooks called.
    obtain ⟨hpending, hscheduled⟩ := not_or.mp hwaiting
    rw [not_not] at hpending
    obtain ⟨hfinished, last, records, hlast, hopened, hclosed⟩ := agrees.finished hpending hscheduled
    obtain ⟨hstarted, hends⟩ := rested.last_ends hfeature (agrees.pending ▸ hpending) hlast
    have hcalled : runner.IsStarted features index machine :=
      ⟨last, (mem_told_of_last hlast).2, hstarted⟩
    cases hlate with
    | called hopen => exact absurd (hopen.symm.trans hfinished) Bool.false_ne_true
    | nothing =>
        rw [List.append_nil]
        by_cases hended : .ended last ∈ machine.trace
        · obtain ⟨acts, hafter⟩ := hclosed hended
          exact .inr ⟨hcalled, _, acts, .inl hafter⟩
        · obtain ⟨failed, acts, panic, hcrashed⟩ := hends.resolve_left hended
          exact .inr ⟨hcalled, failed, acts, .inr ⟨hopened hended, panic, hcrashed⟩⟩

theorem Collected.closesWith {all : List Feature} {slots : List Slot}
    {lates : List (List (Act σ Event))} {results : List FeatureResult}
    (collected : Collected runner machine first features slots lates results)
    (rested : runner.Rested all gates machine books)
    (remaining : runner.Remaining all index first features)
    (hslots : machine.shared.2.drop index = slots) :
    ∀ offset feature result, features[offset]? = some feature → results[offset]? = some result →
      runner.ClosesWith feature (runner.IsStarted all (index + offset) machine) result.hookErrors := by
  intro offset feature result hfeature hresult
  obtain ⟨first, rest, slot, late, errors, here, hslot, hlate, _, hresults⟩ :=
    collected.exists_late remaining hslots hfeature
  cases hresult.symm.trans hresults
  exact rested.closesWith here hslot hlate

end Pooled

/-! ## Runs -/

/-- Where the keys of each feature are all different, the exit flag of a run is told by the last attempts of
its units, whether features are run one after another or on a pool. -/
theorem exitFlag_seesLast (runner : FeatureRunner σ ω) (features : List Feature)
    (hdistinct : ∀ feature ∈ features, runner.HasDistinctKeys feature) (stop : Bool) (state : σ) :
    (∀ runs, runner.runSequential? stop features state = some runs →
      ∃ acts reports, Task.events acts = runs.events ∧
        runner.FeaturesCourse stop features acts reports runs.results runs.stop ∧
        runner.AllProduce features reports ∧ Summary.SeesLast runs.results reports.flatten) ∧
    (∀ schedule runs, runner.runScheduled? schedule stop features state = some runs →
      ∃ machine reports, machine = runner.pooledMachine features schedule stop state ∧
        reports = runner.pooledReports machine 0 features ∧ runner.AllProduce features reports ∧
        (∀ index feature result, features[index]? = some feature →
          runs.results[index]? = some result →
            runner.ClosesWith feature (runner.IsStarted features index machine) result.hookErrors) ∧
        Summary.SeesLast runs.results reports.flatten) := by
  constructor
  · intro runs h
    obtain ⟨acts, reports, hevents, course, told⟩ := exists_course h
    have faithful := told.faithful_iff.mpr hdistinct
    exact ⟨acts, reports, hevents, course, course.allProduce,
      Summary.seesLast_of_results faithful.results⟩
  · intro schedule runs h
    obtain ⟨hcomplete, lates, collected, _⟩ := collected_of_runScheduled? h
    obtain ⟨books, ledger, spans⟩ := exists_spans runner features schedule stop state
    have rested : runner.Rested features _ (runner.pooledMachine features schedule stop state) books :=
      ⟨ledger, spans, fun _ _ hjob => exists_settled hcomplete hjob⟩
    have faithful := (allTold_of_runScheduled? h).faithful_iff.mpr hdistinct
    have hcloses := collected.closesWith rested (remaining_all features) rfl
    simp only [Nat.zero_add] at hcloses
    exact ⟨_, _, rfl, rfl, allProduce_of_runScheduled? h, hcloses,
      Summary.seesLast_of_results faithful.results⟩

/-- A runner as `fragile` that retries once. Each first attempt fails, and so does the hook after it. -/
def settling : FeatureRunner PUnit PUnit :=
  { fragile with
    suite := { fragile.suite with
      fallback := some fun context =>
        .done (some (.done (if context.attempt = 1 then .error "too soon" else .ok ⟨⟩)))
      hooks := Hooks.register {} .after
        { withWorld := fun context =>
            .done (.done (if context.attempt = 1 then .error "left open" else .ok ⟨⟩))
          alone := fun _ => .done (.done (.ok ⟨⟩)) } [] 0 }
    options := { retries := 1 } }

/-- A feature with a scenario of a single step. -/
def hinges : Feature where
  name := "Hinges"
  scenarios := [{ name := "oiling", steps := [.when "it settles"] }]

theorem hasDistinctKeys_hinges : ∀ feature ∈ [hinges], settling.HasDistinctKeys feature := by
  have hkeys : settling.unitKeys hinges = [⟨"Hinges", "oiling"⟩] := by cbv
  simp [HasDistinctKeys, hkeys]

/-- The exit flag does not show the failure of a hook after an attempt that is retried. -/
theorem settling_overlooks :
    ∃ runs report, settling.runSequential? false [hinges] ⟨⟩ = some runs ∧
      (∀ feature ∈ [hinges], settling.HasDistinctKeys feature) ∧
      (settling.selection hinges).instances.map
        (fun instance_ => ((settling.run instance_).run 0 ⟨⟩).ending) = [.finished report] ∧
      report.map Record.afterHookErrors = [[⟨.after, "left open"⟩], []] ∧
      (Summary.ofResults runs.results).results.map Record.status = [.passed] ∧
      (Summary.ofResults runs.results).discardedAttempts = 1 ∧
      (Summary.ofResults runs.results).executionFailed = false := by
  refine ⟨_, _, by cbv, hasDistinctKeys_hinges, by cbv, by cbv, by cbv, by cbv, by cbv⟩

theorem exitFlag_seesLast_hinges :
    ∃ runs acts reports, settling.runSequential? false [hinges] ⟨⟩ = some runs ∧
      settling.FeaturesCourse false [hinges] acts reports runs.results runs.stop ∧
      settling.AllProduce [hinges] reports ∧ Summary.SeesLast runs.results reports.flatten := by
  obtain ⟨runs, hruns⟩ : ∃ runs, settling.runSequential? false [hinges] ⟨⟩ = some runs := ⟨_, by cbv⟩
  obtain ⟨acts, reports, _, course, hproduce, hsees⟩ :=
    (exitFlag_seesLast settling [hinges] hasDistinctKeys_hinges false ⟨⟩).1 runs hruns
  exact ⟨runs, acts, reports, hruns, course, hproduce, hsees⟩

end FeatureRunner

end Acceptance
