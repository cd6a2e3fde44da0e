import Acceptance.Proofs.Aggregate.Latest
import Acceptance.Proofs.Feature.Attempts

/-!
# Conservation of records

No record gets lost on its way from a unit to the summary of a run: it is among the results, or it is counted
as one of a discarded attempt. The counts of a summary are those of its results.
-/

namespace Acceptance

theorem Stats.ofRecords_append (before after : List Record) :
    Stats.ofRecords (before ++ after) = Stats.ofRecords before + Stats.ofRecords after := by
  simp only [Stats.ofRecords, List.countP_append]
  rfl

namespace Summary

/-- The books of a summary balance for a number of records that were produced: each of them is a result or
was discarded, and the counts are those of the results. -/
structure Balances (summary : Summary) (produced : Nat) : Prop where
  conserved : summary.results.length + summary.discardedAttempts = produced
  passed : summary.stats.passed = summary.results.countP fun record => record.status = .passed
  failed : summary.stats.failed = summary.results.countP fun record => record.status = .failed
  skipped : summary.stats.skipped = summary.results.countP fun record => record.status = .skipped
  retried : summary.stats.retried = summary.results.countP fun record => 1 < record.attempt
  total : summary.stats.total = summary.results.length
  failures : summary.hasFailures = true ↔ ∃ record ∈ summary.results, record.status = .failed

variable {summary : Summary} {produced : Nat}

theorem balances_of_stats (hstats : summary.stats = .ofRecords summary.results)
    (hconserved : summary.results.length + summary.discardedAttempts = produced) :
    summary.Balances produced where
  conserved := hconserved
  passed := by rw [hstats]; rfl
  failed := by rw [hstats]; rfl
  skipped := by rw [hstats]; rfl
  retried := by rw [hstats]; rfl
  total := by rw [hstats, Stats.total_ofRecords]
  failures := by simp [hasFailures, hstats, Stats.ofRecords, List.countP_pos_iff]

theorem Balances.stats (h : summary.Balances produced) :
    summary.stats = .ofRecords summary.results := by
  have hpassed := h.passed
  have hfailed := h.failed
  have hskipped := h.skipped
  have hretried := h.retried
  generalize summary.stats = stats at hpassed hfailed hskipped hretried ⊢
  obtain ⟨passed, failed, skipped, retried⟩ := stats
  simp [Stats.ofRecords, ← hpassed, ← hfailed, ← hskipped, ← hretried]

theorem balances_empty : Summary.Balances {} 0 :=
  balances_of_stats rfl rfl

/-- The books of a summary still balance when it takes in the records of a further feature. -/
theorem Balances.absorb (h : summary.Balances produced) {result : FeatureResult}
    {records : List Record} (hresult : result.aggregate = .ofRecords records) :
    (summary.absorb result).Balances (produced + records.length) := by
  apply balances_of_stats
  · change summary.stats + .ofRecords result.aggregate.records =
      .ofRecords (summary.results ++ result.aggregate.records)
    rw [h.stats, Stats.ofRecords_append]
  · change (summary.results ++ result.aggregate.records).length +
      (summary.discardedAttempts + result.aggregate.discarded) = produced + records.length
    have hkept := Aggregate.size_add_discarded records
    rw [← hresult, Aggregate.size] at hkept
    rw [List.length_append, ← h.conserved, ← hkept]
    omega

end Summary

namespace FeatureRunner

variable {σ ω : Type} {runner : FeatureRunner σ ω} {features : List Feature}
  {reports : List (List (List Record))} {results : List FeatureResult}

theorem AllTold.balances_foldl (told : runner.AllTold features reports results) {summary : Summary}
    {produced : Nat} (h : summary.Balances produced) :
    (results.foldl Summary.absorb summary).Balances
      (produced + (reports.flatten.map List.length).sum) := by
  -- The summary so far is carried along, with the number of records that it balances for.
  induction told generalizing summary produced with
  | nil => simpa using h
  | @cons feature features reports later result results told _ ih =>
      have hrest := ih (h.absorb told.aggregate)
      rwa [List.length_flatten, Nat.add_assoc, ← List.sum_append, ← List.map_append,
        ← List.flatten_cons] at hrest

/-- The books of a run balance for all records that its units report. -/
theorem AllTold.balances (told : runner.AllTold features reports results) :
    (Summary.ofResults results).Balances (reports.flatten.map List.length).sum := by
  have hall := told.balances_foldl Summary.balances_empty
  rwa [Nat.zero_add] at hall

/-- Whatever happens in a run, no record that its units report gets lost: one for each attempt of an instance
that is run to its end, and one for every other unit. -/
theorem records_conserved (runner : FeatureRunner σ ω) (features : List Feature) (stop : Bool)
    (state : σ) :
    (∀ runs, runner.runSequential? stop features state = some runs →
      ∃ acts reports, Task.events acts = runs.events ∧
        runner.FeaturesCourse stop features acts reports runs.results runs.stop ∧
        runner.AllProduce features reports ∧
        (Summary.ofResults runs.results).Balances (reports.flatten.map List.length).sum) ∧
    (∀ schedule runs, runner.runScheduled? schedule stop features state = some runs →
      ∃ reports,
        reports = runner.pooledReports (runner.pooledMachine features schedule stop state) 0 features ∧
        runner.AllProduce features reports ∧
        (Summary.ofResults runs.results).Balances (reports.flatten.map List.length).sum) := by
  constructor
  · intro runs h
    obtain ⟨acts, reports, hevents, course, told⟩ := exists_course h
    exact ⟨acts, reports, hevents, course, course.allProduce, told.balances⟩
  · intro schedule runs h
    have told := allTold_of_runScheduled? h
    exact ⟨_, rfl, allProduce_of_runScheduled? h, told.balances⟩

theorem records_conserved_doors :
    ∃ runs reports, fragile.runSequential? false [doors] ⟨⟩ = some runs ∧
      fragile.AllProduce [doors] reports ∧
      (Summary.ofResults runs.results).Balances (reports.flatten.map List.length).sum ∧
      (Summary.ofResults runs.results).results.length = 1 ∧
      (Summary.ofResults runs.results).discardedAttempts = 1 := by
  obtain ⟨runs, hruns, hlength, hdiscarded⟩ :
      ∃ runs, fragile.runSequential? false [doors] ⟨⟩ = some runs ∧
        (Summary.ofResults runs.results).results.length = 1 ∧
        (Summary.ofResults runs.results).discardedAttempts = 1 := ⟨_, by cbv, by cbv, by cbv⟩
  obtain ⟨_, reports, _, _, hproduce, hbalances⟩ :=
    (records_conserved fragile [doors] false ⟨⟩).1 runs hruns
  exact ⟨runs, reports, hruns, hproduce, hbalances, hlength, hdiscarded⟩

end FeatureRunner

end Acceptance
