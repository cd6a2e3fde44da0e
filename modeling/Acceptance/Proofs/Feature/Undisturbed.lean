import Acceptance.Proofs.Feature.Agreement
import Acceptance.Proofs.Feature.Pooled

/-!
# Undisturbed pools

A pool for some features is undisturbed when it is done and every unit has returned. Then all slots
have been closed by the last units of their features, nothing is left to be called late, and what is
collected of a feature is what would be seen of it if it ran by itself.
-/

namespace Acceptance

open Aggregate (IsReport)
open Pool (Machine)

/-- Reports whose keys are all different show every failure. -/
theorem Aggregate.hasFailures_ofRecords {keys : List ScenarioKey} {reports : List (List Record)}
    (h : List.Forall₂ IsReport keys reports) (hnodup : keys.Nodup) :
    (Aggregate.ofRecords reports.flatten).hasFailures = reports.any Machine.endsFailed := by
  rw [Aggregate.ofRecords, Aggregate.extend_reports {} h (by simpa [Aggregate.keys] using hnodup)]
  simp only [Aggregate.hasFailures, List.nil_append, List.any_filterMap]
  rfl

namespace FeatureRunner

variable {σ ω : Type} {runner : FeatureRunner σ ω} {features : List Feature} {feature : Feature}
  {machine : Machine (σ × List Slot) (Option HookError)} {books : Books} {first index unit : Nat}

/-- A feature has failed if one of its templates has or one of its units. -/
theorem hasFailures_resultOf_eq {reports : List (List Record)} (now : Nat)
    (hdistinct : runner.HasDistinctKeys feature)
    (h : List.Forall₂ IsReport ((runner.scheduled feature).map Instance.key) reports) :
    (runner.resultOf now feature reports []).aggregate.hasFailures =
      ((runner.resultOf now feature [] []).aggregate.hasFailures ||
        reports.any Machine.endsFailed) := by
  have hknown := isReports_singletons (runner.known now feature)
  rw [HasDistinctKeys, unitKeys_eq now] at hdistinct
  have hall := Aggregate.hasFailures_ofRecords (List.rel_append hknown h) hdistinct
  have htemplates := Aggregate.hasFailures_ofRecords hknown (List.nodup_append.mp hdistinct).1
  rw [List.any_append, ← htemplates] at hall
  rw [resultOf, resultOf, unitReports, unitReports, List.append_nil]
  exact hall

/-- Of what is known of a feature before it runs, only templates that cannot be expanded have failed. -/
theorem hasFailures_resultOf_nil (now : Nat) (hdistinct : runner.HasDistinctKeys feature) :
    (runner.resultOf now feature [] []).aggregate.hasFailures = true ↔
      (runner.selection feature).failed ≠ [] := by
  have hknown := isReports_singletons (runner.known now feature)
  rw [HasDistinctKeys, unitKeys_eq now] at hdistinct
  have htemplates := Aggregate.hasFailures_ofRecords hknown (List.nodup_append.mp hdistinct).1
  have hstatus (record : Record) : Machine.endsFailed [record] = true ↔ record.status = .failed := by
    simp [Machine.endsFailed]
  have hall : (runner.resultOf now feature [] []).aggregate.hasFailures = true ↔
      ∃ record ∈ runner.known now feature, record.status = .failed := by
    rw [resultOf, unitReports, List.append_nil, htemplates, List.any_map, List.any_eq_true]
    simp only [Function.comp_apply, hstatus]
  rw [hall, known]
  constructor
  · rintro ⟨record, hrecord, hfailed⟩ hempty
    rw [hempty, List.map_nil, List.nil_append] at hrecord
    split at hrecord
    · obtain ⟨instance_, _, rfl⟩ := List.mem_map.mp hrecord
      cases hfailed
    · cases hrecord
  · intro hne
    obtain ⟨template, htemplate⟩ := List.exists_mem_of_ne_nil _ hne
    exact ⟨failedTemplate now template, List.mem_append_left _ (List.mem_map_of_mem htemplate), rfl⟩

/-- The slot of a feature has seen a failure if one of its templates or of its units has failed, where
all of its units have told what is reported of them. -/
theorem failedSoFar_eq_hasFailures {rest : List Feature} (hdistinct : runner.HasDistinctKeys feature)
    (remaining : runner.Remaining features index first (feature :: rest))
    (hreports : ∀ unit job, (runner.planOf features).jobs[unit]? = some job →
      IsReport job.instance_.key (machine.recordsOf unit))
    (htold : ∀ unit records, runner.owner features unit = some index →
      ((unit, records) ∈ books.told ↔ records = machine.recordsOf unit)) :
    runner.failedSoFar (runner.owner features) books index feature =
      (runner.resultOf 0 feature (unitsTold machine first (runner.scheduled feature).length)
        []).aggregate.hasFailures := by
  rw [failedSoFar, hasFailures_resultOf_eq 0 hdistinct (remaining.isReports hreports)]
  congr 1
  rw [Bool.eq_iff_iff, List.any_eq_true, List.any_eq_true]
  constructor
  · rintro ⟨⟨unit, records⟩, hmem, hfailed⟩
    obtain ⟨hmem, howner⟩ := List.mem_filter.mp hmem
    have hown : runner.owner features unit = some index := by simpa using howner
    obtain rfl := (htold unit records hown).mp hmem
    obtain ⟨offset, hoffset, rfl⟩ := (remaining.owner_iff unit).mp hown
    exact ⟨_, List.mem_map_of_mem (List.mem_range.mpr hoffset), hfailed⟩
  · rintro ⟨report, hreport, hfailed⟩
    obtain ⟨offset, hoffset, rfl⟩ := List.mem_map.mp hreport
    have howner := (remaining.owner_iff _).mpr ⟨offset, List.mem_range.mp hoffset, rfl⟩
    exact ⟨_, (Books.mem_toldOf howner).mpr ((htold _ _ howner).mpr rfl), hfailed⟩

/-- A pool for some features that is done with all units, each of which has returned what is reported
of it. -/
structure Undisturbed (runner : FeatureRunner σ ω) (features : List Feature)
    (machine : Machine (σ × List Slot) (Option HookError)) (books : Books) : Prop where
  ledger : runner.Ledger features machine books
  returned : ∀ (unit : Nat) (job : Pool.Job (σ × List Slot) (Option HookError)),
    (runner.planOf features).jobs[unit]? = some job → .ended unit ∈ machine.trace ∧
      ∃ opened acts, Pool.Passes ((runner.selectAll features).map fun selected =>
          (runner.beforeFeature selected.feature).onFirst) job opened ∧
        (job.body opened).Ends acts (.finished (machine.recordsOf unit)) ∧ Task.InOrder acts

namespace Undisturbed

/-- What is reported of a unit is what its instance reports, given how the hooks before its feature
ended. -/
theorem reported (done : runner.Undisturbed features machine books)
    (hfeature : features[index]? = some feature) {instance_ : Instance}
    (hjob : (runner.planOf features).jobs[unit]? = some (runner.jobOf feature index instance_)) :
    IsReport instance_.key (machine.recordsOf unit) ∧ ∃ refused before own,
      (runner.beforeFeature feature).Ends before (.finished refused) ∧
        (runner.reportOf instance_ refused).Ends own (.finished (machine.recordsOf unit)) := by
  obtain ⟨_, opened, acts, ⟨task, before, refused, htask, hbefore, rfl⟩, hends, horder⟩ :=
    done.returned unit _ hjob
  obtain rfl := gate_eq hfeature htask
  obtain ⟨own, hown, _⟩ := hbefore.of_onFirst
  obtain ⟨told, htold, htimes⟩ := reportOf_of_ends hends
  exact ⟨isReport_of_reportOf htold (horder.sublist htimes), refused, own, told, hown, htold⟩

theorem isReport (done : runner.Undisturbed features machine books)
    {job : Pool.Job (σ × List Slot) (Option HookError)}
    (hjob : (runner.planOf features).jobs[unit]? = some job) :
    IsReport job.instance_.key (machine.recordsOf unit) := by
  obtain ⟨index, feature, instance_, _, hfeature, rfl⟩ := exists_of_job hjob
  exact (done.reported hfeature hjob).1

/-- No unit waits any more. -/
theorem waiting_eq_nil (done : runner.Undisturbed features machine books) : books.waiting = [] := by
  rw [List.eq_nil_iff_forall_not_mem]
  intro unit hwaiting
  have hmem := done.ledger.units.mem_iff.mp (List.mem_append_left _ hwaiting)
  have hjob := List.getElem?_eq_getElem (List.mem_range.mp hmem)
  exact done.ledger.not_ended hwaiting (done.returned unit _ hjob).1

/-- Units have told what is reported of them. -/
theorem mem_told_iff (done : runner.Undisturbed features machine books) {records : List Record} :
    (unit, records) ∈ books.told ↔
      unit < (runner.planOf features).jobs.length ∧ records = machine.recordsOf unit := by
  have hreported (hunit : unit < (runner.planOf features).jobs.length) :
      (unit, machine.recordsOf unit) ∈ books.told := by
    have hjob := List.getElem?_eq_getElem hunit
    refine (done.ledger.reported unit (done.returned unit _ hjob).1).resolve_left ?_
    exact (done.isReport hjob).nonempty
  constructor
  · intro htold
    have hmem := done.ledger.units.mem_iff.mp
      (List.mem_append_right _ (List.mem_map_of_mem (f := Prod.fst) htold))
    have hunit := List.mem_range.mp hmem
    exact ⟨hunit, done.ledger.unique htold (hreported hunit)⟩
  · rintro ⟨hunit, rfl⟩
    exact hreported hunit

/-- The slot of a feature has seen a failure if one of its templates or of its units has failed. -/
theorem failedSoFar_eq {rest : List Feature} (done : runner.Undisturbed features machine books)
    (hdistinct : runner.HasDistinctKeys feature)
    (remaining : runner.Remaining features index first (feature :: rest)) :
    runner.failedSoFar (runner.owner features) books index feature =
      (runner.resultOf 0 feature (unitsTold machine first (runner.scheduled feature).length)
        []).aggregate.hasFailures := by
  refine failedSoFar_eq_hasFailures hdistinct remaining (fun _ _ => done.isReport)
    fun unit records howner => ?_
  rw [done.mem_told_iff, and_iff_right]
  by_contra hlarge
  rw [owner, List.getElem?_eq_none (Nat.le_of_not_lt hlarge)] at howner
  cases howner

/-- The hooks after a feature have been called when its last unit ended, and none are called late. -/
theorem slot (done : runner.Undisturbed features machine books)
    (hfeature : features[index]? = some feature) {slot : Slot}
    (hslot : machine.shared.2[index]? = some slot) :
    (runner.scheduled feature = [] → slot.hookErrors = []) ∧
      (runner.scheduled feature ≠ [] → slot.finished = true ∧ ∃ acts, (runner.afterFeature feature
        (runner.failedSoFar (runner.owner features) books index feature)).Ends acts
          (.finished slot.hookErrors)) := by
  have agrees := done.ledger.slots.agrees index feature slot hfeature hslot
  refine ⟨fun hempty => (agrees.unfinished (.inr hempty)).2, fun hscheduled => ?_⟩
  have hpending : slot.pending = 0 := by
    rw [agrees.pending, Books.pending, done.waiting_eq_nil]
    rfl
  obtain ⟨hfinished, unit, records, hlast, _, hclosed⟩ := agrees.finished hpending hscheduled
  have hunit := (done.mem_told_iff.mp (mem_told_of_last hlast).1).1
  have hended := (done.returned unit _ (List.getElem?_eq_getElem hunit)).1
  rw [← agrees.failed]
  exact ⟨hfinished, hclosed hended⟩

/-- Nothing is called late. -/
theorem exists_collect (done : runner.Undisturbed features machine books) (first : Nat) :
    ∃ results, runner.collect machine first
      ((features.map runner.selected).zip machine.shared.2) = .done results := by
  rw [List.zip_map_left]
  refine FeatureRunner.exists_collect ?_
  rintro ⟨feature, slot⟩ hpair
  obtain ⟨index, hindex⟩ := List.getElem?_of_mem hpair
  obtain ⟨hfeature, hslot⟩ := List.getElem?_zip_eq_some.mp hindex
  by_cases hscheduled : runner.scheduled feature = []
  · exact .inl hscheduled
  · exact .inr ((done.slot hfeature hslot).2 hscheduled).1

end Undisturbed

/-! ## Outcomes -/

section Outcomes

variable {rest : List Feature}

/-- What is collected of a feature is what has been seen of it. -/
theorem Undisturbed.evidence (done : runner.Undisturbed features machine books)
    (hdistinct : runner.HasDistinctKeys feature)
    (remaining : runner.Remaining features index first (feature :: rest)) {slot : Slot}
    (hslot : machine.shared.2[index]? = some slot) :
    runner.Evidence feature (unitsTold machine first (runner.scheduled feature).length)
      slot.hookErrors := by
  have hunits : List.Forall₂ (fun instance_ report => IsReport instance_.key report ∧
      ∃ refused before own, (runner.beforeFeature feature).Ends before (.finished refused) ∧
        (runner.reportOf instance_ refused).Ends own (.finished report))
      (runner.scheduled feature) (unitsTold machine first (runner.scheduled feature).length) :=
    remaining.forall₂_unitsTold fun _ _ hjob => done.reported remaining.getElem?_index hjob
  obtain ⟨hidle, hclosed⟩ := done.slot remaining.getElem?_index hslot
  rw [done.failedSoFar_eq hdistinct remaining] at hclosed
  exact ⟨hunits, hidle, fun hscheduled => (hclosed hscheduled).2⟩

/-- What a pool that is done undisturbed has collected is what its features come to. -/
theorem Undisturbed.outcomes {all : List Feature} {slots : List Slot}
    {lates : List (List (Task.Act σ Event))} {results : List FeatureResult}
    (done : runner.Undisturbed all machine books)
    (hdistinct : ∀ feature ∈ features, runner.HasDistinctKeys feature)
    (collected : Collected runner machine first features slots lates results)
    (remaining : runner.Remaining all index first features)
    (hslots : machine.shared.2.drop index = slots) :
    runner.Outcomes features results := by
  induction collected generalizing index with
  | nil => exact .nil
  | @cons first feature features slot slots acts errors lates results hlate _ ih =>
      obtain ⟨hhead, htail⟩ := List.forall_mem_cons.mp hdistinct
      have hslot := getElem?_of_drop hslots
      have hnone : errors = [] := by
        cases hlate with
        | nothing => rfl
        | called hopen hstarted =>
            obtain ⟨offset, hoffset, _⟩ := hstarted
            have hscheduled := List.length_pos_iff.mp (Nat.zero_lt_of_lt hoffset)
            have hfinished := ((done.slot remaining.getElem?_index hslot).2 hscheduled).1
            rw [hopen] at hfinished
            cases hfinished
      rw [hnone, List.append_nil]
      refine .cons ⟨_, _, done.evidence hhead remaining hslot, rfl⟩ 
        (ih htail remaining.next (drop_of_drop hslots))

end Outcomes

end FeatureRunner

end Acceptance
