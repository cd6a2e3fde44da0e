import Acceptance.Proofs.Aggregate

/-!
# The latest records

What an aggregate holds after any sequence of reports, told without going through the reports one by
one: for each key, in the order of first reports, the record that finished last. Where no two records of
a key finished together, the order of the reports does not matter for what is kept.
-/

namespace Acceptance

namespace Stats

/-- The number of counted records with an outcome. -/
def ofStatus (stats : Stats) : Status → Nat
  | .passed => stats.passed
  | .failed => stats.failed
  | .skipped => stats.skipped

theorem ofStatus_ofRecords (records : List Record) (status : Status) :
    (ofRecords records).ofStatus status = records.countP fun record => record.status = status := by
  cases status <;> rfl

/-- Every record has one of the outcomes, so all are counted. -/
theorem total_ofRecords (records : List Record) : (ofRecords records).total = records.length := by
  change records.countP (fun record => record.status = .passed) +
    records.countP (fun record => record.status = .failed) +
    records.countP (fun record => record.status = .skipped) = records.length
  induction records with
  | nil => rfl
  | cons record rest ih =>
      simp only [List.countP_cons, List.length_cons]
      cases record.status <;> simp <;> omega

end Stats

namespace Aggregate

variable {records : List Record} {key : ScenarioKey} {record kept : Record}

/-- Of the records with the greatest time of finish, the one reported last. -/
def latestOf? (records : List Record) : Option Record :=
  (records.filter fun record => ∀ other ∈ records, other.finishedAt ≤ record.finishedAt).getLast?

/-- Of the records with a key, the latest. -/
def latest? (records : List Record) (key : ScenarioKey) : Option Record :=
  latestOf? (records.filter fun record => record.key = key)

/-! ## One more report -/

section Step

theorem mem_of_latestOf? (h : latestOf? records = some kept) :
    kept ∈ records ∧ ∀ other ∈ records, other.finishedAt ≤ kept.finishedAt := by
  have hmem := List.mem_of_getLast? h
  rw [List.mem_filter, decide_eq_true_iff] at hmem
  exact hmem

theorem latestOf?_append_of_le (h : ∀ other ∈ records, other.finishedAt ≤ record.finishedAt) :
    latestOf? (records ++ [record]) = some record := by
  have hgreatest : ∀ other ∈ records ++ [record], other.finishedAt ≤ record.finishedAt :=
    List.forall_mem_append.mpr ⟨h, List.forall_mem_singleton.mpr (Nat.le_refl _)⟩
  rw [latestOf?, List.filter_append, List.filter_singleton, decide_eq_true hgreatest]
  exact List.getLast?_concat

theorem latestOf?_append_of_lt {later : Record} (hlater : later ∈ records)
    (hlt : record.finishedAt < later.finishedAt) :
    latestOf? (records ++ [record]) = latestOf? records := by
  have hless : ¬ ∀ other ∈ records ++ [record], other.finishedAt ≤ record.finishedAt := by
    intro hall
    exact Nat.not_le.mpr hlt (hall later (List.mem_append_left _ hlater))
  -- Nothing is ruled out by the new record that was not ruled out by the later one.
  have hsame : ∀ other ∈ records,
      (decide (∀ found ∈ records ++ [record], found.finishedAt ≤ other.finishedAt)) =
        decide (∀ found ∈ records, found.finishedAt ≤ other.finishedAt) := by
    intro other _
    apply decide_eq_decide.mpr
    constructor
    · intro hall found hfound
      exact hall found (List.mem_append_left _ hfound)
    · intro hall found hfound
      rcases List.mem_append.mp hfound with hfound | hfound
      · exact hall found hfound
      · rw [List.mem_singleton.mp hfound]
        exact hlt.le.trans (hall later hlater)
  rw [latestOf?, List.filter_append, List.filter_singleton, decide_eq_false hless,
    List.filter_congr hsame]
  simp [latestOf?]

theorem latestOf?_eq_none : latestOf? records = none ↔ records = [] := by
  constructor
  · intro hnone
    -- The last record is the latest one unless an earlier one finished after it.
    induction records using List.reverseRecOn with
    | nil => rfl
    | append_singleton records record ih =>
        by_cases hall : ∀ other ∈ records, other.finishedAt ≤ record.finishedAt
        · rw [latestOf?_append_of_le hall] at hnone
          cases hnone
        · push Not at hall
          obtain ⟨later, hlater, hlt⟩ := hall
          rw [latestOf?_append_of_lt hlater hlt] at hnone
          rw [ih hnone] at hlater
          cases hlater
  · rintro rfl
    rfl

theorem latestOf?_append (h : latestOf? records = some kept) :
    latestOf? (records ++ [record]) =
      some (if kept.finishedAt ≤ record.finishedAt then record else kept) := by
  obtain ⟨hmem, hgreatest⟩ := mem_of_latestOf? h
  split
  next hle => exact latestOf?_append_of_le fun other hother => (hgreatest other hother).trans hle
  next hlt => rw [latestOf?_append_of_lt hmem (Nat.not_le.mp hlt), h]

theorem latest?_append_of_ne (h : record.key ≠ key) :
    latest? (records ++ [record]) key = latest? records key := by
  simp [latest?, h]

theorem latest?_append_of_eq (h : record.key = key) :
    latest? (records ++ [record]) key =
      some (((latest? records key).map (supersede record)).getD record) := by
  have hfilter : (records ++ [record]).filter (fun record => record.key = key) =
      records.filter (fun record => record.key = key) ++ [record] := by
    simp [h]
  rw [latest?, hfilter]
  cases hlatest : latest? records key with
  | none =>
      rw [latestOf?_eq_none.mp hlatest]
      exact latestOf?_append_of_le nofun
  | some kept =>
      have hkey : kept.key = record.key := by
        have hmem := (mem_of_latestOf? hlatest).1
        rw [List.mem_filter, decide_eq_true_iff] at hmem
        rw [hmem.2, h]
      rw [latestOf?_append hlatest]
      simp [supersede, hkey]

theorem get?_record_of_ne {aggregate : Aggregate} (h : record.key ≠ key) :
    (aggregate.record record).get? key = aggregate.get? key := by
  by_cases hmem : record.key ∈ aggregate.keys
  · -- What is superseded keeps its key, and what has another key is not superseded.
    have hsame : ∀ found : Record, found.key = key → supersede record found = found := by
      intro found hfound
      exact supersede_of_ne (hfound ▸ h.symm)
    rw [record_of_mem hmem, get?, get?, List.find?_map]
    simp only [Function.comp_def, key_supersede]
    cases hfind : aggregate.records.find? fun found => found.key = key with
    | none => rfl
    | some found =>
        have hkey := List.find?_some hfind
        rw [Option.map_some, hsame found (of_decide_eq_true hkey)]
  · rw [record_of_notMem hmem, get?, get?, List.find?_append]
    simp [h]

theorem get?_record_of_eq {aggregate : Aggregate} (h : record.key = key) :
    (aggregate.record record).get? key =
      some (((aggregate.get? key).map (supersede record)).getD record) := by
  subst h
  by_cases hmem : record.key ∈ aggregate.keys
  · obtain ⟨kept, hkept⟩ : ∃ kept, aggregate.get? record.key = some kept := by
      obtain ⟨found, hfound, hkey⟩ := List.mem_map.mp hmem
      rw [← Option.isSome_iff_exists, get?, List.find?_isSome]
      exact ⟨found, hfound, decide_eq_true hkey⟩
    rw [hkept, record_of_mem hmem, get?, List.find?_map]
    simp only [Function.comp_def, key_supersede]
    rw [show aggregate.records.find? (fun found => found.key = record.key) = some kept from hkept]
    rfl
  · have hnone : aggregate.get? record.key = none := by
      rw [get?, List.find?_eq_none]
      intro found hfound hkey
      exact hmem (List.mem_map.mpr ⟨found, hfound, of_decide_eq_true hkey⟩)
    rw [hnone, record_of_notMem hmem, get?, List.find?_append]
    rw [show aggregate.records.find? (fun found => found.key = record.key) = none from hnone]
    simp

theorem discarded_record (aggregate : Aggregate) (record : Record) :
    (aggregate.record record).size + (aggregate.record record).discarded =
      aggregate.size + aggregate.discarded + 1 := by
  by_cases hmem : record.key ∈ aggregate.keys
  · rw [record_of_mem hmem, size, size, List.length_map, Nat.add_assoc]
  · rw [record_of_notMem hmem, size, size, List.length_append, List.length_singleton]
    exact Nat.add_right_comm _ _ _

end Step

/-! ## All reports -/

section Runs

theorem ofRecords_append (records : List Record) (record : Record) :
    ofRecords (records ++ [record]) = (ofRecords records).record record :=
  extend_append {} records [record]

theorem get?_ofRecords (records : List Record) (key : ScenarioKey) :
    (ofRecords records).get? key = latest? records key := by
  induction records using List.reverseRecOn with
  | nil => rfl
  | append_singleton records record ih =>
      rw [ofRecords_append]
      by_cases h : record.key = key
      · rw [get?_record_of_eq h, latest?_append_of_eq h, ih]
      · rw [get?_record_of_ne h, latest?_append_of_ne h, ih]

theorem keys_ofRecords (records : List Record) :
    (ofRecords records).keys = (records.map Record.key).eraseDups := by
  induction records using List.reverseRecOn with
  | nil => rfl
  | append_singleton records record ih =>
      rw [ofRecords_append, keys_record, ih, List.map_append, List.eraseDups_append, addKey]
      by_cases h : record.key ∈ records.map Record.key
      · rw [if_pos (List.mem_eraseDups.mpr h)]
        simp only [List.map_cons, List.map_nil, List.removeAll, List.filter_singleton]
        simp [h]
      · rw [if_neg (mt List.mem_eraseDups.mp h)]
        simp only [List.map_cons, List.map_nil, List.removeAll, List.filter_singleton]
        simp [h, List.eraseDups_cons (a := record.key)]

/-- No record is lost: it is kept or counted as discarded. -/
theorem size_add_discarded (records : List Record) :
    (ofRecords records).size + (ofRecords records).discarded = records.length := by
  induction records using List.reverseRecOn with
  | nil => rfl
  | append_singleton records record ih =>
      rw [ofRecords_append, discarded_record, ih, List.length_append, List.length_singleton]

theorem records_eq_filterMap {aggregate : Aggregate} (hnodup : aggregate.keys.Nodup) :
    aggregate.records = aggregate.keys.filterMap aggregate.get? := by
  have hfound : ∀ record ∈ aggregate.records, aggregate.get? record.key = some record := by
    intro record hrecord
    obtain ⟨kept, hkept⟩ : ∃ kept, aggregate.get? record.key = some kept := by
      rw [← Option.isSome_iff_exists, get?, List.find?_isSome]
      exact ⟨record, hrecord, decide_eq_true rfl⟩
    have hkey : kept.key = record.key := by simpa using List.find?_some hkept
    rw [hkept, List.inj_on_of_nodup_map hnodup (List.mem_of_find?_eq_some hkept) hrecord hkey]
  rw [keys, List.filterMap_map]
  symm
  calc aggregate.records.filterMap (aggregate.get? ∘ Record.key)
      = aggregate.records.filterMap some := List.filterMap_congr hfound
    _ = aggregate.records := List.filterMap_some

theorem records_ofRecords (records : List Record) :
    (ofRecords records).records =
      (records.map Record.key).eraseDups.filterMap (latest? records) := by
  rw [records_eq_filterMap (keys_ofRecords_nodup records), keys_ofRecords]
  exact List.filterMap_congr fun key _ => get?_ofRecords records key

theorem countP_ofRecords (records : List Record) (p : Record → Bool) :
    (ofRecords records).records.countP p =
      (records.map Record.key).eraseDups.countP fun key => (latest? records key).any p := by
  rw [records_ofRecords, List.countP_filterMap]
  apply List.countP_congr
  intro key _
  cases latest? records key <;> rfl

/-- The latest record does not depend on the order of the records where all of them finished at
different times. -/
theorem latestOf?_perm {other : List Record} (hperm : records.Perm other)
    (hdistinct : records.Pairwise fun first second => first.finishedAt ≠ second.finishedAt) :
    latestOf? other = latestOf? records := by
  cases hlatest : latestOf? records with
  | none =>
      rw [latestOf?_eq_none] at hlatest ⊢
      subst hlatest
      exact hperm.symm.eq_nil
  | some kept =>
      obtain ⟨hkept, hgreatest⟩ := mem_of_latestOf? hlatest
      obtain ⟨found, hfound⟩ : ∃ found, latestOf? other = some found := by
        apply Option.ne_none_iff_exists'.mp
        rw [Ne, latestOf?_eq_none]
        exact List.ne_nil_of_mem (hperm.mem_iff.mp hkept)
      obtain ⟨hother, hgreatest'⟩ := mem_of_latestOf? hfound
      have hrecord : found ∈ records := hperm.mem_iff.mpr hother
      -- Both have the greatest time, and only one record has it.
      have htime : found.finishedAt = kept.finishedAt :=
        Nat.le_antisymm (hgreatest found hrecord) (hgreatest' kept (hperm.mem_iff.mp hkept))
      rw [hfound]
      by_contra hne
      have hsymm : Std.Symm fun first second : Record => first.finishedAt ≠ second.finishedAt :=
        ⟨fun _ _ => Ne.symm⟩
      exact hdistinct.forall hrecord hkept (fun heq => hne (congrArg some heq)) htime

/-- For no key does it matter in which order its records are reported, as long as they all finished at
different times. -/
theorem latest?_perm {other : List Record} (hperm : records.Perm other)
    (hdistinct : records.Pairwise fun first second =>
      first.key = second.key → first.finishedAt ≠ second.finishedAt) (key : ScenarioKey) :
    latest? other key = latest? records key := by
  apply latestOf?_perm (hperm.filter _)
  rw [List.pairwise_filter]
  refine hdistinct.imp ?_
  intro first second hne hfirst hsecond
  exact hne ((of_decide_eq_true hfirst).trans (of_decide_eq_true hsecond).symm)

/-- What an aggregate is after any sequence of reports: it holds the latest record of each key, in the
order in which the keys were first reported and no key twice; all other records are counted as
discarded; its counts and its failures are those of the records that it holds. For keys whose records
finished at different times the order of the reports does not matter. -/
theorem ofRecords_holds_latest (records : List Record) :
    (∀ key, (ofRecords records).get? key = latest? records key) ∧
      (ofRecords records).records =
        (records.map Record.key).eraseDups.filterMap (latest? records) ∧
      (ofRecords records).keys = (records.map Record.key).eraseDups ∧
      (ofRecords records).keys.Nodup ∧
      (ofRecords records).size + (ofRecords records).discarded = records.length ∧
      (∀ status, (ofRecords records).stats.ofStatus status = (records.map Record.key).eraseDups.countP
        fun key => (latest? records key).any fun kept => kept.status = status) ∧
      (ofRecords records).stats.retried = (records.map Record.key).eraseDups.countP
        (fun key => (latest? records key).any fun kept => 1 < kept.attempt) ∧
      (ofRecords records).stats.total = (ofRecords records).size ∧
      ((ofRecords records).hasFailures = true ↔
        ∃ key kept, latest? records key = some kept ∧ kept.status = .failed) ∧
      ∀ other, records.Perm other →
        (records.Pairwise fun first second =>
          first.key = second.key → first.finishedAt ≠ second.finishedAt) →
        ∀ key, (ofRecords other).get? key = (ofRecords records).get? key := by
  refine ⟨get?_ofRecords records, records_ofRecords records, keys_ofRecords records,
    keys_ofRecords_nodup records, size_add_discarded records, ?_, countP_ofRecords records _, ?_, ?_, ?_⟩
  · intro status
    rw [← countP_ofRecords]
    exact Stats.ofStatus_ofRecords _ status
  · exact Stats.total_ofRecords _
  · rw [hasFailures, List.any_eq_true]
    constructor
    · rintro ⟨kept, hkept, hfailed⟩
      rw [records_ofRecords, List.mem_filterMap] at hkept
      obtain ⟨key, _, hlatest⟩ := hkept
      exact ⟨key, kept, hlatest, of_decide_eq_true hfailed⟩
    · rintro ⟨key, kept, hlatest, hfailed⟩
      rw [← get?_ofRecords] at hlatest
      exact ⟨kept, List.mem_of_find?_eq_some hlatest, decide_eq_true hfailed⟩
  · intro other hperm hdistinct key
    rw [get?_ofRecords, get?_ofRecords, latest?_perm hperm hdistinct]

end Runs

end Aggregate

end Acceptance
