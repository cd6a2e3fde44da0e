import Acceptance.Aggregate
import Mathlib

/-!
# Aggregated records

Which records an aggregate keeps. Records that were aggregated apart may be merged without a
difference, and of the attempts at an instance that are reported together only the last is kept,
unless another instance has the same key.
-/

namespace Acceptance.Aggregate

variable {aggregate : Aggregate} {records : List Record}

/-- The keys of the kept records, in order. -/
def keys (aggregate : Aggregate) : List ScenarioKey := aggregate.records.map Record.key

/-- Adds a key to some keys, unless it is there. -/
def addKey (keys : List ScenarioKey) (key : ScenarioKey) : List ScenarioKey :=
  if key ∈ keys then keys else keys ++ [key]

section Supersede

@[simp] theorem key_supersede (record kept : Record) : (supersede record kept).key = kept.key := by
  unfold supersede
  split
  next h => exact h.1.symm
  next => rfl

theorem supersede_of_ne {record kept : Record} (h : kept.key ≠ record.key) :
    supersede record kept = kept := by
  simp [supersede, h]

/-- Of three records with one key, the one that is kept does not depend on which two are compared
first. -/
theorem supersede_supersede {first second : Record} (h : first.key = second.key) (kept : Record) :
    supersede second (supersede first kept) = supersede (supersede second first) kept := by
  by_cases hkey : kept.key = first.key
  · by_cases hfirst : kept.finishedAt ≤ first.finishedAt <;>
      by_cases hsecond : first.finishedAt ≤ second.finishedAt <;>
        by_cases hkept : kept.finishedAt ≤ second.finishedAt <;>
          simp [supersede, h ▸ hkey, h, hfirst, hsecond, hkept] <;> omega
  · have hkey' : kept.key ≠ (supersede second first).key := by rwa [key_supersede]
    rw [supersede_of_ne hkey, supersede_of_ne hkey', supersede_of_ne (h ▸ hkey)]

end Supersede

/-! ## Keys -/

section Keys

theorem mem_keys {key : ScenarioKey} :
    key ∈ aggregate.keys ↔ (aggregate.records.any fun kept => kept.key = key) = true := by
  simp [keys, List.any_eq_true]

theorem record_of_mem {record : Record} (h : record.key ∈ aggregate.keys) :
    aggregate.record record =
      { records := aggregate.records.map (supersede record), discarded := aggregate.discarded + 1 } := by
  unfold Aggregate.record
  rw [if_pos (mem_keys.mp h)]

theorem record_of_notMem {record : Record} (h : record.key ∉ aggregate.keys) :
    aggregate.record record = { aggregate with records := aggregate.records ++ [record] } := by
  unfold Aggregate.record
  rw [if_neg (mt mem_keys.mpr h)]

theorem keys_record (record : Record) :
    (aggregate.record record).keys = addKey aggregate.keys record.key := by
  by_cases h : record.key ∈ aggregate.keys
  · rw [record_of_mem h, addKey, if_pos h]
    simp [keys, Function.comp_def]
  · rw [record_of_notMem h, addKey, if_neg h]
    simp [keys]

/-- Keys are kept in the order in which they are first reported. -/
theorem keys_extend (aggregate : Aggregate) (records : List Record) :
    (aggregate.extend records).keys = (records.map Record.key).foldl addKey aggregate.keys := by
  induction records generalizing aggregate with
  | nil => rfl
  | cons record rest ih =>
      refine (ih (aggregate.record record)).trans ?_
      rw [keys_record]
      rfl

theorem mem_addKey {keys : List ScenarioKey} {key other : ScenarioKey} :
    other ∈ addKey keys key ↔ other ∈ keys ∨ other = key := by
  unfold addKey
  split
  next h => exact ⟨.inl, fun h' => h'.elim id fun heq => heq ▸ h⟩
  next => simp

theorem addKey_nodup {keys : List ScenarioKey} (h : keys.Nodup) (key : ScenarioKey) :
    (addKey keys key).Nodup := by
  unfold addKey
  split
  next => exact h
  next hnew =>
    refine List.nodup_append.mpr ⟨h, List.pairwise_singleton _ key, ?_⟩
    rintro other hother _ hkey rfl
    exact hnew (List.mem_singleton.mp hkey ▸ hother)

theorem foldl_addKey_nodup {keys : List ScenarioKey} (h : keys.Nodup) (more : List ScenarioKey) :
    (more.foldl addKey keys).Nodup := by
  induction more generalizing keys with
  | nil => exact h
  | cons key rest ih => exact ih (addKey_nodup h key)

theorem foldl_addKey_of_mem {keys more : List ScenarioKey} (h : ∀ key ∈ more, key ∈ keys) :
    more.foldl addKey keys = keys := by
  induction more with
  | nil => rfl
  | cons key rest ih =>
      rw [List.foldl_cons, addKey, if_pos (h key List.mem_cons_self)]
      exact ih fun key hmem => h key (List.mem_cons_of_mem _ hmem)

theorem foldl_addKey_sublist (keys more : List ScenarioKey) :
    (more.foldl addKey keys).Sublist (keys ++ more) := by
  induction more generalizing keys with
  | nil => simp
  | cons key rest ih =>
      refine (ih (addKey keys key)).trans ?_
      rw [List.append_cons]
      apply List.Sublist.append_right
      unfold addKey
      split
      · exact List.sublist_append_left keys [key]
      · exact .refl _

theorem foldl_addKey_of_nodup {keys more : List ScenarioKey} (h : (keys ++ more).Nodup) :
    more.foldl addKey keys = keys ++ more := by
  induction more generalizing keys with
  | nil => simp
  | cons key rest ih =>
      have hnew : key ∉ keys := fun hmem => (List.nodup_append.mp h).2.2 _ hmem _ List.mem_cons_self rfl
      rw [List.append_cons] at h ⊢
      rw [List.foldl_cons, addKey, if_neg hnew]
      exact ih h

/-- All of some keys are kept exactly if they are different from one another. -/
theorem foldl_addKey_eq_iff {keys : List ScenarioKey} (h : keys.Nodup) (more : List ScenarioKey) :
    more.foldl addKey keys = keys ++ more ↔ (keys ++ more).Nodup :=
  ⟨fun heq => heq ▸ foldl_addKey_nodup h more, foldl_addKey_of_nodup⟩

end Keys

/-! ## Merging -/

section Merge

theorem extend_append (aggregate : Aggregate) (before after : List Record) :
    aggregate.extend (before ++ after) = (aggregate.extend before).extend after :=
  List.foldl_append

/-- What is recorded later does not matter for a key that is kept already. -/
theorem record_comm {record other : Record} (hmem : record.key ∈ aggregate.keys)
    (hne : other.key ≠ record.key) :
    (aggregate.record other).record record = (aggregate.record record).record other := by
  have hmem' : record.key ∈ (aggregate.record other).keys := by
    rw [keys_record, mem_addKey]
    exact .inl hmem
  have hkeys : (aggregate.record record).keys = aggregate.keys := by
    rw [keys_record, addKey, if_pos hmem]
  rw [record_of_mem hmem']
  by_cases hother : other.key ∈ aggregate.keys
  · rw [record_of_mem hother, record_of_mem (hkeys ▸ hother), record_of_mem hmem]
    simp only [List.map_map, mk.injEq, and_true]
    apply List.map_congr_left
    intro kept _
    by_cases hkept : kept.key = record.key
    · have hother : kept.key ≠ other.key := fun heq => hne (heq.symm.trans hkept)
      have hother' : (supersede record kept).key ≠ other.key := by rwa [key_supersede]
      rw [Function.comp, Function.comp, supersede_of_ne hother, supersede_of_ne hother']
    · have hkept' : (supersede other kept).key ≠ record.key := by rwa [key_supersede]
      rw [Function.comp, Function.comp, supersede_of_ne hkept, supersede_of_ne hkept']
  · rw [record_of_notMem hother, record_of_notMem (hkeys ▸ hother), record_of_mem hmem]
    simp [supersede_of_ne hne]

theorem extend_record_comm {record : Record} (hmem : record.key ∈ aggregate.keys)
    (hne : ∀ other ∈ records, other.key ≠ record.key) :
    (aggregate.extend records).record record = (aggregate.record record).extend records := by
  induction records generalizing aggregate with
  | nil => rfl
  | cons other rest ih =>
      have hmem' : record.key ∈ (aggregate.record other).keys := by
        rw [keys_record, mem_addKey]
        exact .inl hmem
      refine (ih hmem' fun later hlater => hne later (List.mem_cons_of_mem _ hlater)).trans ?_
      rw [record_comm hmem (hne other List.mem_cons_self)]
      rfl

/-- Counts more records as discarded. -/
def discard (aggregate : Aggregate) (count : Nat) : Aggregate :=
  { aggregate with discarded := aggregate.discarded + count }

theorem record_discard (aggregate : Aggregate) (count : Nat) (record : Record) :
    (aggregate.discard count).record record = (aggregate.record record).discard count := by
  by_cases h : record.key ∈ aggregate.keys
  · rw [record_of_mem h, record_of_mem (show record.key ∈ (aggregate.discard count).keys from h)]
    simp [discard, Nat.add_right_comm]
  · rw [record_of_notMem h, record_of_notMem (show record.key ∉ (aggregate.discard count).keys from h)]
    rfl

theorem extend_discard (aggregate : Aggregate) (count : Nat) (records : List Record) :
    (aggregate.discard count).extend records = (aggregate.extend records).discard count := by
  induction records generalizing aggregate with
  | nil => rfl
  | cons record rest ih =>
      change ((aggregate.discard count).record record).extend rest = _
      rw [record_discard]
      exact ih (aggregate.record record)

/-- A record that is superseded at once is counted as discarded. -/
theorem record_supersede {first second : Record} (h : first.key = second.key) :
    (aggregate.record first).record second = (aggregate.record (supersede second first)).discard 1 := by
  have hmem : second.key ∈ (aggregate.record first).keys := by
    rw [keys_record, mem_addKey]
    exact .inr h.symm
  rw [record_of_mem hmem]
  by_cases hfirst : first.key ∈ aggregate.keys
  · rw [record_of_mem hfirst, record_of_mem (by rwa [key_supersede])]
    simp [discard, Function.comp_def, supersede_supersede h]
  · have hlast : aggregate.records.map (supersede second) = aggregate.records := by
      refine (List.map_congr_left fun kept hkept => ?_).trans (List.map_id _)
      exact supersede_of_ne fun heq => hfirst (h ▸ heq ▸ List.mem_map_of_mem hkept)
    rw [record_of_notMem hfirst, record_of_notMem (by rwa [key_supersede])]
    simp [discard, hlast]

theorem discard_discard (aggregate : Aggregate) (count more : Nat) :
    (aggregate.discard count).discard more = aggregate.discard (count + more) := by
  simp [discard, Nat.add_assoc]

/-- Records that were aggregated apart and are merged give what recording them at once gives. -/
theorem merge_record {other : Aggregate} (hnodup : other.keys.Nodup) (record : Record) :
    aggregate.merge (other.record record) = (aggregate.merge other).record record := by
  by_cases hmem : record.key ∈ other.keys
  · obtain ⟨kept, hkept, hkey⟩ := List.mem_map.mp hmem
    obtain ⟨before, after, hsplit⟩ := List.append_of_mem hkept
    have hnodup' : ((before ++ kept :: after).map Record.key).Nodup := hsplit ▸ hnodup
    rw [List.map_append, List.map_cons, List.nodup_append, List.nodup_cons, hkey] at hnodup'
    obtain ⟨_, ⟨hafter, _⟩, hbefore⟩ := hnodup'
    have hleft : before.map (supersede record) = before := by
      refine (List.map_congr_left fun earlier hearlier => ?_).trans (List.map_id _)
      exact supersede_of_ne (hbefore _ (List.mem_map_of_mem hearlier) _ List.mem_cons_self)
    have hright : after.map (supersede record) = after := by
      refine (List.map_congr_left fun later hlater => ?_).trans (List.map_id _)
      exact supersede_of_ne fun heq => hafter (heq ▸ List.mem_map_of_mem hlater)
    have hrest : ∀ later ∈ after, later.key ≠ record.key :=
      fun later hlater heq => hafter (heq ▸ List.mem_map_of_mem hlater)
    have hkept' : record.key ∈ (((aggregate.discard other.discarded).extend before).record kept).keys := by
      rw [keys_record, mem_addKey]
      exact .inr hkey.symm
    -- Both sides extend the same aggregate, before and after the record in question.
    have hmerge : aggregate.merge other =
        (((aggregate.discard other.discarded).extend before).record kept).extend after := by
      change (aggregate.discard other.discarded).extend other.records = _
      rw [hsplit]
      exact extend_append _ before (kept :: after)
    have hmerge' : aggregate.merge (other.record record) =
        (((aggregate.discard (other.discarded + 1)).extend before).record
          (supersede record kept)).extend after := by
      rw [record_of_mem hmem]
      change (aggregate.discard (other.discarded + 1)).extend (other.records.map (supersede record)) = _
      rw [hsplit, List.map_append, List.map_cons, hleft, hright]
      exact extend_append _ before (supersede record kept :: after)
    rw [hmerge, hmerge', extend_record_comm hkept' hrest, record_supersede hkey, ← discard_discard,
      extend_discard, record_discard]
  · rw [record_of_notMem hmem]
    exact extend_append _ other.records [record]

theorem keys_extend_nodup (h : aggregate.keys.Nodup) (records : List Record) :
    (aggregate.extend records).keys.Nodup := by
  rw [keys_extend]
  exact foldl_addKey_nodup h _

@[simp] theorem keys_empty : keys {} = [] := rfl

@[simp] theorem keys_discard (aggregate : Aggregate) (count : Nat) :
    (aggregate.discard count).keys = aggregate.keys := rfl

theorem keys_ofRecords_nodup (records : List Record) : (ofRecords records).keys.Nodup := by
  apply keys_extend_nodup
  simp

theorem keys_merge_nodup (h : aggregate.keys.Nodup) (other : Aggregate) :
    (aggregate.merge other).keys.Nodup := by
  apply keys_extend_nodup
  exact h

/-- Records may be taken into account before a merge or after it. -/
theorem merge_extend {other : Aggregate} (hnodup : other.keys.Nodup) (records : List Record) :
    aggregate.merge (other.extend records) = (aggregate.merge other).extend records := by
  induction records generalizing other with
  | nil => rfl
  | cons record rest ih =>
      have hnodup' : (other.record record).keys.Nodup := keys_extend_nodup hnodup [record]
      calc aggregate.merge (other.extend (record :: rest))
          = (aggregate.merge (other.record record)).extend rest := ih hnodup'
        _ = (aggregate.merge other).extend (record :: rest) := by
          rw [merge_record hnodup]
          rfl

theorem merge_discard (aggregate other : Aggregate) (count : Nat) :
    aggregate.merge (other.discard count) = (aggregate.merge other).discard count := by
  calc aggregate.merge (other.discard count)
      = (aggregate.discard (other.discarded + count)).extend other.records := rfl
    _ = ((aggregate.discard other.discarded).extend other.records).discard count := by
      rw [← discard_discard, extend_discard]

@[simp]
theorem merge_empty (aggregate : Aggregate) : aggregate.merge {} = aggregate := rfl

theorem merge_ofRecords (aggregate : Aggregate) (records : List Record) :
    aggregate.merge (ofRecords records) = aggregate.extend records := by
  rw [ofRecords, merge_extend (by simp), merge_empty]

/-- Nothing is superseded where no key occurs twice. -/
theorem ofRecords_of_nodup {records : List Record} (hnodup : (records.map Record.key).Nodup) :
    ofRecords records = { records, discarded := 0 } := by
  induction records using List.reverseRecOn with
  | nil => rfl
  | append_singleton records record ih =>
      rw [List.map_append, List.nodup_append] at hnodup
      obtain ⟨hbefore, _, hnew⟩ := hnodup
      have hrecord : record.key ∉ keys { records, discarded := 0 } :=
        fun hmem => hnew _ hmem _ List.mem_cons_self rfl
      have hlast : ofRecords (records ++ [record]) = (ofRecords records).record record :=
        extend_append {} records [record]
      rw [hlast, ih hbefore, record_of_notMem hrecord]

theorem empty_merge (h : aggregate.keys.Nodup) : merge {} aggregate = aggregate := by
  calc merge {} aggregate
      = extend (discard {} aggregate.discarded) aggregate.records := rfl
    _ = (ofRecords aggregate.records).discard aggregate.discarded := extend_discard {} _ _
    _ = aggregate := by
      rw [ofRecords_of_nodup h]
      simp [discard]

theorem merge_assoc {second : Aggregate} (h : second.keys.Nodup) (first third : Aggregate) :
    (first.merge second).merge third = first.merge (second.merge third) := by
  symm
  calc first.merge (second.merge third)
      = first.merge ((second.discard third.discarded).extend third.records) := rfl
    _ = (first.merge (second.discard third.discarded)).extend third.records :=
      merge_extend (by simpa using h) _
    _ = ((first.merge second).discard third.discarded).extend third.records := by rw [merge_discard]
    _ = (first.merge second).merge third := rfl

/-- To merge two aggregates is to take the reports of the second into account after those of the first.
So it does not matter how many aggregates are merged in which order of nesting, and an empty one changes
nothing. That no key is kept twice is all that is asked of them, and reports and merges keep it so. -/
theorem merge_concatenates :
    (∀ earlier later : List Record,
        (ofRecords earlier).merge (ofRecords later) = ofRecords (earlier ++ later)) ∧
      (∀ first second third : Aggregate, second.keys.Nodup →
        (first.merge second).merge third = first.merge (second.merge third)) ∧
      (∀ aggregate : Aggregate, aggregate.keys.Nodup →
        merge {} aggregate = aggregate ∧ aggregate.merge {} = aggregate) ∧
      ∀ aggregate : Aggregate, aggregate.keys.Nodup →
        (∀ records, (aggregate.extend records).keys.Nodup) ∧
          ∀ other, (aggregate.merge other).keys.Nodup := by
  refine ⟨?_, ?_, ?_, ?_⟩
  · intro earlier later
    rw [merge_ofRecords]
    exact (extend_append {} earlier later).symm
  · intro first second third h
    exact merge_assoc h first third
  · intro aggregate h
    exact ⟨empty_merge h, merge_empty aggregate⟩
  · intro aggregate h
    exact ⟨keys_extend_nodup h, keys_merge_nodup h⟩

/-- An attempt at a scenario of one feature, and when it finished. -/
def doorsAttempt (scenario : String) (attempt finishedAt : Nat) : Record :=
  { (default : Record) with key := ⟨"Doors", scenario⟩, attempt, finishedAt }

/-- Three parts of a run that share keys, some attempts having finished together. -/
def doorsParts : Aggregate × Aggregate × Aggregate :=
  (ofRecords [doorsAttempt "opening" 1 5, doorsAttempt "closing" 1 2],
    ofRecords [doorsAttempt "opening" 2 5, doorsAttempt "locking" 1 3, doorsAttempt "opening" 3 4],
    ofRecords [doorsAttempt "closing" 2 2])

theorem merge_concatenates_doors :
    doorsParts.2.1.keys.Nodup ∧
      (doorsParts.1.merge doorsParts.2.1).merge doorsParts.2.2 =
        doorsParts.1.merge (doorsParts.2.1.merge doorsParts.2.2) ∧
      doorsParts.1.merge (doorsParts.2.1.merge doorsParts.2.2) =
        { records := [doorsAttempt "opening" 2 5, doorsAttempt "closing" 2 2, doorsAttempt "locking" 1 3]
          discarded := 3 } := by
  have hnodup : doorsParts.2.1.keys.Nodup := by decide +kernel
  obtain ⟨_, hassoc, _⟩ := merge_concatenates
  exact ⟨hnodup, hassoc _ _ _ hnodup, by decide +kernel⟩

end Merge

/-! ## Reports -/

/-- Records that are reported together under one key: there are some, in the order in which they were
finished. -/
structure IsReport (key : ScenarioKey) (report : List Record) : Prop where
  nonempty : report ≠ []
  keys : ∀ record ∈ report, record.key = key
  order : report.Pairwise fun earlier later => earlier.finishedAt ≤ later.finishedAt

theorem isReport_singleton {key : ScenarioKey} {record : Record} (h : record.key = key) :
    IsReport key [record] where
  nonempty := List.cons_ne_nil _ _
  keys := List.forall_mem_singleton.mpr h
  order := List.pairwise_singleton _ record

section Reports

variable {key : ScenarioKey} {keys : List ScenarioKey} {report : List Record}
  {reports : List (List Record)}

/-- The records of a report have the effect of one on the keys. -/
theorem IsReport.keys_extend (h : IsReport key report) (aggregate : Aggregate) :
    (aggregate.extend report).keys = addKey aggregate.keys key := by
  obtain ⟨first, rest, rfl⟩ := List.exists_cons_of_ne_nil h.nonempty
  have hmem : key ∈ addKey aggregate.keys key := mem_addKey.mpr (.inr rfl)
  rw [Aggregate.keys_extend, List.map_cons, List.foldl_cons, h.keys first List.mem_cons_self]
  apply foldl_addKey_of_mem
  intro other hother
  obtain ⟨record, hrecord, rfl⟩ := List.mem_map.mp hother
  rwa [h.keys record (List.mem_cons_of_mem _ hrecord)]

theorem keys_extend_reports (aggregate : Aggregate) (h : List.Forall₂ IsReport keys reports) :
    (aggregate.extend reports.flatten).keys = keys.foldl addKey aggregate.keys := by
  induction h generalizing aggregate with
  | nil => rfl
  | cons hreport _ ih =>
      rw [List.flatten_cons, extend_append, ih, hreport.keys_extend]
      rfl

/-- Of a report under a new key the last record is kept. -/
theorem IsReport.extend (h : IsReport key report) (hnew : key ∉ aggregate.keys) :
    aggregate.extend report =
      { records := aggregate.records ++ report.getLast?.toList
        discarded := aggregate.discarded + (report.length - 1) } := by
  obtain ⟨hnonempty, hkeys, horder⟩ := h
  induction report using List.reverseRecOn with
  | nil => exact absurd rfl hnonempty
  | append_singleton report record ih =>
      rw [extend_append]
      change (aggregate.extend report).record record = _
      have hkey : record.key = key := hkeys record (by simp)
      rw [← hkey] at hnew
      by_cases hempty : report = []
      · subst hempty
        exact record_of_notMem hnew
      obtain ⟨last, hlast⟩ : ∃ last, report.getLast? = some last :=
        Option.ne_none_iff_exists'.mp (mt List.getLast?_eq_none_iff.mp hempty)
      have hmem := List.mem_of_getLast? hlast
      rw [List.pairwise_append] at horder
      have hlater : last.finishedAt ≤ record.finishedAt := horder.2.2 last hmem record (by simp)
      have hsame : last.key = record.key := (hkeys last (by simp [hmem])).trans hkey.symm
      have hrest : aggregate.records.map (supersede record) = aggregate.records := by
        refine (List.map_congr_left fun kept hkept => ?_).trans (List.map_id _)
        exact supersede_of_ne fun heq => hnew (heq ▸ List.mem_map_of_mem hkept)
      have hlength := List.length_pos_of_mem hmem
      rw [ih hempty (fun kept hkept => hkeys kept (by simp [hkept])) horder.1, hlast,
        record_of_mem (by simp [Aggregate.keys, hsame])]
      simp only [Option.toList_some, List.map_append, hrest, List.map_cons, List.map_nil,
        List.getLast?_append, List.getLast?_singleton, Option.some_or, List.length_append,
        List.length_singleton, supersede, hsame, hlater, and_self, if_true, mk.injEq, true_and]
      omega

/-- Where the keys of reports are all different, the last record of each is kept, and all others are
counted as discarded. -/
theorem extend_reports (aggregate : Aggregate) (h : List.Forall₂ IsReport keys reports)
    (hnodup : (aggregate.keys ++ keys).Nodup) :
    aggregate.extend reports.flatten =
      { records := aggregate.records ++ reports.filterMap List.getLast?
        discarded := aggregate.discarded + (reports.map fun report => report.length - 1).sum } := by
  induction h generalizing aggregate with
  | nil => simp [extend]
  | @cons key report keys reports hreport _ ih =>
      have hnew : key ∉ aggregate.keys := fun hmem =>
        (List.nodup_append.mp hnodup).2.2 _ hmem _ List.mem_cons_self rfl
      have hkeys : (aggregate.extend report).keys = aggregate.keys ++ [key] := by
        rw [hreport.keys_extend, addKey, if_neg hnew]
      rw [List.append_cons, ← hkeys] at hnodup
      rw [List.flatten_cons, extend_append, ih _ hnodup, hreport.extend hnew]
      have hlast : report.getLast? = some (report.getLast hreport.nonempty) :=
        List.getLast?_eq_some_getLast hreport.nonempty
      simp [hlast, Nat.add_assoc]

end Reports

end Acceptance.Aggregate
