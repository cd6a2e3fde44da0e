import Acceptance.Proofs.Feature.Untimed

/-!
# Places of results

Where no two units of a feature have the same key, the final records of a run stand at places that its
features alone decide: the number of a feature, and the key of a unit in it. Two runs of the same features
are compared place by place.
-/

namespace Acceptance

variable {α β γ δ : Type}

/-- Three lists have the same length, and entries at the same position are related. -/
inductive Aligned (R : α → β → γ → Prop) : List α → List β → List γ → Prop
  | nil : Aligned R [] [] []
  | cons {a b c as bs cs} (head : R a b c) (tail : Aligned R as bs cs) :
      Aligned R (a :: as) (b :: bs) (c :: cs)

namespace Aligned

variable {R : α → β → γ → Prop} {as as' : List α} {bs bs' : List β} {cs cs' : List γ}

theorem append (h : Aligned R as bs cs) (h' : Aligned R as' bs' cs') :
    Aligned R (as ++ as') (bs ++ bs') (cs ++ cs') := by
  induction h with
  | nil => exact h'
  | cons head _ ih => exact .cons head ih

theorem imp {S : α → β → γ → Prop} (h : Aligned R as bs cs) (hle : ∀ a b c, R a b c → S a b c) :
    Aligned S as bs cs := by
  induction h with
  | nil => exact .nil
  | cons head _ ih => exact .cons (hle _ _ _ head) ih

/-- Lists that are related to the same one are aligned along it. -/
theorem of_forall₂ {P : δ → β → Prop} {Q : δ → γ → Prop} {f : δ → α} {items : List δ}
    (hleft : List.Forall₂ P items bs) (hright : List.Forall₂ Q items cs)
    (h : ∀ item ∈ items, ∀ b c, P item b → Q item c → R (f item) b c) :
    Aligned R (items.map f) bs cs := by
  induction hleft generalizing cs with
  | nil =>
      cases hright
      exact .nil
  | cons hhead _ ih =>
      obtain ⟨hitem, hitems⟩ := List.forall_mem_cons.mp h
      cases hright with
      | cons hhead' htail' => exact .cons (hitem _ _ hhead hhead') (ih htail' hitems)

/-- A list is aligned with what is told of its positions. -/
theorem map_range (items : List α) {f : Nat → β} {g : Nat → γ}
    (h : ∀ position item, items[position]? = some item → R item (f position) (g position)) :
    Aligned R items ((List.range items.length).map f) ((List.range items.length).map g) := by
  induction items generalizing f g with
  | nil => exact .nil
  | cons item items ih =>
      rw [List.length_cons, List.range_succ_eq_map, List.map_cons, List.map_cons, List.map_map,
        List.map_map]
      exact .cons (h 0 item rfl) (ih fun position later hlater => h (position + 1) later hlater)

theorem map_left {f : δ → α} {items : List δ} (h : Aligned (fun item => R (f item)) items bs cs) :
    Aligned R (items.map f) bs cs := by
  induction h with
  | nil => exact .nil
  | cons head _ ih => exact .cons head ih

end Aligned

/-- A place in the results of a run: the number of a feature, and the key of one of its units. -/
structure Place where
  feature : Nat
  key : ScenarioKey
deriving DecidableEq

namespace FeatureRunner

variable {σ ω : Type} {left right runner : FeatureRunner σ ω} {feature : Feature} {features : List Feature}
  {R : Place → Record → Record → Prop}

/-- The places of some units of features, which are counted from a number on. -/
def placesFrom (keys : Feature → List ScenarioKey) (index : Nat) (features : List Feature) : List Place :=
  (features.zipIdx index).flatMap fun entry => (keys entry.1).map (Place.mk entry.2)

/-- The places of final records. -/
def resultPlaces (runner : FeatureRunner σ ω) (features : List Feature) : List Place :=
  placesFrom runner.unitKeys 0 features

/-- The places of the units of a pool, in the order of their numbers. -/
def unitPlaces (runner : FeatureRunner σ ω) (features : List Feature) : List Place :=
  placesFrom (fun feature => (runner.scheduled feature).map Instance.key) 0 features

theorem placesFrom_cons (keys : Feature → List ScenarioKey) (index : Nat) (feature : Feature)
    (features : List Feature) : placesFrom keys index (feature :: features) =
      (keys feature).map (Place.mk index) ++ placesFrom keys (index + 1) features := rfl

theorem map_key_placesFrom (keys : Feature → List ScenarioKey) (index : Nat) (features : List Feature) :
    (placesFrom keys index features).map Place.key = features.flatMap keys := by
  induction features generalizing index with
  | nil => rfl
  | cons feature features ih =>
      rw [placesFrom_cons, List.map_append, ih, List.map_map, List.flatMap_cons]
      exact congrArg (· ++ _) (List.map_id _)

/-! ## Reports at places -/

/-- The last records of two reports are related. -/
def EndRelated (R : Place → Record → Record → Prop) (place : Place) (report report' : List Record) :
    Prop :=
  ∀ record ∈ report.getLast?, ∀ record' ∈ report'.getLast?, R place record record'

/-- Two runs have related final records at each place where their reports end related. -/
theorem aligned_results {places : List Place} {reports reports' : List (List Record)}
    (aligned : Aligned (EndRelated R) places reports reports') (hne : ∀ report ∈ reports, report ≠ [])
    (hne' : ∀ report ∈ reports', report ≠ []) :
    Aligned R places (reports.filterMap List.getLast?) (reports'.filterMap List.getLast?) := by
  induction aligned with
  | nil => exact .nil
  | @cons place report report' places reports reports' head _ ih =>
      obtain ⟨hhead, htail⟩ := List.forall_mem_cons.mp hne
      obtain ⟨hhead', htail'⟩ := List.forall_mem_cons.mp hne'
      have hlast := List.getLast?_eq_some_getLast hhead
      have hlast' := List.getLast?_eq_some_getLast hhead'
      rw [List.filterMap_cons_some hlast, List.filterMap_cons_some hlast']
      exact .cons (head _ hlast _ hlast') (ih htail htail')

theorem EndRelated.imp {S : Place → Record → Record → Prop} {place : Place} {report report' : List Record}
    (h : EndRelated R place report report')
    (hle : ∀ record record', R place record record' → S place record record') :
    EndRelated S place report report' :=
  fun record hrecord record' hrecord' => hle _ _ (h record hrecord record' hrecord')

/-- Reports that differ in their times only end related wherever records do that differ in theirs. -/
theorem EndRelated.of_untimed {place : Place} {report report' : List Record}
    (hR : ∀ record record', record.untimed = record'.untimed → R place record record')
    (h : report.map Record.untimed = report'.map Record.untimed) : EndRelated R place report report' := by
  intro record hrecord record' hrecord'
  apply hR
  have hlast := congrArg List.getLast? h
  rw [List.getLast?_map, List.getLast?_map, hrecord, hrecord'] at hlast
  exact Option.some.inj hlast

section Known

variable (hR : ∀ place record record', record.untimed = record'.untimed → R place record record')

include hR

theorem aligned_singletons (index : Nat) {records records' : List Record}
    (h : records.map Record.untimed = records'.map Record.untimed) :
    Aligned (EndRelated R) (records.map fun record => ⟨index, record.key⟩)
      (records.map fun record => [record]) (records'.map fun record => [record]) := by
  induction records generalizing records' with
  | nil =>
      obtain rfl := List.map_eq_nil_iff.mp h.symm
      exact .nil
  | cons record records ih =>
      obtain ⟨record', records', rfl, hrecord, hrecords⟩ := List.map_eq_cons_iff.mp h.symm
      exact .cons (.of_untimed (hR _) (by simp [hrecord])) (ih hrecords.symm)

/-- What is known of a feature before it runs is the same in both runs, so its reports are aligned where
those of its instances are. -/
theorem aligned_unitReports (index now now' : Nat) {told told' : List (List Record)}
    (h : Aligned (EndRelated R) ((runner.scheduled feature).map fun instance_ => ⟨index, instance_.key⟩)
      told told') :
    Aligned (EndRelated R) ((runner.unitKeys feature).map (Place.mk index))
      (runner.unitReports now feature told) (runner.unitReports now' feature told') := by
  have hknown := aligned_singletons hR index (runner.untimed_known now now' feature)
  rw [unitKeys_eq now, List.map_append, List.map_map, List.map_map]
  exact hknown.append h

end Known

/-! ## Final records at places -/

/-- The final records of two runs stand at the same places, and are related at each of them. -/
structure PlaceByPlace (places : List Place) (R : Place → Record → Record → Prop)
    (results results' : List Record) : Prop where
  keys : results.map Record.key = places.map Place.key
  keys' : results'.map Record.key = places.map Place.key
  related : Aligned R places results results'

end FeatureRunner

end Acceptance
