import Acceptance.Proofs.Feature.Unit

/-!
# Slots of features

On a pool every feature has a slot that counts its units down. The unit that ends last calls the hooks
after the feature, with the verdict that the slot has gathered by then. This module says what a single
unit does to the slots when it is resumed.
-/

namespace Acceptance

namespace Slot

/-- The slot when one more unit has ended. -/
def pass (failed : Bool) (slot : Slot) : Slot :=
  { slot with failed := slot.failed || failed, pending := slot.pending - 1 }

/-- The slot when the hooks after its feature are about to be called. -/
def finish (slot : Slot) : Slot := { slot with finished := true }

/-- The slot when hooks after its feature have failed. -/
def amend (errors : List HookError) (slot : Slot) : Slot :=
  { slot with hookErrors := slot.hookErrors ++ errors }

end Slot

/-- What the units of a pool have told so far: the units that have told nothing yet, and the records
of the others in the order in which they told them. -/
structure Books where
  waiting : List Nat
  told : List (Nat × List Record)

namespace Books

variable (owner : Nat → Option Nat) (books : Books) (index : Nat)

/-- The number of units of a feature that have told nothing yet. -/
def pending : Nat := books.waiting.countP fun unit => owner unit = some index

/-- What the units of a feature have told. -/
def toldOf : List (Nat × List Record) := books.told.filter fun entry => owner entry.1 = some index

/-- The books when one more unit has told its records. -/
def pass (unit : Nat) (records : List Record) : Books :=
  ⟨books.waiting.erase unit, books.told ++ [(unit, records)]⟩

/-- The books when a unit has gone on that has not told its records yet. -/
def after {σ : Type} (unit : Nat) : Task.Standing σ Event (List Record) → Books
  | .finished records => books.pass unit records
  | _ => books

variable {owner books index} {unit : Nat} {records : List Record}

theorem after_of_isOpen {σ : Type} {standing : Task.Standing σ Event (List Record)}
    (h : standing.IsOpen) : books.after unit standing = books := by
  cases standing with
  | finished records => cases h
  | _ => rfl

theorem mem_toldOf (howner : owner unit = some index) :
    (unit, records) ∈ books.toldOf owner index ↔ (unit, records) ∈ books.told := by
  simp [toldOf, howner]

theorem pending_pos (hmem : unit ∈ books.waiting) (howner : owner unit = some index) :
    0 < books.pending owner index :=
  List.countP_pos_iff.mpr ⟨unit, hmem, by simpa using howner⟩

theorem pending_pass (hmem : unit ∈ books.waiting) (howner : owner unit = some index) :
    (books.pass unit records).pending owner index = books.pending owner index - 1 := by
  simp [pending, pass, List.countP_erase, hmem, howner]

theorem pending_pass_of_ne (howner : owner unit ≠ some index) :
    (books.pass unit records).pending owner index = books.pending owner index := by
  simp [pending, pass, List.countP_erase, howner]

theorem toldOf_pass (howner : owner unit = some index) :
    (books.pass unit records).toldOf owner index = books.toldOf owner index ++ [(unit, records)] := by
  simp [toldOf, pass, howner]

theorem toldOf_pass_of_ne (howner : owner unit ≠ some index) :
    (books.pass unit records).toldOf owner index = books.toldOf owner index := by
  simp [toldOf, pass, howner]

end Books

namespace FeatureRunner

variable {σ ω : Type} (runner : FeatureRunner σ ω)

/-- How a unit that has called the hooks after its feature goes on. -/
def amendWith (index : Nat) (records : List Record) (errors : List HookError) :
    Task (σ × List Slot) Event (List Record) :=
  (modifySlot index (Slot.amend errors)).bind fun _ => .done records

variable {runner}

theorem endUnit_eq (feature : Feature) (index : Nat) (failed : Bool) :
    runner.endUnit feature index failed =
      (modifySlot index (Slot.pass failed)).bind fun _ => (getSlot index).bind fun slot =>
        if slot.pending = 0 then
          (modifySlot index Slot.finish).bind fun _ =>
            (runner.afterFeature feature slot.failed).onFirst.bind fun errors =>
              modifySlot index (Slot.amend errors)
        else .done ⟨⟩ :=
  rfl

section Resume

variable (time : Nat) (state : σ) (slots : List Slot)

/-- A unit whose records are known notes its end, and goes on to the hooks after its feature if it is
the last one. -/
theorem resume_endWith (feature : Feature) (index : Nat) (records : List Record) :
    (runner.endWith feature index records).resume time (state, slots) =
      let passed := slots.modify index (Slot.pass (Pool.Machine.endsFailed records))
      if (passed.getD index default).pending = 0 then
        ((runner.afterFeature feature (passed.getD index default).failed).onFirst.bind
          (amendWith index records)).resume time (state, passed.modify index Slot.finish)
      else ⟨[], (state, passed), .finished records⟩ := by
  rw [endWith, endUnit_eq]
  simp only [modifySlot, getSlot, Task.modify, Task.get, bind, pure, Task.bind, Task.resume]
  split
  next =>
    simp only [Task.bind, Task.resume, Task.bind_assoc]
    rfl
  next => rfl

end Resume

/-! ## Slots and books -/

section Agreement

variable (runner) (features : List Feature) (owner : Nat → Option Nat) (books : Books)
  (ended : Nat → Prop)

/-- Whether a template of a feature or one of its units has failed, as far as is told. -/
def failedSoFar (index : Nat) (feature : Feature) : Bool :=
  (runner.resultOf 0 feature [] []).aggregate.hasFailures ||
    (books.toldOf owner index).any fun entry => Pool.Machine.endsFailed entry.2

/-- A slot agrees with the books, given which units have ended. -/
structure SlotAgrees (index : Nat) (feature : Feature) (slot : Slot) : Prop where
  pending : slot.pending = books.pending owner index
  failed : slot.failed = runner.failedSoFar owner books index feature
  unfinished : slot.pending ≠ 0 ∨ runner.scheduled feature = [] →
    slot.finished = false ∧ slot.hookErrors = []
  /-- The last unit of a feature calls the hooks after it, and has ended when they have. -/
  finished : slot.pending = 0 → runner.scheduled feature ≠ [] → slot.finished = true ∧
    ∃ unit records, (books.toldOf owner index).getLast? = some (unit, records) ∧
      (¬ ended unit → slot.hookErrors = []) ∧
      (ended unit → ∃ acts, (runner.afterFeature feature slot.failed).Ends acts
        (.finished slot.hookErrors))

/-- The slots of all features agree with the books. -/
structure SlotsAgree (slots : List Slot) : Prop where
  length : slots.length = features.length
  agrees : ∀ index feature slot, features[index]? = some feature → slots[index]? = some slot →
    runner.SlotAgrees owner books ended index feature slot

/-- What is left of a unit that goes on: it has not told its records yet, or it is the last one of its
feature and calls the hooks after it. -/
inductive Going (unit : Nat) : Task (σ × List Slot) Event (List Record) → Prop
  | telling {index : Nat} {feature : Feature} (tell : Task σ Event (List Record))
      (howner : owner unit = some index) (hfeature : features[index]? = some feature)
      (hscheduled : runner.scheduled feature ≠ []) (hwaiting : unit ∈ books.waiting) :
      Going unit (tell.onFirst.bind (runner.endWith feature index))
  | closing {index : Nat} {feature : Feature} {records : List Record}
      {acts : List (Task.Act σ Event)} {after : Task σ Event (List HookError)}
      (hfeature : features[index]? = some feature) (hscheduled : runner.scheduled feature ≠ [])
      (hpending : books.pending owner index = 0)
      (hlast : (books.toldOf owner index).getLast? = some (unit, records))
      (hcourse : (runner.afterFeature feature
        (runner.failedSoFar owner books index feature)).Course acts after) :
      Going unit (after.onFirst.bind (amendWith index records))

/-- How a unit may stand when it has been resumed. -/
def Resumed (unit : Nat) (slots : List Slot) :
    Task.Standing (σ × List Slot) Event (List Record) → Prop
  | .finished records => (unit, records) ∈ books.told ∧
    runner.SlotsAgree features owner books (fun other => ended other ∨ other = unit) slots
  | .crashed _ => runner.SlotsAgree features owner books ended slots
  | .paused rest => runner.SlotsAgree features owner books ended slots ∧
    runner.Going features owner books unit rest
  | .asleep _ rest => runner.SlotsAgree features owner books ended slots ∧
    runner.Going features owner books unit rest
  | .hung => runner.SlotsAgree features owner books ended slots ∧
    runner.Going features owner books unit .hang

end Agreement

section Units

variable {features : List Feature} {owner : Nat → Option Nat} {books books' : Books}
  {ended ended' : Nat → Prop} {index unit : Nat} {feature : Feature} {slots : List Slot}
  {records : List Record}

theorem mem_told_of_last {entry : Nat × List Record}
    (h : (books.toldOf owner index).getLast? = some entry) :
    entry ∈ books.told ∧ owner entry.1 = some index := by
  have hmem := List.mem_filter.mp (List.mem_of_getLast? h)
  exact ⟨hmem.1, by simpa using hmem.2⟩

/-- Where nothing is told of a feature and none of its units ends, its slot still agrees. -/
theorem SlotAgrees.frame {slot : Slot} (h : runner.SlotAgrees owner books ended index feature slot)
    (hpending : books'.pending owner index = books.pending owner index)
    (htold : books'.toldOf owner index = books.toldOf owner index)
    (hended : ∀ unit, owner unit = some index → (ended' unit ↔ ended unit)) :
    runner.SlotAgrees owner books' ended' index feature slot where
  pending := h.pending.trans hpending.symm
  failed := by rw [h.failed, failedSoFar, failedSoFar, htold]
  unfinished := h.unfinished
  finished := by
    intro hzero hscheduled
    obtain ⟨hfinished, unit, records, hlast, hopen, hclosed⟩ := h.finished hzero hscheduled
    have hiff := hended unit (mem_told_of_last hlast).2
    refine ⟨hfinished, unit, records, htold ▸ hlast, ?_, ?_⟩
    · exact fun h => hopen (mt hiff.mpr h)
    · exact fun h => hclosed (hiff.mp h)

/-- Changing the slot of one feature leaves the others as they are. -/
theorem SlotsAgree.modify (agree : runner.SlotsAgree features owner books ended slots)
    (f : Slot → Slot)
    (hself : ∀ feature slot, features[index]? = some feature → slots[index]? = some slot →
      runner.SlotAgrees owner books' ended' index feature (f slot))
    (hothers : ∀ other, other ≠ index → books'.pending owner other = books.pending owner other ∧
      books'.toldOf owner other = books.toldOf owner other ∧
      ∀ unit, owner unit = some other → (ended' unit ↔ ended unit)) :
    runner.SlotsAgree features owner books' ended' (slots.modify index f) where
  length := (List.length_modify f slots index).trans agree.length
  agrees := by
    intro other feature slot hfeature hslot
    by_cases hother : other = index
    · subst hother
      rw [List.getElem?_modify_eq, Option.map_eq_map, Option.map_eq_some_iff] at hslot
      obtain ⟨before, hbefore, rfl⟩ := hslot
      exact hself feature before hfeature hbefore
    · rw [List.getElem?_modify_ne f slots (Ne.symm hother)] at hslot
      obtain ⟨hpending, htold, hended⟩ := hothers other hother
      exact (agree.agrees other feature slot hfeature hslot).frame hpending htold hended

/-! ## A unit tells its records -/

/-- The slot of a feature gathers what a unit tells. -/
theorem SlotAgrees.pass {slot : Slot} (h : runner.SlotAgrees owner books ended index feature slot)
    (howner : owner unit = some index) (hwaiting : unit ∈ books.waiting) (records : List Record) :
    (slot.pass (Pool.Machine.endsFailed records)).pending =
        (books.pass unit records).pending owner index ∧
      (slot.pass (Pool.Machine.endsFailed records)).failed =
        runner.failedSoFar owner (books.pass unit records) index feature ∧
      slot.finished = false ∧ slot.hookErrors = [] := by
  have hpositive := Books.pending_pos hwaiting howner
  refine ⟨?_, ?_, h.unfinished (.inl (h.pending ▸ Nat.ne_of_gt hpositive))⟩
  · rw [Books.pending_pass hwaiting howner, ← h.pending]
    rfl
  · rw [failedSoFar, Books.toldOf_pass howner, List.any_append, ← Bool.or_assoc]
    simp [Slot.pass, h.failed, failedSoFar]

/-- What a unit sees in the slot of its feature when it has noted its end there. -/
theorem SlotsAgree.getD_pass (agree : runner.SlotsAgree features owner books ended slots)
    (howner : owner unit = some index) (hfeature : features[index]? = some feature)
    (hwaiting : unit ∈ books.waiting) (records : List Record) :
    ((slots.modify index (Slot.pass (Pool.Machine.endsFailed records))).getD index default).pending =
        (books.pass unit records).pending owner index ∧
      ((slots.modify index (Slot.pass (Pool.Machine.endsFailed records))).getD index default).failed =
        runner.failedSoFar owner (books.pass unit records) index feature := by
  obtain ⟨slot, hslot⟩ : ∃ slot, slots[index]? = some slot :=
    ⟨_, List.getElem?_eq_getElem (agree.length ▸ (List.getElem?_eq_some_iff.mp hfeature).1)⟩
  obtain ⟨hpending, hfailed, _, _⟩ :=
    (agree.agrees index feature slot hfeature hslot).pass howner hwaiting records
  rw [List.getD_eq_getElem?_getD, List.getElem?_modify_eq, hslot]
  exact ⟨hpending, hfailed⟩

/-- What a unit tells does not matter for other features. -/
theorem pass_others (howner : owner unit = some index) (records : List Record) {other : Nat}
    (hother : other ≠ index) :
    (books.pass unit records).pending owner other = books.pending owner other ∧
      (books.pass unit records).toldOf owner other = books.toldOf owner other := by
  have hne : owner unit ≠ some other := by
    rw [howner]
    exact fun heq => hother (Option.some.inj heq).symm
  exact ⟨Books.pending_pass_of_ne hne, Books.toldOf_pass_of_ne hne⟩

/-- That a unit ends does not matter for other features. -/
theorem ended_others (howner : owner unit = some index) {other found : Nat} (hother : other ≠ index)
    (hfound : owner found = some other) : ended found ∨ found = unit ↔ ended found := by
  rw [or_iff_left_iff_imp]
  rintro rfl
  exact absurd (Option.some.inj (hfound.symm.trans howner)) hother

/-- A unit that is not the last one of its feature ends when it has told its records. -/
theorem SlotsAgree.pass (agree : runner.SlotsAgree features owner books ended slots)
    (howner : owner unit = some index) (hwaiting : unit ∈ books.waiting) (records : List Record)
    (hpending : (books.pass unit records).pending owner index ≠ 0) :
    runner.SlotsAgree features owner (books.pass unit records)
      (fun other => ended other ∨ other = unit)
      (slots.modify index (Slot.pass (Pool.Machine.endsFailed records))) := by
  apply agree.modify
  · intro feature slot hfeature hslot
    obtain ⟨hpending', hfailed, hfinished, herrors⟩ :=
      (agree.agrees index feature slot hfeature hslot).pass howner hwaiting records
    exact
      { pending := hpending', failed := hfailed, unfinished := fun _ => ⟨hfinished, herrors⟩
        finished := fun hzero => absurd (hpending'.symm.trans hzero) hpending }
  · intro other hother
    obtain ⟨hpending, htold⟩ := pass_others howner records hother
    exact ⟨hpending, htold, fun _ hfound => ended_others howner hother hfound⟩

/-- The last unit of a feature goes on to the hooks after it when it has told its records. -/
theorem SlotsAgree.pass_last (agree : runner.SlotsAgree features owner books ended slots)
    (howner : owner unit = some index) (hwaiting : unit ∈ books.waiting) (hended : ¬ ended unit)
    (records : List Record) (hpending : (books.pass unit records).pending owner index = 0)
    (hfeature : features[index]? = some feature) (hscheduled : runner.scheduled feature ≠ []) :
    runner.SlotsAgree features owner (books.pass unit records) ended
      ((slots.modify index (Slot.pass (Pool.Machine.endsFailed records))).modify index
        Slot.finish) := by
  rw [List.modify_modify_eq]
  apply agree.modify
  · intro found slot hfound hslot
    cases hfeature.symm.trans hfound
    obtain ⟨hpending', hfailed, _, herrors⟩ :=
      (agree.agrees index feature slot hfeature hslot).pass howner hwaiting records
    refine
      { pending := hpending', failed := hfailed, unfinished := ?_, finished := fun _ _ => ⟨rfl, ?_⟩ }
    · rintro (hopen | hempty)
      · exact absurd (hpending'.trans hpending) hopen
      · exact absurd hempty hscheduled
    · refine ⟨unit, records, ?_, fun _ => herrors, fun h => absurd h hended⟩
      rw [Books.toldOf_pass howner, List.getLast?_append, List.getLast?_singleton, Option.some_or]
  · intro other hother
    obtain ⟨hpending, htold⟩ := pass_others howner records hother
    exact ⟨hpending, htold, fun _ _ => Iff.rfl⟩

/-- The last unit of a feature ends when the hooks after the feature have. -/
theorem SlotsAgree.amend {errors : List HookError} {acts : List (Task.Act σ Event)}
    (agree : runner.SlotsAgree features owner books ended slots)
    (hpending : books.pending owner index = 0)
    (hlast : (books.toldOf owner index).getLast? = some (unit, records)) (hended : ¬ ended unit)
    (hfeature : features[index]? = some feature) (hscheduled : runner.scheduled feature ≠ [])
    (hends : (runner.afterFeature feature (runner.failedSoFar owner books index feature)).Ends acts
      (.finished errors)) :
    runner.SlotsAgree features owner books (fun other => ended other ∨ other = unit)
      (slots.modify index (Slot.amend errors)) := by
  have howner := (mem_told_of_last hlast).2
  apply agree.modify
  · intro found slot hfound hslot
    cases hfeature.symm.trans hfound
    have h := agree.agrees index feature slot hfeature hslot
    have hzero : slot.pending = 0 := h.pending.trans hpending
    obtain ⟨hfinished, other, others, hlast', hopen, _⟩ := h.finished hzero hscheduled
    cases hlast.symm.trans hlast'
    refine
      { pending := h.pending, failed := h.failed, unfinished := ?_
        finished := fun _ _ => ⟨hfinished, unit, records, hlast, ?_, fun _ => ⟨acts, ?_⟩⟩ }
    · rintro (hpositive | hempty)
      · exact absurd hzero hpositive
      · exact absurd hempty hscheduled
    · exact fun hnot => absurd (.inr rfl) hnot
    · rw [Slot.amend, hopen hended, List.nil_append, h.failed]
      exact hends
  · exact fun other hother => ⟨rfl, rfl, fun _ hfound => ended_others howner hother hfound⟩

/-! ## A unit goes on -/

variable (time : Nat) (state : σ)

theorem resumed_iff_of_isOpen {standing : Task.Standing (σ × List Slot) Event (List Record)}
    (hopen : standing.IsOpen) :
    runner.Resumed features owner books ended unit slots standing ↔
      runner.SlotsAgree features owner books ended slots ∧
        runner.Going features owner books unit standing.rest := by
  cases standing with
  | finished records => cases hopen
  | crashed panic => cases hopen
  | _ => exact Iff.rfl

/-- The last unit of a feature goes on with the hooks after the feature. -/
theorem resumed_closing {acts : List (Task.Act σ Event)} {after : Task σ Event (List HookError)}
    (agree : runner.SlotsAgree features owner books ended slots) (hended : ¬ ended unit)
    (hfeature : features[index]? = some feature) (hscheduled : runner.scheduled feature ≠ [])
    (hpending : books.pending owner index = 0)
    (hlast : (books.toldOf owner index).getLast? = some (unit, records))
    (hcourse : (runner.afterFeature feature
      (runner.failedSoFar owner books index feature)).Course acts after) :
    runner.Resumed features owner books ended unit
      ((after.onFirst.bind (amendWith index records)).resume time (state, slots)).state.2
      ((after.onFirst.bind (amendWith index records)).resume time (state, slots)).standing := by
  obtain ⟨own, hown, _⟩ := Task.resume_course after time state
  have hall := hcourse.append hown
  obtain ⟨errors, hstanding⟩ | ⟨panic, hstanding⟩ | hopen :=
    (after.resume time state).standing.ended_or_isOpen
  · rw [hstanding] at hall
    rw [Task.resume_onFirst_bind, hstanding]
    exact ⟨(mem_told_of_last hlast).1, agree.amend hpending hlast hended hfeature hscheduled hall⟩
  · rw [Task.resume_onFirst_bind, hstanding]
    exact agree
  · rw [Task.resume_onFirst_bind_of_isOpen hopen]
    obtain ⟨hopen', hrest⟩ := hopen.onFirst_bind (amendWith index records)
    exact (resumed_iff_of_isOpen hopen').mpr
      ⟨agree, hrest ▸ .closing hfeature hscheduled hpending hlast hall⟩

/-- A unit that has told its records has ended, or goes on to the hooks after its feature. -/
theorem resumed_endWith (agree : runner.SlotsAgree features owner books ended slots)
    (hended : ¬ ended unit) (howner : owner unit = some index)
    (hfeature : features[index]? = some feature) (hscheduled : runner.scheduled feature ≠ [])
    (hwaiting : unit ∈ books.waiting) (records : List Record) :
    runner.Resumed features owner (books.pass unit records) ended unit
      ((runner.endWith feature index records).resume time (state, slots)).state.2
      ((runner.endWith feature index records).resume time (state, slots)).standing := by
  obtain ⟨hpending, hfailed⟩ := agree.getD_pass howner hfeature hwaiting records
  rw [resume_endWith]
  dsimp only
  rw [hpending, hfailed]
  split
  next hlast =>
    refine resumed_closing time state
      (agree.pass_last howner hwaiting hended records hlast hfeature hscheduled) hended hfeature
      hscheduled hlast ?_ (.stay _)
    rw [Books.toldOf_pass howner, List.getLast?_append, List.getLast?_singleton, Option.some_or]
  next hopen =>
    refine ⟨?_, agree.pass howner hwaiting records hopen⟩
    exact List.mem_append_right _ (List.mem_singleton_self _)

/-- A unit that has not told its records yet tells them when they are known. -/
theorem resumed_telling (agree : runner.SlotsAgree features owner books ended slots)
    (hended : ¬ ended unit) (howner : owner unit = some index)
    (hfeature : features[index]? = some feature) (hscheduled : runner.scheduled feature ≠ [])
    (hwaiting : unit ∈ books.waiting) (tell : Task σ Event (List Record)) :
    runner.Resumed features owner (books.after unit (tell.resume time state).standing) ended unit
      ((tell.onFirst.bind (runner.endWith feature index)).resume time (state, slots)).state.2
      ((tell.onFirst.bind (runner.endWith feature index)).resume time (state, slots)).standing := by
  obtain ⟨records, hstanding⟩ | ⟨panic, hstanding⟩ | hopen :=
    (tell.resume time state).standing.ended_or_isOpen
  · rw [Task.resume_onFirst_bind, hstanding]
    exact resumed_endWith time _ agree hended howner hfeature hscheduled hwaiting records
  · rw [Task.resume_onFirst_bind, hstanding]
    exact agree
  · rw [Task.resume_onFirst_bind_of_isOpen hopen, Books.after_of_isOpen hopen]
    obtain ⟨hopen', hrest⟩ := hopen.onFirst_bind (runner.endWith feature index)
    exact (resumed_iff_of_isOpen hopen').mpr
      ⟨agree, hrest ▸ .telling _ howner hfeature hscheduled hwaiting⟩

/-- The books stay as they are, or a unit that waits tells its records. -/
def Tells (books books' : Books) (unit : Nat) : Prop :=
  books' = books ∨ unit ∈ books.waiting ∧ ∃ records, books' = books.pass unit records

theorem tells_after (hwaiting : unit ∈ books.waiting)
    (standing : Task.Standing σ Event (List Record)) :
    Tells books (books.after unit standing) unit := by
  cases standing with
  | finished records => exact .inr ⟨hwaiting, records, rfl⟩
  | _ => exact .inl rfl

/-- When a unit goes on it may tell its records, and the slots agree with the books again. -/
theorem Going.resume {task : Task (σ × List Slot) Event (List Record)}
    (going : runner.Going features owner books unit task)
    (agree : runner.SlotsAgree features owner books ended slots) (hended : ¬ ended unit) :
    ∃ books', Tells books books' unit ∧
      runner.Resumed features owner books' ended unit (task.resume time (state, slots)).state.2
        (task.resume time (state, slots)).standing := by
  cases going with
  | closing hfeature hscheduled hpending hlast hcourse =>
      refine ⟨books, .inl rfl, ?_⟩
      exact resumed_closing time state agree hended hfeature hscheduled hpending hlast hcourse
  | @telling index feature tell howner hfeature hscheduled hwaiting =>
      exact ⟨_, tells_after hwaiting (tell.resume time state).standing,
        resumed_telling time state agree hended howner hfeature hscheduled hwaiting tell⟩

end Units

end FeatureRunner

end Acceptance
