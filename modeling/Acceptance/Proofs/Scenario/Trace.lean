import Acceptance.Proofs.Scenario.Retry

/-!
# Traces of scenario runs

A run of a scenario is its attempts one after another, each lived through as a whole. A run that is cut
off is so in one attempt after these, and gives no records. Which attempts are followed by another one
is not told here.
-/

namespace Acceptance.ScenarioRunner

open Acceptance.Task (Act Loss)

variable {σ ω : Type}

section Ends

variable {runner : ScenarioRunner σ ω} {instance_ : Instance} {number : Nat}
  {acts : List (Act σ Event)} {loss : Loss}

theorem not_ends_wait_loss {time : Option Nat} :
    ¬ (Task.wait time : Task σ Event PUnit).Ends acts loss.ending :=
  Task.not_ends_loss fun _ => Task.avoids_wait time

/-- Nothing is reported while a run waits. -/
theorem events_of_wait {time : Option Nat} {value : PUnit}
    (h : (Task.wait time : Task σ Event PUnit).Ends acts (.finished value)) :
    Task.events acts = [] := by
  cases time with
  | none =>
      obtain ⟨rfl, _⟩ := Task.ends_done.mp h
      rfl
  | some nanoseconds =>
      obtain ⟨_, rfl, hlater⟩ := Task.ends_sleep.mp h
      obtain ⟨rfl, _⟩ := Task.ends_done.mp hlater
      rfl

end Ends

/-! ## Runs -/

/-- What was done in an attempt, and its record. -/
structure Life (σ : Type) where
  acts : List (Act σ Event)
  record : Record

variable (runner : ScenarioRunner σ ω) (instance_ : Instance)

/-- The attempts of a run from an attempt number on, and what is left of the run after these: nothing
where the run ends with their records, or one more attempt that is cut off. -/
structure Lives (number : Nat) (lives : List (Life σ)) (rest : List (Act σ Event))
    (ending : Task.Ending (List Record)) : Prop where
  lived : ∀ k life, lives[k]? = some life → Lived runner instance_ (number + k) life.acts life.record
  ended : (lives ≠ [] ∧ rest = [] ∧ ending = .finished (lives.map Life.record)) ∨
    ∃ loss : Loss, ending = loss.ending ∧ Lost runner instance_ (number + lives.length) rest loss

variable {runner instance_} {number : Nat}

theorem Lives.single {acts : List (Act σ Event)} {record : Record}
    (h : Lived runner instance_ number acts record) :
    Lives runner instance_ number [⟨acts, record⟩] [] (.finished [record]) where
  lived := by
    intro k life hlife
    obtain ⟨hlt, rfl⟩ := List.getElem?_eq_some_iff.mp hlife
    obtain rfl : k = 0 := Nat.lt_one_iff.mp hlt
    exact h
  ended := .inl ⟨List.cons_ne_nil _ _, rfl, rfl⟩

theorem Lives.lost {rest : List (Act σ Event)} {loss : Loss}
    (h : Lost runner instance_ number rest loss) :
    Lives runner instance_ number [] rest loss.ending where
  lived := nofun
  ended := .inr ⟨loss, rfl, h⟩

/-- An attempt comes before those that are counted from the next number on. -/
theorem Lives.cons {acts rest : List (Act σ Event)} {record : Record} {lives : List (Life σ)}
    {ending : Task.Ending (List Record)} (h : Lived runner instance_ number acts record)
    (hlives : Lives runner instance_ (number + 1) lives rest ending) :
    Lives runner instance_ number (⟨acts, record⟩ :: lives) rest (ending.map (record :: ·)) where
  lived
    | 0, _, rfl => h
    | k + 1, life, hlife => by
        have hlater := hlives.lived k life hlife
        rwa [Nat.add_right_comm, Nat.add_assoc] at hlater
  ended := by
    obtain ⟨_, hrest, rfl⟩ | ⟨loss, rfl, hlost⟩ := hlives.ended
    · exact .inl ⟨List.cons_ne_nil _ _, hrest, rfl⟩
    · refine .inr ⟨loss, Task.Loss.map_ending loss _, ?_⟩
      rwa [Nat.add_right_comm, Nat.add_assoc] at hlost

/-- How a run goes on from an attempt number: the attempt is the last one, or the run goes on from the
next number because the budget of some definition or of the plan is not used up, or the attempt is cut
off. -/
inductive Proceeds (runner : ScenarioRunner σ ω) (instance_ : Instance) (number : Nat) :
    List (Act σ Event) → Task.Ending (List Record) → Prop
  | last {acts record} (h : Lived runner instance_ number acts record) :
      Proceeds runner instance_ number acts (.finished [record])
  | again {acts later record ending} (h : Lived runner instance_ number acts record)
      (within : number ≤ runner.maxBudget (runner.plan instance_))
      (hlater : (runner.attemptsFrom instance_ (runner.plan instance_) (number + 1)).Ends later ending) :
      Proceeds runner instance_ number (acts ++ later) (ending.map (record :: ·))
  | lost {acts loss} (h : Lost runner instance_ number acts loss) :
      Proceeds runner instance_ number acts loss.ending

theorem proceeds_of_ends {acts : List (Act σ Event)} {ending : Task.Ending (List Record)}
    (h : (runner.attemptsFrom instance_ (runner.plan instance_) number).Ends acts ending) :
    Proceeds runner instance_ number acts ending := by
  rw [attemptsFrom] at h
  obtain ⟨startedAt, _, rfl, hrest⟩ := Task.ends_clock.mp h
  simp only [bind, pure, Task.done_bind] at hrest
  obtain ⟨ended, opening, _, rfl, hopening, hrest⟩ | ⟨loss, rfl, hlost⟩ :=
    Task.ends_bind_or_lost.mp hrest
  swap
  · exact .lost (.opening (openingLost_of_ends hlost))
  have hopened := opened_of_ends hopening
  obtain ⟨verdict, deciding, _, rfl, hdeciding, hrest⟩ | ⟨loss, rfl, hlost⟩ :=
    Task.ends_bind_or_lost.mp hrest
  swap
  · obtain ⟨failure, asking, hfailure, rfl, hasked⟩ := asked_of_decide hlost
    exact .lost (.deciding hopened hfailure hasked)
  obtain ⟨hdecided, hstatus, hreported⟩ := reported_of_decide hdeciding
  cases verdict with
  | final status error =>
      cases hstatus
      obtain ⟨record, closing, _, rfl, hfinish, hrest⟩ | ⟨loss, rfl, hlost⟩ :=
        Task.ends_bind_or_lost.mp hrest
      · obtain ⟨closing, errors, finishedAt, rfl, hclosed, rfl⟩ := closed_of_finish hfinish
        obtain ⟨rfl, rfl⟩ := Task.ends_done.mp hrest
        have hlived := Lived.intro startedAt finishedAt hopened hdecided hclosed hreported
          (show Task.events [] = [] from rfl)
        rw [List.append_nil]
        exact .last hlived
      · exact .lost (.closing hopened hdecided (closingLost_of_finish hlost))
  | again error within =>
      have hfailed : Status.failed = .ofError ended.failure := hstatus
      rw [hfailed] at hrest
      obtain ⟨record, closing, _, rfl, hfinish, hrest⟩ | ⟨loss, rfl, hlost⟩ :=
        Task.ends_bind_or_lost.mp hrest
      swap
      · exact .lost (.closing hopened hdecided (closingLost_of_finish hlost))
      obtain ⟨closing, errors, finishedAt, rfl, hclosed, rfl⟩ := closed_of_finish hfinish
      obtain ⟨_, waiting, later, rfl, hwait, hrest⟩ | ⟨loss, rfl, hlost⟩ :=
        Task.ends_bind_or_lost.mp hrest
      swap
      · exact absurd hlost not_ends_wait_loss
      obtain ⟨own, hlater, rfl⟩ := Task.ends_bind_done.mp hrest
      have hlived := Lived.intro startedAt finishedAt hopened hdecided hclosed hreported
        (events_of_wait hwait)
      have hagain := Proceeds.again hlived within hlater
      simp only [List.cons_append, List.append_assoc, List.nil_append] at hagain ⊢
      exact hagain

/-- A run goes through its attempts, and none of them has a number beyond one more than the largest
budget: each one that follows another is within it. -/
theorem bounded_lives_of_ends {number : Nat} {acts : List (Act σ Event)}
    {ending : Task.Ending (List Record)}
    (h : (runner.attemptsFrom instance_ (runner.plan instance_) number).Ends acts ending) :
    ∃ lives rest, acts = lives.flatMap Life.acts ++ rest ∧
      Lives runner instance_ number lives rest ending ∧
      (number ≤ runner.maxBudget (runner.plan instance_) + 1 →
        number + lives.length ≤ runner.maxBudget (runner.plan instance_) + 2 ∧
        ∀ loss : Loss, ending = loss.ending →
          number + lives.length ≤ runner.maxBudget (runner.plan instance_) + 1) := by
  cases proceeds_of_ends h with
  | @last acts record hlived =>
      refine ⟨[⟨acts, record⟩], [], by simp, .single hlived, fun hnumber => ⟨?_, ?_⟩⟩
      · exact Nat.succ_le_succ hnumber
      · rintro (panic | _) heq <;> cases heq
  | lost hlost =>
      refine ⟨[], acts, rfl, .lost hlost, fun hnumber => ⟨Nat.le_succ_of_le hnumber, fun _ _ => hnumber⟩⟩
  | @again acts later record ending hlived within hlater =>
      -- The next number is within the bound whatever this one was: the verdict says so.
      obtain ⟨lives, rest, rfl, hlives, hbounded⟩ := bounded_lives_of_ends hlater
      obtain ⟨hall, hcut⟩ := hbounded (Nat.succ_le_succ within)
      refine ⟨⟨acts, record⟩ :: lives, rest, by simp, hlives.cons hlived, fun _ => ?_⟩
      rw [List.length_cons, Nat.add_comm lives.length, ← Nat.add_assoc]
      refine ⟨hall, fun loss heq => hcut loss ?_⟩
      cases ending <;> cases loss <;> cases heq <;> rfl
termination_by runner.maxBudget (runner.plan instance_) + 1 - number

theorem lives_of_ends {number : Nat} {acts : List (Act σ Event)}
    {ending : Task.Ending (List Record)}
    (h : (runner.attemptsFrom instance_ (runner.plan instance_) number).Ends acts ending) :
    ∃ lives rest, acts = lives.flatMap Life.acts ++ rest ∧
      Lives runner instance_ number lives rest ending := by
  obtain ⟨lives, rest, hacts, hlives, _⟩ := bounded_lives_of_ends h
  exact ⟨lives, rest, hacts, hlives⟩

/-- A run that ends with records is nothing but the attempts that these are made for. -/
theorem lives_of_finished {number : Nat} {acts : List (Act σ Event)} {records : List Record}
    (h : (runner.attemptsFrom instance_ (runner.plan instance_) number).Ends acts (.finished records)) :
    ∃ lives, acts = lives.flatMap Life.acts ∧ records = lives.map Life.record ∧
      Lives runner instance_ number lives [] (.finished (lives.map Life.record)) := by
  obtain ⟨lives, rest, rfl, hlives⟩ := lives_of_ends h
  obtain ⟨_, rfl, heq⟩ | ⟨loss, heq, _⟩ := hlives.ended
  · cases heq
    exact ⟨lives, List.append_nil _, rfl, hlives⟩
  · exact absurd heq.symm Task.Loss.ending_ne_finished

/-- What holds of the record of every attempt that is lived through holds of all records of a run. -/
theorem forall_records_of_lived {number : Nat} {acts : List (Act σ Event)} {records : List Record}
    (h : (runner.attemptsFrom instance_ (runner.plan instance_) number).Ends acts (.finished records))
    {holds : Record → Prop}
    (hlived : ∀ number acts record, Lived runner instance_ number acts record → holds record) :
    ∀ record ∈ records, holds record := by
  obtain ⟨lives, _, rfl, hlives⟩ := lives_of_finished h
  refine List.forall_mem_map.mpr fun life hlife => ?_
  obtain ⟨k, hk⟩ := List.getElem?_of_mem hlife
  exact hlived (number + k) life.acts life.record (hlives.lived k life hk)

/-- A suite as that of `stubborn`, with a hook after each attempt. -/
def attended : ScenarioRunner PUnit PUnit :=
  let hook : HookAction PUnit PUnit := ⟨fun _ => .done (.done (.ok ⟨⟩)), fun _ => .done (.done (.ok ⟨⟩))⟩
  { stubborn with suite := { stubborn.suite with hooks := Hooks.register {} .after hook [] 0 } }

theorem mem_events_of_allHooksRun {ρ : Type} {call : Suite.HookCall σ ω ρ} {context : HookContext}
    {hooks : List (Hook (HookAction σ ω))} {around around' : ρ} {acts : List (Act σ Event)}
    {errors : List HookError} (h : Suite.AllHooksRun call context hooks around acts errors around') :
    ∀ hook ∈ hooks, Suite.hookEvent hook context ∈ Task.events acts := by
  induction h with
  | nil _ => simp
  | @cons hook rest _ _ _ _ _ acts later _ _ ih =>
      rw [Task.events_cons, Task.events_append]
      rintro found (_ | ⟨_, hfound⟩)
      · exact List.mem_cons_self
      · exact List.mem_append_right _ (List.mem_append_right _ (ih found hfound))

/-- All hooks after an attempt that is lived through are called in it. -/
theorem Lived.calls_after {acts : List (Act σ Event)} {record : Record}
    (h : Lived runner instance_ number acts record) :
    let context := hookContext instance_ none (some record.status) number
    ∀ hook ∈ runner.suite.hooksFor .after context, Suite.hookEvent hook context ∈ Task.events acts := by
  intro context hook hhook
  obtain ⟨startedAt, finishedAt, hopened, hdecided, hclosed, hreported, hwaiting⟩ := h
  rename_i opening deciding closing waiting ended error errors
  have hcalled : Suite.hookEvent hook context ∈ Task.events closing := by
    obtain ⟨steps, failure, world⟩ := ended
    cases hclosed with
    | onWorld hhooks _ =>
        rw [Task.events_append]
        exact List.mem_append_left _ (mem_events_of_allHooksRun hhooks hook hhook)
    | alone hhooks => exact mem_events_of_allHooksRun hhooks hook hhook
  simp only [Task.events_cons, Task.events_append, List.mem_append]
  exact .inr (.inr (.inr (.inl hcalled)))

/-- A suite as that of `attended`, with a strategy that crashes. -/
def forsaken : ScenarioRunner PUnit PUnit :=
  { attended with strategy := fun _ _ => .crash (.text "no answer") }

end Acceptance.ScenarioRunner
