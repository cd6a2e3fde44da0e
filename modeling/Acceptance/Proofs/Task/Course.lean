import Acceptance.Task
import Mathlib

/-!
# Courses of tasks

A course is what a task does from its beginning up to some later point, together with what it learns
on the way. The states that it reads and the times that it is told are free, so the courses of a task
cover whatever others do while it is suspended. A course that leaves nothing to do ends the task.
-/

namespace Acceptance.Task

variable {σ ρ ε α β : Type}

/-- One thing that a task does, with what it learns from it. -/
inductive Act (σ ε : Type)
  | read (state : σ)
  | write (state : σ)
  | emit (event : ε)
  | clock (now : Nat)
  | pause
  | sleep (nanoseconds : Nat)

/-- The event that an act reports. -/
def Act.event? : Act σ ε → Option ε
  | emit event => some event
  | _ => none

/-- The time that an act is told. -/
def Act.time? : Act σ ε → Option Nat
  | clock now => some now
  | _ => none

/-- The events that are reported in the course of some acts. -/
def events (acts : List (Act σ ε)) : List ε := acts.filterMap Act.event?

/-- The times that are told in the course of some acts. -/
def times (acts : List (Act σ ε)) : List Nat := acts.filterMap Act.time?

/-- The clock never goes backwards in the course of some acts. -/
def InOrder (acts : List (Act σ ε)) : Prop := (times acts).Pairwise (· ≤ ·)

@[simp] theorem events_append (before after : List (Act σ ε)) :
    events (before ++ after) = events before ++ events after := List.filterMap_append

theorem events_cons (act : Act σ ε) (acts : List (Act σ ε)) :
    events (act :: acts) = act.event?.toList ++ events acts := by
  cases hevent : act.event? <;> simp [events, hevent]

@[simp] theorem times_append (before after : List (Act σ ε)) :
    times (before ++ after) = times before ++ times after := List.filterMap_append

@[simp] theorem times_nil : times ([] : List (Act σ ε)) = [] := rfl

theorem InOrder.before {before after : List (Act σ ε)} (h : InOrder (before ++ after)) :
    InOrder before := by
  rw [InOrder, times_append, List.pairwise_append] at h
  exact h.1

theorem InOrder.after {before after : List (Act σ ε)} (h : InOrder (before ++ after)) :
    InOrder after := by
  rw [InOrder, times_append, List.pairwise_append] at h
  exact h.2.1

theorem InOrder.tail {act : Act σ ε} {acts : List (Act σ ε)} (h : InOrder (act :: acts)) :
    InOrder acts := by
  change InOrder ([act] ++ acts) at h
  exact h.after

/-- What a task may do next, and what is left of it then. -/
inductive Does : Task σ ε α → Act σ ε → Task σ ε α → Prop
  | read (next : σ → Task σ ε α) (state : σ) : Does (.read next) (.read state) (next state)
  | write (state : σ) (next : Task σ ε α) : Does (.write state next) (.write state) next
  | emit (event : ε) (next : Task σ ε α) : Does (.emit event next) (.emit event) next
  | clock (next : Nat → Task σ ε α) (now : Nat) : Does (.clock next) (.clock now) (next now)
  | pause (next : Task σ ε α) : Does (.pause next) .pause next
  | sleep (nanoseconds : Nat) (next : Task σ ε α) :
      Does (.sleep nanoseconds next) (.sleep nanoseconds) next

/-- A task that has done some acts leaves the rest of it. -/
inductive Course : Task σ ε α → List (Act σ ε) → Task σ ε α → Prop
  | stay (task : Task σ ε α) : Course task [] task
  | step {task next rest act acts} :
      Does task act next → Course next acts rest → Course task (act :: acts) rest

/-- The value that a task ends with, if it does. -/
def Ending.value? : Ending α → Option α
  | .finished value => some value
  | _ => none

/-- The task that has nothing left to do but to end in a given way. -/
def Ending.task : Ending α → Task σ ε α
  | .finished value => .done value
  | .crashed panic => .crash panic
  | .hung => .hang

/-- A task that has done some acts ends. -/
def Ends (task : Task σ ε α) (acts : List (Act σ ε)) (ending : Ending α) : Prop :=
  Course task acts ending.task

/-- A course may be continued by one of the rest. -/
theorem Course.append {task middle rest : Task σ ε α} {before after : List (Act σ ε)}
    (first : Course task before middle) (second : Course middle after rest) :
    Course task (before ++ after) rest := by
  induction first with
  | stay _ => exact second
  | step does _ ih => exact .step does (ih second)

theorem ends_nil {task : Task σ ε α} {ending : Ending α} :
    task.Ends [] ending ↔ task = ending.task := by
  constructor
  · intro h
    cases h
    rfl
  · rintro rfl
    exact .stay _

theorem ends_cons {task : Task σ ε α} {act : Act σ ε} {later : List (Act σ ε)}
    {ending : Ending α} :
    task.Ends (act :: later) ending ↔ ∃ next, task.Does act next ∧ next.Ends later ending := by
  constructor
  · intro h
    cases h with
    | step does h => exact ⟨_, does, h⟩
  · rintro ⟨next, does, h⟩
    exact .step does h

/-! ## Ends of the single kinds of tasks -/

section Constructors

variable {acts : List (Act σ ε)} {ending : Ending α}

/-- A task that does nothing ends as it stands. -/
theorem ends_task (ended : Ending α) :
    (ended.task : Task σ ε α).Ends acts ending ↔ acts = [] ∧ ending = ended := by
  constructor
  · intro h
    cases acts with
    | nil => cases ending <;> cases ended <;> cases ends_nil.mp h <;> exact ⟨rfl, rfl⟩
    | cons act later =>
        obtain ⟨next, does, _⟩ := ends_cons.mp h
        cases ended <;> cases does
  · rintro ⟨rfl, rfl⟩
    exact .stay _

@[simp] theorem ends_done {value : α} :
    (done value : Task σ ε α).Ends acts ending ↔ acts = [] ∧ ending = .finished value :=
  ends_task (.finished value)

@[simp] theorem ends_crash {panic : Panic} :
    (crash panic : Task σ ε α).Ends acts ending ↔ acts = [] ∧ ending = .crashed panic :=
  ends_task (.crashed panic)

@[simp] theorem ends_hang :
    (hang : Task σ ε α).Ends acts ending ↔ acts = [] ∧ ending = .hung :=
  ends_task .hung

/-- A task that is not at its end does something first. -/
theorem ends_of_not_ended {task : Task σ ε α} (hended : ∀ ended : Ending α, task ≠ ended.task) :
    task.Ends acts ending ↔
      ∃ act next later, acts = act :: later ∧ task.Does act next ∧ next.Ends later ending := by
  cases acts with
  | nil => simp [ends_nil, hended]
  | cons act later =>
      rw [ends_cons]
      constructor
      · rintro ⟨next, does, h⟩
        exact ⟨act, next, later, rfl, does, h⟩
      · rintro ⟨_, next, _, heq, does, h⟩
        cases heq
        exact ⟨next, does, h⟩

/-- A task that can only do one thing does this first. -/
theorem ends_of_does {task next : Task σ ε α} {act : Act σ ε} (hdoes : task.Does act next)
    (honly : ∀ {other rest}, task.Does other rest → other = act ∧ rest = next) :
    task.Ends acts ending ↔ ∃ later, acts = act :: later ∧ next.Ends later ending := by
  rw [ends_of_not_ended (by rintro (_ | _ | _) rfl <;> cases hdoes)]
  constructor
  · rintro ⟨other, rest, later, rfl, does, h⟩
    obtain ⟨rfl, rfl⟩ := honly does
    exact ⟨later, rfl, h⟩
  · rintro ⟨later, rfl, h⟩
    exact ⟨act, next, later, rfl, hdoes, h⟩

@[simp] theorem ends_read {next : σ → Task σ ε α} :
    (Task.read next).Ends acts ending ↔
      ∃ state later, acts = .read state :: later ∧ (next state).Ends later ending := by
  rw [ends_of_not_ended (by intro ended; cases ended <;> nofun)]
  constructor
  · rintro ⟨_, _, later, rfl, does, h⟩
    cases does with
    | read _ state => exact ⟨state, later, rfl, h⟩
  · rintro ⟨state, later, rfl, h⟩
    exact ⟨_, _, later, rfl, .read next state, h⟩

@[simp] theorem ends_write {state : σ} {next : Task σ ε α} :
    (Task.write state next).Ends acts ending ↔
      ∃ later, acts = .write state :: later ∧ next.Ends later ending :=
  ends_of_does (.write state next) (by rintro _ _ ⟨⟩; exact ⟨rfl, rfl⟩)

@[simp] theorem ends_emit {event : ε} {next : Task σ ε α} :
    (Task.emit event next).Ends acts ending ↔
      ∃ later, acts = .emit event :: later ∧ next.Ends later ending :=
  ends_of_does (.emit event next) (by rintro _ _ ⟨⟩; exact ⟨rfl, rfl⟩)

@[simp] theorem ends_clock {next : Nat → Task σ ε α} :
    (Task.clock next).Ends acts ending ↔
      ∃ now later, acts = .clock now :: later ∧ (next now).Ends later ending := by
  rw [ends_of_not_ended (by intro ended; cases ended <;> nofun)]
  constructor
  · rintro ⟨_, _, later, rfl, does, h⟩
    cases does with
    | clock _ now => exact ⟨now, later, rfl, h⟩
  · rintro ⟨now, later, rfl, h⟩
    exact ⟨_, _, later, rfl, .clock next now, h⟩

@[simp] theorem ends_pause {next : Task σ ε α} :
    (Task.pause next).Ends acts ending ↔
      ∃ later, acts = .pause :: later ∧ next.Ends later ending :=
  ends_of_does (.pause next) (by rintro _ _ ⟨⟩; exact ⟨rfl, rfl⟩)

@[simp] theorem ends_sleep {nanoseconds : Nat} {next : Task σ ε α} :
    (Task.sleep nanoseconds next).Ends acts ending ↔
      ∃ later, acts = .sleep nanoseconds :: later ∧ next.Ends later ending :=
  ends_of_does (.sleep nanoseconds next) (by rintro _ _ ⟨⟩; exact ⟨rfl, rfl⟩)

end Constructors

/-! ## Ends of composed tasks -/

@[simp] theorem done_bind (value : α) (f : α → Task σ ε β) : (done value).bind f = f value := rfl

theorem bind_assoc {δ : Type} (task : Task σ ε α) (f : α → Task σ ε β) (g : β → Task σ ε δ) :
    (task.bind f).bind g = task.bind fun value => (f value).bind g := by
  induction task with
  | done value => rfl
  | crash panic => rfl
  | hang => rfl
  | read next ih => exact congrArg Task.read (funext ih)
  | clock next ih => exact congrArg Task.clock (funext ih)
  | write state next ih => exact congrArg (Task.write state) ih
  | emit event next ih => exact congrArg (Task.emit event) ih
  | pause next ih => exact congrArg Task.pause ih
  | sleep nanoseconds next ih => exact congrArg (Task.sleep nanoseconds) ih

theorem Does.bind {task next : Task σ ε α} {act : Act σ ε} (does : task.Does act next)
    (f : α → Task σ ε β) : (task.bind f).Does act (next.bind f) := by
  cases does <;> constructor

theorem does_bind {task : Task σ ε α} {f : α → Task σ ε β} {act : Act σ ε} {next : Task σ ε β}
    (does : (task.bind f).Does act next) :
    (∃ value, task = .done value) ∨ ∃ rest, next = rest.bind f ∧ task.Does act rest := by
  cases task <;> first | exact .inl ⟨_, rfl⟩ | cases does <;> exact .inr ⟨_, rfl, by constructor⟩

/-- What follows a task does not keep it from taking its course. -/
theorem Course.bind {task rest : Task σ ε α} {acts : List (Act σ ε)} (course : Course task acts rest)
    (f : α → Task σ ε β) : Course (task.bind f) acts (rest.bind f) := by
  induction course with
  | stay _ => exact .stay _
  | step does _ ih => exact .step (does.bind f) ih

/-- A task followed by another one ends with the other one, unless it already ends without a value. -/
theorem ends_bind {task : Task σ ε α} {f : α → Task σ ε β} {acts : List (Act σ ε)}
    {ending : Ending β} :
    (task.bind f).Ends acts ending ↔
      (∃ value before after, acts = before ++ after ∧ task.Ends before (.finished value) ∧
        (f value).Ends after ending) ∨
      (∃ panic, ending = .crashed panic ∧ task.Ends acts (.crashed panic)) ∨
      (ending = .hung ∧ task.Ends acts .hung) := by
  constructor
  · intro h
    induction acts generalizing task with
    | nil =>
        have heq := ends_nil.mp h
        cases task with
        | done value => exact .inl ⟨value, [], [], rfl, .stay _, h⟩
        | crash panic => cases ending <;> cases heq; exact .inr (.inl ⟨panic, rfl, .stay _⟩)
        | hang => cases ending <;> cases heq; exact .inr (.inr ⟨rfl, .stay _⟩)
        | _ => cases ending <;> cases heq
    | cons act later ih =>
        obtain ⟨next, does, hlater⟩ := ends_cons.mp h
        obtain ⟨value, rfl⟩ | ⟨rest, rfl, hdoes⟩ := does_bind does
        · exact .inl ⟨value, [], act :: later, rfl, .stay _, h⟩
        obtain ⟨value, before, after, rfl, first, second⟩ | ⟨panic, rfl, cut⟩ | ⟨rfl, cut⟩ :=
          ih hlater
        · exact .inl ⟨value, act :: before, after, rfl, .step hdoes first, second⟩
        · exact .inr (.inl ⟨panic, rfl, .step hdoes cut⟩)
        · exact .inr (.inr ⟨rfl, .step hdoes cut⟩)
  · rintro (⟨value, before, after, rfl, first, second⟩ | ⟨panic, rfl, cut⟩ | ⟨rfl, cut⟩)
    · exact (first.bind f).append second
    · exact cut.bind f
    · exact cut.bind f

/-- A task followed by another one ends with a value exactly if both of them do. -/
theorem ends_bind_finished {task : Task σ ε α} {f : α → Task σ ε β} {acts : List (Act σ ε)}
    {value : β} :
    (task.bind f).Ends acts (.finished value) ↔
      ∃ first before after, acts = before ++ after ∧ task.Ends before (.finished first) ∧
        (f first).Ends after (.finished value) := by
  simp [ends_bind]

/-- How a task may end without a value. -/
inductive Loss
  | crashed (panic : Panic)
  | hung
deriving DecidableEq

/-- The ending of a task that is lost. -/
def Loss.ending : Loss → Ending α
  | crashed panic => .crashed panic
  | hung => .hung

@[simp] theorem not_ends_done_loss {value : α} {acts : List (Act σ ε)} {loss : Loss} :
    ¬ (done value : Task σ ε α).Ends acts loss.ending := by
  cases loss <;> simp [Loss.ending]

/-- A task followed by another one is lost in the one or in the other. -/
theorem ends_bind_loss {task : Task σ ε α} {f : α → Task σ ε β} {acts : List (Act σ ε)}
    {loss : Loss} :
    (task.bind f).Ends acts loss.ending ↔
      task.Ends acts loss.ending ∨
      ∃ value before after, acts = before ++ after ∧ task.Ends before (.finished value) ∧
        (f value).Ends after loss.ending := by
  cases loss <;> simp [ends_bind, Loss.ending, or_comm]

/-- A task followed by another one ends with the other one, or is lost before it comes to that. -/
theorem ends_bind_or_lost {task : Task σ ε α} {f : α → Task σ ε β} {acts : List (Act σ ε)}
    {ending : Ending β} :
    (task.bind f).Ends acts ending ↔
      (∃ value before after, acts = before ++ after ∧ task.Ends before (.finished value) ∧
        (f value).Ends after ending) ∨
      ∃ loss : Loss, ending = loss.ending ∧ task.Ends acts loss.ending := by
  rw [ends_bind]
  refine or_congr_right ⟨?_, ?_⟩
  · rintro (⟨panic, rfl, h⟩ | ⟨rfl, h⟩)
    · exact ⟨.crashed panic, rfl, h⟩
    · exact ⟨.hung, rfl, h⟩
  · rintro ⟨panic | _, rfl, h⟩
    · exact .inl ⟨panic, rfl, h⟩
    · exact .inr ⟨rfl, h⟩

/-- A call is lost by itself, or what it gives is. -/
theorem ends_join_loss {task : Task σ ε (Task σ ε α)} {acts : List (Act σ ε)} {loss : Loss} :
    task.join.Ends acts loss.ending ↔
      task.Ends acts loss.ending ∨
      ∃ called before after, acts = before ++ after ∧ task.Ends before (.finished called) ∧
        called.Ends after loss.ending :=
  ends_bind_loss

/-- The ending of a task whose value is changed. -/
def Ending.map (f : α → β) : Ending α → Ending β
  | .finished value => .finished (f value)
  | .crashed panic => .crashed panic
  | .hung => .hung

@[simp] theorem Loss.map_ending (loss : Loss) (f : α → β) :
    (loss.ending : Ending α).map f = loss.ending := by
  cases loss <;> rfl

@[simp] theorem Loss.ending_ne_finished {loss : Loss} {value : α} : loss.ending ≠ .finished value := by
  cases loss <;> nofun

/-- A task whose value is changed ends as the task itself. -/
theorem ends_bind_done {task : Task σ ε α} {f : α → β} {acts : List (Act σ ε)} {ending : Ending β} :
    (task.bind fun value => done (f value)).Ends acts ending ↔
      ∃ own, task.Ends acts own ∧ ending = own.map f := by
  rw [ends_bind]
  constructor
  · rintro (⟨value, before, after, rfl, h, hdone⟩ | ⟨panic, rfl, h⟩ | ⟨rfl, h⟩)
    · obtain ⟨rfl, rfl⟩ := ends_done.mp hdone
      rw [List.append_nil]
      exact ⟨_, h, rfl⟩
    · exact ⟨_, h, rfl⟩
    · exact ⟨_, h, rfl⟩
  · rintro ⟨own, h, rfl⟩
    cases own with
    | finished value => exact .inl ⟨value, acts, [], by simp, h, ends_done.mpr ⟨rfl, rfl⟩⟩
    | crashed panic => exact .inr (.inl ⟨panic, rfl, h⟩)
    | hung => exact .inr (.inr ⟨rfl, h⟩)

theorem does_caught {task : Task σ ε α} {act : Act σ ε} {next : Task σ ε (Except Panic α)} :
    task.caught.Does act next ↔ ∃ rest, next = rest.caught ∧ task.Does act rest := by
  constructor
  · intro does
    cases task <;> cases does <;> exact ⟨_, rfl, by constructor⟩
  · rintro ⟨rest, rfl, does⟩
    cases does <;> constructor

/-- A task whose crash is a value never crashes itself. -/
theorem ends_caught {task : Task σ ε α} {acts : List (Act σ ε)}
    {ending : Ending (Except Panic α)} :
    task.caught.Ends acts ending ↔
      (∃ value, ending = .finished (.ok value) ∧ task.Ends acts (.finished value)) ∨
      (∃ panic, ending = .finished (.error panic) ∧ task.Ends acts (.crashed panic)) ∨
      (ending = .hung ∧ task.Ends acts .hung) := by
  induction acts generalizing task with
  | nil =>
      simp only [ends_nil]
      cases task <;> cases ending <;> simp [caught, Ending.task, eq_comm]
  | cons act later ih =>
      simp only [ends_cons, does_caught]
      constructor
      · rintro ⟨_, ⟨rest, rfl, does⟩, h⟩
        obtain ⟨value, rfl, hrest⟩ | ⟨panic, rfl, hrest⟩ | ⟨rfl, hrest⟩ := ih.mp h
        · exact .inl ⟨value, rfl, rest, does, hrest⟩
        · exact .inr (.inl ⟨panic, rfl, rest, does, hrest⟩)
        · exact .inr (.inr ⟨rfl, rest, does, hrest⟩)
      · rintro (⟨value, rfl, rest, does, h⟩ | ⟨panic, rfl, rest, does, h⟩ | ⟨rfl, rest, does, h⟩)
        · exact ⟨_, ⟨rest, rfl, does⟩, ih.mpr (.inl ⟨value, rfl, h⟩)⟩
        · exact ⟨_, ⟨rest, rfl, does⟩, ih.mpr (.inr (.inl ⟨panic, rfl, h⟩))⟩
        · exact ⟨_, ⟨rest, rfl, does⟩, ih.mpr (.inr (.inr ⟨rfl, h⟩))⟩

/-- A guarded call is lost by itself, or what it gives never ends. -/
theorem ends_guarded_loss {call : Task σ ε (Task σ ε α)} {acts : List (Act σ ε)} {loss : Loss} :
    call.guarded.Ends acts loss.ending ↔
      call.Ends acts loss.ending ∨
      loss = .hung ∧ ∃ called before after, acts = before ++ after ∧
        call.Ends before (.finished called) ∧ called.Ends after .hung := by
  rw [guarded, ends_bind_loss]
  refine or_congr_right ⟨?_, ?_⟩
  · rintro ⟨called, before, after, rfl, hcall, hlost⟩
    obtain ⟨_, heq, _⟩ | ⟨_, heq, _⟩ | ⟨heq, hhung⟩ := ends_caught.mp hlost
    · exact absurd heq Loss.ending_ne_finished
    · exact absurd heq Loss.ending_ne_finished
    · cases loss <;> cases heq
      exact ⟨rfl, called, before, after, rfl, hcall, hhung⟩
  · rintro ⟨rfl, called, before, after, rfl, hcall, hhung⟩
    exact ⟨called, before, after, rfl, hcall, ends_caught.mpr (.inr (.inr ⟨rfl, hhung⟩))⟩

/-- How a task with a private state ends over the shared state alone. -/
def Ending.onPrivate (own : ρ) : Ending α → Ending (Except Panic α × ρ)
  | .finished value => .finished (.ok value, own)
  | .crashed panic => .finished (.error panic, own)
  | .hung => .hung

/-- A task with a private state ends as it does by itself, except that its crash is a value. -/
theorem Ends.of_onPrivate {task : Task (σ × ρ) ε α} {own : ρ} {acts : List (Act σ ε)}
    {ending : Ending (Except Panic α × ρ)} (h : (task.onPrivate own).Ends acts ending) :
    ∃ inner ended own', task.Ends inner ended ∧ ending = ended.onPrivate own' := by
  induction task generalizing own acts with
  | done value =>
      obtain ⟨rfl, rfl⟩ := ends_done.mp h
      exact ⟨[], .finished value, own, .stay _, rfl⟩
  | crash panic =>
      obtain ⟨rfl, rfl⟩ := ends_done.mp h
      exact ⟨[], .crashed panic, own, .stay _, rfl⟩
  | hang =>
      obtain ⟨rfl, rfl⟩ := ends_hang.mp h
      exact ⟨[], .hung, own, .stay _, rfl⟩
  | read next ih =>
      obtain ⟨state, later, rfl, hlater⟩ := ends_read.mp h
      obtain ⟨inner, ended, own', hinner, rfl⟩ := ih _ hlater
      exact ⟨_, ended, own', .step (.read next _) hinner, rfl⟩
  | write state next ih =>
      obtain ⟨later, rfl, hlater⟩ := ends_write.mp h
      obtain ⟨inner, ended, own', hinner, rfl⟩ := ih hlater
      exact ⟨_, ended, own', .step (.write state next) hinner, rfl⟩
  | emit event next ih =>
      obtain ⟨later, rfl, hlater⟩ := ends_emit.mp h
      obtain ⟨inner, ended, own', hinner, rfl⟩ := ih hlater
      exact ⟨_, ended, own', .step (.emit event next) hinner, rfl⟩
  | clock next ih =>
      obtain ⟨now, later, rfl, hlater⟩ := ends_clock.mp h
      obtain ⟨inner, ended, own', hinner, rfl⟩ := ih now hlater
      exact ⟨_, ended, own', .step (.clock next now) hinner, rfl⟩
  | pause next ih =>
      obtain ⟨later, rfl, hlater⟩ := ends_pause.mp h
      obtain ⟨inner, ended, own', hinner, rfl⟩ := ih hlater
      exact ⟨_, ended, own', .step (.pause next) hinner, rfl⟩
  | sleep nanoseconds next ih =>
      obtain ⟨later, rfl, hlater⟩ := ends_sleep.mp h
      obtain ⟨inner, ended, own', hinner, rfl⟩ := ih hlater
      exact ⟨_, ended, own', .step (.sleep nanoseconds next) hinner, rfl⟩

/-- A task with a private state never crashes itself. -/
theorem loss_of_onPrivate {task : Task (σ × ρ) ε α} {own : ρ} {acts : List (Act σ ε)} {loss : Loss}
    (h : (task.onPrivate own).Ends acts loss.ending) : loss = .hung := by
  obtain ⟨inner, ended, own', _, heq⟩ := h.of_onPrivate
  cases ended <;> cases loss <;> cases heq
  rfl

/-- A task with a private state ends as it does by itself. -/
theorem Ends.of_beside {task : Task (σ × ρ) ε α} {own : ρ} {acts : List (Act σ ε)}
    {ending : Ending (α × ρ)} (h : (task.beside own).Ends acts ending) :
    ∃ inner ended own', task.Ends inner ended ∧ ending = ended.map (·, own') := by
  obtain ⟨⟨result, own'⟩, before, after, rfl, hfirst, hlast⟩ | ⟨loss, rfl, hlost⟩ :=
    ends_bind_or_lost.mp h
  · obtain ⟨inner, ended, _, hinner, heq⟩ := hfirst.of_onPrivate
    refine ⟨inner, ended, own', hinner, ?_⟩
    cases ended <;> cases heq
    · exact (ends_done.mp hlast).2
    · exact (ends_crash.mp hlast).2
  · obtain ⟨inner, ended, own', hinner, heq⟩ := hlost.of_onPrivate
    refine ⟨inner, ended, own', hinner, ?_⟩
    cases ended <;> cases loss <;> cases heq
    rfl

/-- A task over a part of the shared state does what it does by itself. -/
theorem Ends.of_onFirst {task : Task σ ε α} {acts : List (Act (σ × ρ) ε)} {ending : Ending α}
    (h : (task.onFirst : Task (σ × ρ) ε α).Ends acts ending) :
    ∃ own, task.Ends own ending ∧ events own = events acts ∧ times own = times acts := by
  induction task generalizing acts with
  | done value =>
      obtain ⟨rfl, rfl⟩ := ends_done.mp h
      exact ⟨[], .stay _, rfl, rfl⟩
  | crash panic =>
      obtain ⟨rfl, rfl⟩ := ends_crash.mp h
      exact ⟨[], .stay _, rfl, rfl⟩
  | hang =>
      obtain ⟨rfl, rfl⟩ := ends_hang.mp h
      exact ⟨[], .stay _, rfl, rfl⟩
  | read next ih =>
      obtain ⟨state, later, rfl, hlater⟩ := ends_read.mp h
      obtain ⟨own, hown, hevents, htimes⟩ := ih _ hlater
      exact ⟨_, .step (.read next state.1) hown, hevents, htimes⟩
  | write state next ih =>
      obtain ⟨whole, _, rfl, hwrite⟩ := ends_read.mp h
      obtain ⟨later, rfl, hlater⟩ := ends_write.mp hwrite
      obtain ⟨own, hown, hevents, htimes⟩ := ih hlater
      exact ⟨_, .step (.write state next) hown, hevents, htimes⟩
  | emit event next ih =>
      obtain ⟨later, rfl, hlater⟩ := ends_emit.mp h
      obtain ⟨own, hown, hevents, htimes⟩ := ih hlater
      exact ⟨_, .step (.emit event next) hown, congrArg (event :: ·) hevents, htimes⟩
  | clock next ih =>
      obtain ⟨now, later, rfl, hlater⟩ := ends_clock.mp h
      obtain ⟨own, hown, hevents, htimes⟩ := ih now hlater
      exact ⟨_, .step (.clock next now) hown, hevents, congrArg (now :: ·) htimes⟩
  | pause next ih =>
      obtain ⟨later, rfl, hlater⟩ := ends_pause.mp h
      obtain ⟨own, hown, hevents, htimes⟩ := ih hlater
      exact ⟨_, .step (.pause next) hown, hevents, htimes⟩
  | sleep nanoseconds next ih =>
      obtain ⟨later, rfl, hlater⟩ := ends_sleep.mp h
      obtain ⟨own, hown, hevents, htimes⟩ := ih hlater
      exact ⟨_, .step (.sleep nanoseconds next) hown, hevents, htimes⟩

/-! ## Tasks that avoid a mishap -/

/-- How a task may fail to end with a value. -/
inductive Mishap
  | crash
  | hang

/-- The mishap that keeps a task from ending with a value, if there is one. -/
def Ending.mishap? : Ending α → Option Mishap
  | .finished _ => none
  | .crashed _ => some .crash
  | .hung => some .hang

/-- A task that never meets with a mishap, whatever it learns. -/
def Avoids (task : Task σ ε α) (mishap : Mishap) : Prop :=
  ∀ acts ending, task.Ends acts ending → ending.mishap? ≠ some mishap

variable {mishap : Mishap}

theorem avoids_done (value : α) : (done value : Task σ ε α).Avoids mishap := by
  intro acts ending h
  rw [(ends_done.mp h).2]
  simp [Ending.mishap?]

/-- What follows a value matters only where the value may really be reached. -/
theorem Avoids.bind_of_ends {task : Task σ ε α} {f : α → Task σ ε β} (h : task.Avoids mishap)
    (hnext : ∀ acts value, task.Ends acts (.finished value) → (f value).Avoids mishap) :
    (task.bind f).Avoids mishap := by
  intro acts ending hends
  obtain ⟨value, before, after, _, hfirst, hlater⟩ | ⟨panic, rfl, hcut⟩ | ⟨rfl, hcut⟩ :=
    ends_bind.mp hends
  · exact hnext before value hfirst after ending hlater
  · exact h acts _ hcut
  · exact h acts _ hcut

theorem Avoids.bind {task : Task σ ε α} {f : α → Task σ ε β} (h : task.Avoids mishap)
    (hnext : ∀ value, (f value).Avoids mishap) : (task.bind f).Avoids mishap :=
  h.bind_of_ends fun _ value _ => hnext value

theorem Avoids.caught {task : Task σ ε α} (h : task.Avoids mishap) : task.caught.Avoids mishap := by
  intro acts ending hends
  obtain ⟨value, rfl, _⟩ | ⟨panic, rfl, _⟩ | ⟨rfl, hcut⟩ := ends_caught.mp hends
  · simp [Ending.mishap?]
  · simp [Ending.mishap?]
  · exact h acts .hung hcut

/-- A crash that is made a value is no mishap. -/
theorem avoids_crash_caught (task : Task σ ε α) : task.caught.Avoids .crash := by
  intro acts ending hends
  obtain ⟨_, rfl, _⟩ | ⟨_, rfl, _⟩ | ⟨rfl, _⟩ := ends_caught.mp hends <;> simp [Ending.mishap?]

/-- What runs on a private state meets with a mishap only where it hangs. -/
theorem Avoids.onPrivate {task : Task (σ × ρ) ε α} (h : task.Avoids .hang) (own : ρ) :
    (task.onPrivate own).Avoids mishap := by
  intro acts ending hends
  obtain ⟨inner, ended, own', hinner, rfl⟩ := hends.of_onPrivate
  cases ended with
  | finished value => simp [Ending.onPrivate, Ending.mishap?]
  | crashed panic => simp [Ending.onPrivate, Ending.mishap?]
  | hung => exact absurd rfl (h inner .hung hinner)

/-- What runs beside a private state meets with the mishaps that it meets with by itself. -/
theorem Avoids.beside {task : Task (σ × ρ) ε α} (h : task.Avoids mishap) (own : ρ) :
    (task.beside own).Avoids mishap := by
  intro acts ending hends
  obtain ⟨inner, ended, own', hinner, rfl⟩ := hends.of_beside
  have havoided := h inner ended hinner
  cases ended <;> exact havoided

/-- A call meets with no mishap but its own and that of what it gives. -/
theorem Avoids.join {task : Task σ ε (Task σ ε α)} (h : task.Avoids mishap)
    (hcalled : ∀ acts called, task.Ends acts (.finished called) → called.Avoids mishap) :
    task.join.Avoids mishap :=
  h.bind_of_ends hcalled

/-- A call that comes back, with something that ends. -/
structure IsAnswered (call : Task σ ε (Task σ ε α)) : Prop where
  calls : ∀ mishap, call.Avoids mishap
  awaits : ∀ acts called, call.Ends acts (.finished called) → called.Avoids .hang

/-- A call that is answered meets with no mishap where it is guarded. -/
theorem IsAnswered.guarded {call : Task σ ε (Task σ ε α)} (h : call.IsAnswered) :
    call.guarded.Avoids mishap := by
  refine (h.calls mishap).bind_of_ends fun acts called hcall => ?_
  cases mishap with
  | crash => exact avoids_crash_caught called
  | hang => exact (h.awaits acts called hcall).caught

theorem isAnswered_done {called : Task σ ε α} (h : called.Avoids .hang) :
    (done called : Task σ ε (Task σ ε α)).IsAnswered where
  calls _ := avoids_done _
  awaits := by
    intro acts found hcall
    cases (ends_done.mp hcall).2
    exact h

theorem Avoids.clock {next : Nat → Task σ ε α} (h : ∀ now, (next now).Avoids mishap) :
    (Task.clock next).Avoids mishap := by
  intro acts ending hends
  obtain ⟨now, later, _, hlater⟩ := ends_clock.mp hends
  exact h now later ending hlater

theorem Avoids.pause {task : Task σ ε α} (h : task.Avoids mishap) :
    (Task.pause task).Avoids mishap := by
  intro acts ending hends
  obtain ⟨later, _, hlater⟩ := ends_pause.mp hends
  exact h later ending hlater

theorem Avoids.sleep {task : Task σ ε α} (h : task.Avoids mishap) (nanoseconds : Nat) :
    (Task.sleep nanoseconds task).Avoids mishap := by
  intro acts ending hends
  obtain ⟨later, _, hlater⟩ := ends_sleep.mp hends
  exact h later ending hlater

theorem Avoids.unlessDue {deadline : Nat} {suspended : Nat → Task σ ε (Option α)}
    (h : ∀ now, (suspended now).Avoids mishap) : (Task.unlessDue deadline suspended).Avoids mishap := by
  refine .clock fun now => ?_
  split
  · exact avoids_done _
  · exact h now

/-- A task that is given up at a deadline never hangs. -/
theorem avoids_hang_within (deadline : Nat) (task : Task σ ε α) :
    (task.within deadline).Avoids .hang := by
  induction task with
  | done value => exact avoids_done _
  | crash panic =>
      intro acts ending h
      rw [(ends_crash.mp h).2]
      simp [Ending.mishap?]
  | hang => exact .unlessDue fun now => (avoids_done _).sleep _
  | read next ih =>
      intro acts ending h
      obtain ⟨state, later, _, hlater⟩ := ends_read.mp h
      exact ih state later ending hlater
  | write state next ih =>
      intro acts ending h
      obtain ⟨later, _, hlater⟩ := ends_write.mp h
      exact ih later ending hlater
  | emit event next ih =>
      intro acts ending h
      obtain ⟨later, _, hlater⟩ := ends_emit.mp h
      exact ih later ending hlater
  | clock next ih => exact .clock ih
  | pause next ih => exact .unlessDue fun _ => ih.pause
  | sleep nanoseconds next ih =>
      refine .unlessDue fun now => ?_
      split
      · exact ih.sleep nanoseconds
      · refine Avoids.sleep (.clock fun later => ?_) _
        split
        · exact ih
        · exact avoids_done _

/-- A task hangs under a limit only where there is none. -/
theorem Avoids.withinLimit {task : Task σ ε α} {limit : Option Nat}
    (h : limit = none → task.Avoids .hang) : (task.withinLimit limit).Avoids .hang := by
  cases limit with
  | none => exact (h rfl).bind fun _ => avoids_done _
  | some limit => exact .clock fun start => avoids_hang_within (start + limit) task

theorem Avoids.onFirst {task : Task σ ε α} (h : task.Avoids mishap) :
    (task.onFirst : Task (σ × ρ) ε α).Avoids mishap := by
  intro acts ending hends
  obtain ⟨own, hown, _⟩ := hends.of_onFirst
  exact h own ending hown

theorem Avoids.emit {task : Task σ ε α} (h : task.Avoids mishap) (event : ε) :
    (Task.emit event task).Avoids mishap := by
  intro acts ending hends
  obtain ⟨later, _, hlater⟩ := ends_emit.mp hends
  exact h later ending hlater

theorem avoids_report (event : ε) : (report event : Task σ ε PUnit).Avoids mishap :=
  (avoids_done _).emit event

theorem avoids_now : (now : Task σ ε Nat).Avoids mishap := .clock fun _ => avoids_done _

theorem avoids_wait (time : Option Nat) : (wait time : Task σ ε PUnit).Avoids mishap := by
  intro acts ending h
  cases time with
  | none => exact avoids_done _ acts ending h
  | some nanoseconds => exact (avoids_done _).sleep nanoseconds acts ending h

theorem avoids_modify (f : σ → σ) : (modify f : Task σ ε PUnit).Avoids mishap := by
  intro acts ending h
  obtain ⟨state, _, _, hwrite⟩ := ends_read.mp h
  obtain ⟨later, _, hlater⟩ := ends_write.mp hwrite
  exact avoids_done _ later ending hlater

theorem avoids_get : (get : Task σ ε σ).Avoids mishap := by
  intro acts ending h
  obtain ⟨state, later, _, hlater⟩ := ends_read.mp h
  exact avoids_done _ later ending hlater

/-- A task that avoids both mishaps is never lost. -/
theorem not_ends_loss {task : Task σ ε α} {acts : List (Act σ ε)} {loss : Loss}
    (h : ∀ mishap, task.Avoids mishap) : ¬ task.Ends acts loss.ending := by
  intro hends
  cases loss with
  | crashed panic => exact h .crash acts _ hends rfl
  | hung => exact h .hang acts _ hends rfl

/-- A task that neither crashes nor hangs ends with a value. -/
theorem Ends.exists_finished {task : Task σ ε α} {acts : List (Act σ ε)} {ending : Ending α}
    (h : task.Ends acts ending) (hcrash : task.Avoids .crash) (hhang : task.Avoids .hang) :
    ∃ value, ending = .finished value := by
  cases ending with
  | finished value => exact ⟨value, rfl⟩
  | crashed panic => exact absurd rfl (hcrash acts _ h)
  | hung => exact absurd rfl (hhang acts _ h)

end Acceptance.Task
