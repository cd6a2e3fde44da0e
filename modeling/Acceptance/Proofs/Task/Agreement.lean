import Acceptance.Proofs.Task.Course

/-!
# Tasks that agree

Two tasks agree if they end alike however each of them goes. What others do to the shared state and
how late a task goes on may differ between the two, so agreement carries a result from one order of
turns over to another one.
-/

namespace Acceptance.Task

variable {σ τ ρ ε δ α β α' β' : Type}

/-- Endings that agree: values are related, crashes leave the same behind. -/
inductive Ending.Agree (R : α → β → Prop) : Ending α → Ending β → Prop
  | finished {value value'} : R value value' → Agree R (.finished value) (.finished value')
  | crashed (panic : Panic) : Agree R (.crashed panic) (.crashed panic)
  | hung : Agree R .hung .hung

/-- However each of two tasks goes, their endings agree. -/
def Agree (R : α → β → Prop) (left : Task σ ε α) (right : Task τ δ β) : Prop :=
  ∀ ⦃acts ending acts' ending'⦄, left.Ends acts ending → right.Ends acts' ending' →
    ending.Agree R ending'

/-- Results are the same, and come with a private state of some kind. -/
def Kept (kept : ρ → Prop) (result result' : α × ρ) : Prop := result = result' ∧ kept result.2

/-- A call with a private state, with what it gives awaited. The crash of what is awaited is a value, that
of the call is not. -/
def guardedOn (call : Task (σ × ρ) ε (Task (σ × ρ) ε α)) (own : ρ) : Task σ ε (Except Panic α × ρ) :=
  (call.beside own).bind fun called => called.1.onPrivate called.2

/-- On private states of some kind two calls end alike, and leave such a state. -/
def AgreeOn (kept : ρ → Prop) (left right : Task (σ × ρ) ε (Task (σ × ρ) ε α)) : Prop :=
  ∀ own, kept own → Agree (Kept kept) (left.guardedOn own) (right.guardedOn own)

/-- A task that ends in the same way whatever others do meanwhile, and whenever it goes on. -/
def IsSteady (task : Task σ ε α) : Prop :=
  ∀ ⦃acts ending acts' ending'⦄, task.Ends acts ending → task.Ends acts' ending' → ending = ending'

theorem Ending.agree_eq_iff {ending ending' : Ending α} :
    ending.Agree (· = ·) ending' ↔ ending = ending' := by
  constructor
  · rintro (rfl | _ | _) <;> rfl
  · rintro rfl
    cases ending
    · exact .finished rfl
    · exact .crashed _
    · exact .hung

theorem isSteady_iff_agree {task : Task σ ε α} : task.IsSteady ↔ Agree (· = ·) task task := by
  constructor
  · intro h acts ending acts' ending' hends hends'
    exact Ending.agree_eq_iff.mpr (h hends hends')
  · intro h acts ending acts' ending' hends hends'
    exact Ending.agree_eq_iff.mp (h hends hends')

theorem isSteady_done (value : α) : (done value : Task σ ε α).IsSteady := by
  intro acts ending acts' ending' hends hends'
  rw [(ends_done.mp hends).2, (ends_done.mp hends').2]

theorem IsSteady.pause {task : Task σ ε α} (h : task.IsSteady) : (Task.pause task).IsSteady := by
  intro acts ending acts' ending' hends hends'
  obtain ⟨later, _, hlater⟩ := ends_pause.mp hends
  obtain ⟨later', _, hlater'⟩ := ends_pause.mp hends'
  exact h hlater hlater'

namespace Agree

variable {R : α → α' → Prop} {S : β → β' → Prop}

/-- Where one of two agreeing tasks ends with a value, so does the other. -/
theorem finished {left : Task σ ε α} {right : Task τ δ α'} (h : Agree R left right)
    {acts : List (Act σ ε)} {acts' : List (Act τ δ)} {value : α} {ending : Ending α'}
    (hleft : left.Ends acts (.finished value)) (hright : right.Ends acts' ending) :
    ∃ value', ending = .finished value' ∧ R value value' := by
  cases h hleft hright with
  | finished hvalue => exact ⟨_, rfl, hvalue⟩

/-- What is known of values that are really reached may be added to what relates them. -/
theorem mono_of_ends {left : Task σ ε α} {right : Task τ δ α'} {S : α → α' → Prop}
    (h : Agree R left right)
    (hle : ∀ acts value value', left.Ends acts (.finished value) → R value value' → S value value') :
    Agree S left right := by
  intro acts ending acts' ending' hends hends'
  cases h hends hends' with
  | finished hvalue => exact .finished (hle acts _ _ hends hvalue)
  | crashed panic => exact .crashed panic
  | hung => exact .hung

theorem mono {left : Task σ ε α} {right : Task τ δ α'} {S : α → α' → Prop}
    (h : Agree R left right) (hle : ∀ value value', R value value' → S value value') :
    Agree S left right :=
  h.mono_of_ends fun _ _ _ _ => hle _ _

theorem done {value : α} {value' : α'} (h : R value value') :
    Agree R (.done value : Task σ ε α) (.done value' : Task τ δ α') := by
  intro acts ending acts' ending' hends hends'
  rw [(ends_done.mp hends).2, (ends_done.mp hends').2]
  exact .finished h

/-- What follows values that agree and may really be reached keeps the tasks in agreement. -/
theorem bind_of_ends {left : Task σ ε α} {right : Task τ δ α'} {f : α → Task σ ε β}
    {g : α' → Task τ δ β'} (h : Agree R left right)
    (hnext : ∀ acts acts' value value', left.Ends acts (.finished value) →
      right.Ends acts' (.finished value') → R value value' → Agree S (f value) (g value')) :
    Agree S (left.bind f) (right.bind g) := by
  intro acts ending acts' ending' hends hends'
  obtain ⟨value, before, after, rfl, hfirst, hsecond⟩ | ⟨panic, rfl, hcut⟩ | ⟨rfl, hcut⟩ :=
    ends_bind.mp hends
  -- The first tasks end in the same way, so the cases in which only one of them goes on are void.
  all_goals
    obtain ⟨value', before', after', rfl, hfirst', hsecond'⟩ | ⟨panic', rfl, hcut'⟩ |
      ⟨rfl, hcut'⟩ := ends_bind.mp hends'
  · cases h hfirst hfirst' with
    | finished hvalue =>
        exact hnext before before' value value' hfirst hfirst' hvalue hsecond hsecond'
  · cases h hfirst hcut'
  · cases h hfirst hcut'
  · cases h hcut hfirst'
  · cases h hcut hcut'
    exact .crashed panic
  · cases h hcut hcut'
  · cases h hcut hfirst'
  · cases h hcut hcut'
  · exact .hung

/-- What follows agreeing values keeps the tasks in agreement. -/
theorem bind {left : Task σ ε α} {right : Task τ δ α'} {f : α → Task σ ε β}
    {g : α' → Task τ δ β'} (h : Agree R left right)
    (hnext : ∀ value value', R value value' → Agree S (f value) (g value')) :
    Agree S (left.bind f) (right.bind g) :=
  h.bind_of_ends fun _ _ value value' _ _ => hnext value value'

/-- A task that agrees with itself may be followed by tasks that agree. -/
theorem bind_self {task : Task σ ε α} {f : α → Task σ ε β} {g : α → Task σ ε β'}
    (h : Agree (· = ·) task task)
    (hnext : ∀ acts value, task.Ends acts (.finished value) → Agree S (f value) (g value)) :
    Agree S (task.bind f) (task.bind g) := by
  apply h.bind_of_ends
  rintro acts _ value _ hends _ rfl
  exact hnext acts value hends

theorem emit {left : Task σ ε α} {right : Task τ δ α'} {event : ε} {event' : δ}
    (h : Agree R left right) : Agree R (.emit event left) (.emit event' right) := by
  intro acts ending acts' ending' hends hends'
  obtain ⟨later, _, hlater⟩ := ends_emit.mp hends
  obtain ⟨later', _, hlater'⟩ := ends_emit.mp hends'
  exact h hlater hlater'

theorem clock {left : Nat → Task σ ε α} {right : Nat → Task τ δ α'}
    (h : ∀ now now', Agree R (left now) (right now')) : Agree R (.clock left) (.clock right) := by
  intro acts ending acts' ending' hends hends'
  obtain ⟨now, later, _, hlater⟩ := ends_clock.mp hends
  obtain ⟨now', later', _, hlater'⟩ := ends_clock.mp hends'
  exact h now now' hlater hlater'

/-- What tasks report does not matter for how they end. -/
theorem report {event : ε} {event' : δ} {f : PUnit → Task σ ε β} {g : PUnit → Task τ δ β'}
    (h : Agree S (f ⟨⟩) (g ⟨⟩)) :
    Agree S ((Task.report event : Task σ ε PUnit).bind f)
      ((Task.report event' : Task τ δ PUnit).bind g) :=
  .emit h

theorem now {f : Nat → Task σ ε β} {g : Nat → Task τ δ β'}
    (h : ∀ now now', Agree S (f now) (g now')) :
    Agree S ((Task.now : Task σ ε Nat).bind f) ((Task.now : Task τ δ Nat).bind g) :=
  .clock h

/-- Waiting for the same length of time, or not at all, tells two tasks nothing. -/
theorem wait (nanoseconds : Option Nat) :
    Agree (· = ·) (Task.wait nanoseconds : Task σ ε PUnit)
      (Task.wait nanoseconds : Task τ δ PUnit) := by
  intro acts ending acts' ending' hends hends'
  cases nanoseconds with
  | none => exact Agree.done rfl hends hends'
  | some nanoseconds =>
      obtain ⟨later, _, hlater⟩ := ends_sleep.mp hends
      obtain ⟨later', _, hlater'⟩ := ends_sleep.mp hends'
      exact Agree.done rfl hlater hlater'

end Agree

/-! ## Tasks that are sure of a value -/

/-- However a task goes it ends with a value of some kind, unless the clock goes backwards. -/
def Yields (task : Task σ ε α) (P : α → Prop) : Prop :=
  ∀ ⦃acts ending⦄, task.Ends acts ending → InOrder acts → ∃ value, ending = .finished value ∧ P value

/-- A task is sure of what it has in common with a task that it agrees with, once that one has ended
with a value. -/
theorem Agree.yields {R : α → α' → Prop} {left : Task σ ε α} {right : Task τ δ α'}
    (h : Agree R left right) {acts : List (Act σ ε)} {value : α}
    (hleft : left.Ends acts (.finished value)) : right.Yields (R value) :=
  fun _ _ hright _ => h.finished hleft hright

namespace Yields

variable {P : α → Prop} {Q : β → Prop}

theorem done {value : α} (h : P value) : (.done value : Task σ ε α).Yields P := by
  intro acts ending hends _
  exact ⟨value, (ends_done.mp hends).2, h⟩

theorem bind {task : Task σ ε α} {f : α → Task σ ε β} (h : task.Yields P)
    (hnext : ∀ value, P value → (f value).Yields Q) : (task.bind f).Yields Q := by
  intro acts ending hends horder
  obtain ⟨value, before, after, rfl, hfirst, hsecond⟩ | ⟨panic, rfl, hcut⟩ | ⟨rfl, hcut⟩ :=
    ends_bind.mp hends
  · obtain ⟨_, ⟨rfl⟩, hvalue⟩ := h hfirst horder.before
    exact hnext value hvalue hsecond horder.after
  · obtain ⟨_, heq, _⟩ := h hcut horder
    cases heq
  · obtain ⟨_, heq, _⟩ := h hcut horder
    cases heq

theorem now {f : Nat → Task σ ε β} (h : ∀ now, (f now).Yields Q) :
    ((Task.now : Task σ ε Nat).bind f).Yields Q := by
  intro acts ending hends horder
  obtain ⟨now, later, rfl, hlater⟩ := ends_clock.mp hends
  exact h now hlater horder.tail

/-- A task that is sure of a value does not crash. -/
theorem caught {task : Task σ ε α} (h : task.Yields P) :
    task.caught.Yields fun result => ∃ value, result = .ok value ∧ P value := by
  intro acts ending hends horder
  obtain ⟨value, rfl, hown⟩ | ⟨panic, rfl, hown⟩ | ⟨rfl, hown⟩ := ends_caught.mp hends
  all_goals obtain ⟨_, heq, hvalue⟩ := h hown horder
  · cases heq
    exact ⟨_, rfl, value, rfl, hvalue⟩
  · cases heq
  · cases heq

end Yields

end Acceptance.Task
