import Acceptance.Proofs.Task.Course

/-!
# Resumed tasks

What a task does when it is resumed, or run to its end with nothing else in between, is one of its
courses. Time stands still while it is resumed, and passes only while it sleeps when it is run.
-/

namespace Acceptance.Task

variable {σ ρ ε α β : Type}

namespace Standing

/-- What is left of a task that stands in some way. -/
def rest : Standing σ ε α → Task σ ε α
  | finished value => .done value
  | crashed panic => .crash panic
  | paused rest => rest
  | asleep _ rest => rest
  | hung => .hang

/-- The act by which a task suspends itself. -/
def suspension : Standing σ ε α → List (Act σ ε)
  | paused _ => [.pause]
  | asleep nanoseconds _ => [.sleep nanoseconds]
  | _ => []

/-- How a task stands that is followed by another one, where it has not ended with a value. -/
def bind (f : α → Task σ ε β) : Standing σ ε α → Standing σ ε β
  | finished _ => hung
  | crashed panic => crashed panic
  | paused rest => paused (rest.bind f)
  | asleep nanoseconds rest => asleep nanoseconds (rest.bind f)
  | hung => hung

/-- How a task over a part of the shared state stands. -/
def onFirst : Standing σ ε α → Standing (σ × ρ) ε α
  | finished value => finished value
  | crashed panic => crashed panic
  | paused rest => paused rest.onFirst
  | asleep nanoseconds rest => asleep nanoseconds rest.onFirst
  | hung => hung

/-- A task that has been resumed has not ended: it is suspended, or hangs. -/
def IsOpen : Standing σ ε α → Prop
  | finished _ => False
  | crashed _ => False
  | _ => True

theorem ended_or_isOpen (standing : Standing σ ε α) :
    (∃ value, standing = .finished value) ∨ (∃ panic, standing = .crashed panic) ∨
      standing.IsOpen := by
  cases standing <;> simp [IsOpen]

theorem IsOpen.onFirst {standing : Standing σ ε α} (h : standing.IsOpen) :
    (standing.onFirst : Standing (σ × ρ) ε α).IsOpen ∧
      (standing.onFirst : Standing (σ × ρ) ε α).rest = standing.rest.onFirst := by
  cases standing with
  | finished value => cases h
  | crashed panic => cases h
  | _ => exact ⟨trivial, rfl⟩

/-- What is left of a task that has not ended is followed by what the whole task is followed by. -/
theorem IsOpen.onFirst_bind {standing : Standing σ ε α} (h : standing.IsOpen)
    (f : α → Task (σ × ρ) ε β) :
    (standing.onFirst.bind f).IsOpen ∧
      (standing.onFirst.bind f).rest = standing.rest.onFirst.bind f := by
  cases standing with
  | finished value => cases h
  | crashed panic => cases h
  | _ => exact ⟨trivial, rfl⟩

theorem times_suspension (standing : Standing σ ε α) : times standing.suspension = [] := by
  cases standing <;> rfl

theorem events_suspension (standing : Standing σ ε α) : events standing.suspension = [] := by
  cases standing <;> rfl

end Standing

/-- A resumed task takes one of its courses, at a single time. -/
theorem resume_course (task : Task σ ε α) (time : Nat) (state : σ) :
    ∃ acts, task.Course (acts ++ (task.resume time state).standing.suspension)
        (task.resume time state).standing.rest ∧
      events acts = (task.resume time state).events ∧ ∀ now ∈ times acts, now = time := by
  induction task generalizing state with
  | done value => exact ⟨[], .stay _, rfl, by simp⟩
  | crash panic => exact ⟨[], .stay _, rfl, by simp⟩
  | hang => exact ⟨[], .stay _, rfl, by simp⟩
  | pause next => exact ⟨[], .step (.pause next) (.stay _), rfl, by simp⟩
  | sleep nanoseconds next =>
      exact ⟨[], .step (.sleep nanoseconds next) (.stay _), rfl, by simp⟩
  | read next ih =>
      obtain ⟨acts, hcourse, hevents, htimes⟩ := ih state state
      exact ⟨.read state :: acts, .step (.read next state) hcourse, hevents, htimes⟩
  | write written next ih =>
      obtain ⟨acts, hcourse, hevents, htimes⟩ := ih written
      exact ⟨.write written :: acts, .step (.write written next) hcourse, hevents, htimes⟩
  | emit event next ih =>
      obtain ⟨acts, hcourse, hevents, htimes⟩ := ih state
      exact ⟨.emit event :: acts, .step (.emit event next) hcourse,
        congrArg (event :: ·) hevents, htimes⟩
  | clock next ih =>
      obtain ⟨acts, hcourse, hevents, htimes⟩ := ih time state
      refine ⟨.clock time :: acts, .step (.clock next time) hcourse, hevents, ?_⟩
      intro now hnow
      change now ∈ time :: times acts at hnow
      rcases List.mem_cons.mp hnow with rfl | hlater
      · rfl
      · exact htimes now hlater

/-- What a task may leave when it is resumed and does not end. -/
def Left (rest task : Task σ ε α) : Prop :=
  ∃ time state, (task.resume time state).standing = .paused rest ∨
    ∃ nanoseconds, (task.resume time state).standing = .asleep nanoseconds rest

/-- A task cannot be resumed forever. -/
theorem acc_left (task : Task σ ε α) : Acc Left task := by
  induction task with
  | done value =>
      constructor
      rintro rest ⟨time, state, h⟩
      simp [resume] at h
  | crash panic =>
      constructor
      rintro rest ⟨time, state, h⟩
      simp [resume] at h
  | hang =>
      constructor
      rintro rest ⟨time, state, h⟩
      simp [resume] at h
  | read next ih =>
      constructor
      rintro rest ⟨time, state, h⟩
      exact (ih state).inv ⟨time, state, h⟩
  | clock next ih =>
      constructor
      rintro rest ⟨time, state, h⟩
      exact (ih time).inv ⟨time, state, h⟩
  | write written next ih =>
      constructor
      rintro rest ⟨time, _, h⟩
      exact ih.inv ⟨time, written, h⟩
  | emit event next ih =>
      constructor
      rintro rest ⟨time, state, h⟩
      exact ih.inv ⟨time, state, h⟩
  | pause next ih =>
      constructor
      rintro rest ⟨time, state, h⟩
      obtain rfl : next = rest := by simpa [resume] using h
      exact ih
  | sleep nanoseconds next ih =>
      constructor
      rintro rest ⟨time, state, h⟩
      obtain rfl : next = rest := by simpa [resume] using h
      exact ih

/-- A resumed task continues the course that it has taken so far. -/
theorem Course.resume {task rest : Task σ ε α} {acts : List (Act σ ε)} (course : task.Course acts rest)
    {time : Nat} (state : σ) (horder : InOrder acts) (htimes : ∀ now ∈ times acts, now ≤ time) :
    ∃ later, task.Course later (rest.resume time state).standing.rest ∧ InOrder later ∧
      (∀ now ∈ times later, now ≤ time) ∧
      events later = events acts ++ (rest.resume time state).events := by
  obtain ⟨own, hcourse, hevents, hown⟩ := resume_course rest time state
  have hall : times (acts ++ (own ++ (rest.resume time state).standing.suspension)) =
      times acts ++ times own := by
    rw [times_append, times_append, Standing.times_suspension, List.append_nil]
  refine ⟨_, course.append hcourse, ?_, ?_, ?_⟩
  · rw [InOrder, hall, List.pairwise_append]
    refine ⟨horder, List.pairwise_of_forall_mem_list ?_, ?_⟩
    · intro now hnow now' hnow'
      exact Nat.le_of_eq ((hown now hnow).trans (hown now' hnow').symm)
    · intro now hnow now' hnow'
      exact hown now' hnow' ▸ htimes now hnow
  · intro now hnow
    rw [hall] at hnow
    rcases List.mem_append.mp hnow with hnow | hnow
    · exact htimes now hnow
    · exact Nat.le_of_eq (hown now hnow)
  · rw [events_append, events_append, Standing.events_suspension, List.append_nil, hevents]

/-- A task that is run takes one of its courses to the end, and the clock goes on from the time at
which it is started to the time that it leaves. -/
theorem run_ends (task : Task σ ε α) (time : Nat) (state : σ) :
    ∃ acts, task.Ends acts (task.run time state).ending ∧
      events acts = (task.run time state).events ∧ InOrder acts ∧
      time ≤ (task.run time state).time ∧
      ∀ now ∈ times acts, time ≤ now ∧ now ≤ (task.run time state).time := by
  induction task generalizing time state with
  | done value => exact ⟨[], .stay _, rfl, .nil, Nat.le_refl _, by simp⟩
  | crash panic => exact ⟨[], .stay _, rfl, .nil, Nat.le_refl _, by simp⟩
  | hang => exact ⟨[], .stay _, rfl, .nil, Nat.le_refl _, by simp⟩
  | read next ih =>
      obtain ⟨acts, hends, hevents, horder, hle, htimes⟩ := ih state time state
      exact ⟨.read state :: acts, .step (.read next state) hends, hevents, horder, hle, htimes⟩
  | write written next ih =>
      obtain ⟨acts, hends, hevents, horder, hle, htimes⟩ := ih time written
      exact ⟨.write written :: acts, .step (.write written next) hends, hevents, horder, hle,
        htimes⟩
  | emit event next ih =>
      obtain ⟨acts, hends, hevents, horder, hle, htimes⟩ := ih time state
      exact ⟨.emit event :: acts, .step (.emit event next) hends,
        congrArg (event :: ·) hevents, horder, hle, htimes⟩
  | pause next ih =>
      obtain ⟨acts, hends, hevents, horder, hle, htimes⟩ := ih time state
      exact ⟨.pause :: acts, .step (.pause next) hends, hevents, horder, hle, htimes⟩
  | clock next ih =>
      obtain ⟨acts, hends, hevents, horder, hle, htimes⟩ := ih time time state
      refine ⟨.clock time :: acts, .step (.clock next time) hends, hevents, ?_, hle, ?_⟩
      · exact List.pairwise_cons.mpr ⟨fun now hnow => (htimes now hnow).1, horder⟩
      · intro now hnow
        change now ∈ time :: times acts at hnow
        rcases List.mem_cons.mp hnow with rfl | hlater
        · exact ⟨Nat.le_refl _, hle⟩
        · exact htimes now hlater
  | sleep nanoseconds next ih =>
      obtain ⟨acts, hends, hevents, horder, hle, htimes⟩ := ih (time + nanoseconds) state
      have hstart : time ≤ time + nanoseconds := Nat.le_add_right _ _
      refine ⟨.sleep nanoseconds :: acts, .step (.sleep nanoseconds next) hends, hevents, horder,
        Nat.le_trans hstart hle, ?_⟩
      intro now hnow
      obtain ⟨hfirst, hlast⟩ := htimes now hnow
      exact ⟨Nat.le_trans hstart hfirst, hlast⟩

/-- A task followed by another one is resumed until the first one is suspended, or else on into the
second one. -/
theorem resume_bind (task : Task σ ε α) (f : α → Task σ ε β) (time : Nat) (state : σ) :
    (task.bind f).resume time state =
      match (task.resume time state).standing with
      | .finished value =>
        let later := (f value).resume time (task.resume time state).state
        { later with events := (task.resume time state).events ++ later.events }
      | standing =>
        ⟨(task.resume time state).events, (task.resume time state).state, standing.bind f⟩ := by
  induction task generalizing state with
  | done value => rfl
  | crash panic => rfl
  | hang => rfl
  | pause next => rfl
  | sleep nanoseconds next => rfl
  | read next ih => exact ih state state
  | write written next ih => exact ih written
  | clock next ih => exact ih time state
  | emit event next ih =>
      simp only [Task.bind, resume, ih]
      cases (next.resume time state).standing <;> rfl

/-- A task over a part of the shared state leaves the other part as it is. -/
theorem resume_onFirst (task : Task σ ε α) (time : Nat) (state : σ) (other : ρ) :
    task.onFirst.resume time (state, other) =
      ⟨(task.resume time state).events, ((task.resume time state).state, other),
        (task.resume time state).standing.onFirst⟩ := by
  induction task generalizing state with
  | done value => rfl
  | crash panic => rfl
  | hang => rfl
  | pause next => rfl
  | sleep nanoseconds next => rfl
  | read next ih => exact ih state state
  | write written next ih => exact ih written
  | clock next ih => exact ih time state
  | emit event next ih => simp only [Task.onFirst, resume, ih]

/-- A task over a part of the shared state, followed by one over all of it. -/
theorem resume_onFirst_bind (task : Task σ ε α) (f : α → Task (σ × ρ) ε β) (time : Nat) (state : σ)
    (other : ρ) :
    (task.onFirst.bind f).resume time (state, other) =
      match (task.resume time state).standing with
      | .finished value =>
        let later := (f value).resume time ((task.resume time state).state, other)
        { later with events := (task.resume time state).events ++ later.events }
      | standing =>
        ⟨(task.resume time state).events, ((task.resume time state).state, other),
          standing.onFirst.bind f⟩ := by
  rw [resume_bind, resume_onFirst]
  cases hstanding : (task.resume time state).standing <;> simp [Standing.onFirst]

theorem resume_onFirst_bind_of_isOpen {task : Task σ ε α} {time : Nat} {state : σ}
    (h : (task.resume time state).standing.IsOpen) (f : α → Task (σ × ρ) ε β) (other : ρ) :
    (task.onFirst.bind f).resume time (state, other) =
      ⟨(task.resume time state).events, ((task.resume time state).state, other),
        (task.resume time state).standing.onFirst.bind f⟩ := by
  rw [resume_onFirst_bind]
  cases hstanding : (task.resume time state).standing with
  | finished value =>
      rw [hstanding] at h
      cases h
  | _ => rfl

end Acceptance.Task
