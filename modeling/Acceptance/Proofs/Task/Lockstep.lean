import Acceptance.Proofs.Task.Agreement

/-!
# Tasks in lockstep

Two tasks are in lockstep if they do the same things one after another, whatever they learn on the way,
and only what they end with may differ. Whoever shares their state cannot tell them apart before they
end, so one may stand in for the other in any run. Only a crash that escapes may end one of them before
the other.
-/

namespace Acceptance.Task

variable {σ ρ ε α β α' β' : Type}

/-- Tasks that do the same up to their ends, which are related, or until one of them crashes with what
escapes. -/
inductive Lockstep (escapes : Panic → Prop) (R : Ending α → Ending β → Prop) :
    Task σ ε α → Task σ ε β → Prop
  | ended {ending : Ending α} {ending' : Ending β} (h : R ending ending') :
      Lockstep escapes R ending.task ending'.task
  | cutLeft {panic : Panic} (hpanic : escapes panic) (right : Task σ ε β) :
      Lockstep escapes R (.crash panic) right
  | cutRight {panic : Panic} (hpanic : escapes panic) (left : Task σ ε α) :
      Lockstep escapes R left (.crash panic)
  | read {next next'} (h : ∀ state, Lockstep escapes R (next state) (next' state)) :
      Lockstep escapes R (.read next) (.read next')
  | write (state : σ) {next next'} (h : Lockstep escapes R next next') :
      Lockstep escapes R (.write state next) (.write state next')
  | emit (event : ε) {next next'} (h : Lockstep escapes R next next') :
      Lockstep escapes R (.emit event next) (.emit event next')
  | clock {next next'} (h : ∀ now, Lockstep escapes R (next now) (next' now)) :
      Lockstep escapes R (.clock next) (.clock next')
  | pause {next next'} (h : Lockstep escapes R next next') :
      Lockstep escapes R (.pause next) (.pause next')
  | sleep (nanoseconds : Nat) {next next'} (h : Lockstep escapes R next next') :
      Lockstep escapes R (.sleep nanoseconds next) (.sleep nanoseconds next')

/-- No crash escapes. -/
def NoEscape (_ : Panic) : Prop := False

/-- What is known of a task that is in lockstep with one that did some acts and ended: it does the same
and ends as is related, unless one of the two was cut off by a crash that escapes. -/
inductive Follows (escapes : Panic → Prop) (R : Ending α → Ending β → Prop) (acts : List (Act σ ε))
    (ending : Ending α) (right : Task σ ε β) : Prop
  | ends {ending' : Ending β} (hright : right.Ends acts ending') (h : R ending ending')
  | cut {panic : Panic} {rest : Task σ ε β} (hpanic : escapes panic) (hending : ending = .crashed panic)
      (hright : right.Course acts rest)
  | before {panic : Panic} {before : List (Act σ ε)} (hpanic : escapes panic) (hbefore : before <+: acts)
      (hright : right.Ends before (.crashed panic))

/-- Endings of tasks that both hang or both do not. Nothing is said of values and crashes. -/
def Ending.HangAlike (ending : Ending α) (ending' : Ending β) : Prop :=
  ending = .hung ↔ ending' = .hung

namespace Lockstep

variable {escapes : Panic → Prop} {R : Ending α → Ending β → Prop} {left : Task σ ε α}
  {right : Task σ ε β}

theorem done {P : α → β → Prop} {value : α} {value' : β} (h : P value value') :
    Lockstep escapes (Ending.Agree P) (.done value : Task σ ε α) (.done value') :=
  .ended (Ending.Agree.finished h)

theorem symm (h : Lockstep escapes R left right) :
    Lockstep escapes (fun ending ending' => R ending' ending) right left := by
  induction h with
  | ended h => exact .ended h
  | cutLeft hpanic right => exact .cutRight hpanic right
  | cutRight hpanic left => exact .cutLeft hpanic left
  | read _ ih => exact .read ih
  | write state _ ih => exact .write state ih
  | emit event _ ih => exact .emit event ih
  | clock _ ih => exact .clock ih
  | pause _ ih => exact .pause ih
  | sleep nanoseconds _ ih => exact .sleep nanoseconds ih

/-- A task is in lockstep with itself. -/
theorem refl {R : Ending α → Ending α → Prop} (h : ∀ ending, R ending ending) (task : Task σ ε α) :
    Lockstep escapes R task task := by
  induction task with
  | done value => exact .ended (h (.finished value))
  | crash panic => exact .ended (h (.crashed panic))
  | hang => exact .ended (h .hung)
  | read _ ih => exact .read ih
  | write state _ ih => exact .write state ih
  | emit event _ ih => exact .emit event ih
  | clock _ ih => exact .clock ih
  | pause _ ih => exact .pause ih
  | sleep nanoseconds _ ih => exact .sleep nanoseconds ih

/-- What follows values that are related goes on in lockstep. -/
theorem bind {P : α → β → Prop} {Q : α' → β' → Prop} {f : α → Task σ ε α'} {g : β → Task σ ε β'}
    (h : Lockstep escapes (Ending.Agree P) left right)
    (hnext : ∀ value value', P value value' → Lockstep escapes (Ending.Agree Q) (f value) (g value')) :
    Lockstep escapes (Ending.Agree Q) (left.bind f) (right.bind g) := by
  induction h with
  | ended h =>
      cases h with
      | finished hvalue => exact hnext _ _ hvalue
      | crashed panic => exact .ended (Ending.Agree.crashed panic)
      | hung => exact .ended Ending.Agree.hung
  | cutLeft hpanic right => exact .cutLeft hpanic _
  | cutRight hpanic left => exact .cutRight hpanic _
  | read _ ih => exact .read ih
  | write state _ ih => exact .write state ih
  | emit event _ ih => exact .emit event ih
  | clock _ ih => exact .clock ih
  | pause _ ih => exact .pause ih
  | sleep nanoseconds _ ih => exact .sleep nanoseconds ih

/-- A task may be followed by tasks that are in lockstep. -/
theorem bind_self {Q : α' → β' → Prop} {f : α → Task σ ε α'} {g : α → Task σ ε β'} (task : Task σ ε α)
    (hnext : ∀ value, Lockstep escapes (Ending.Agree Q) (f value) (g value)) :
    Lockstep escapes (Ending.Agree Q) (task.bind f) (task.bind g) := by
  refine (refl (fun _ => Ending.agree_eq_iff.mpr rfl) task).bind ?_
  rintro value _ rfl
  exact hnext value

/-- Calls in lockstep that give to be awaited what is in lockstep are so with what is awaited. -/
theorem join {P : α → β → Prop} {left : Task σ ε (Task σ ε α)} {right : Task σ ε (Task σ ε β)}
    (h : Lockstep escapes (Ending.Agree (Lockstep escapes (Ending.Agree P))) left right) :
    Lockstep escapes (Ending.Agree P) left.join right.join :=
  h.bind fun _ _ hcalled => hcalled

/-- Where only answers and crashes may differ, the private state that is left is the same. -/
theorem onPrivate {left : Task (σ × ρ) ε α} {right : Task (σ × ρ) ε β}
    (h : Lockstep NoEscape Ending.HangAlike left right) (own : ρ) :
    Lockstep escapes (Ending.Agree fun result result' => result.2 = result'.2) (left.onPrivate own)
      (right.onPrivate own) := by
  induction h generalizing own with
  | @ended ending ending' h =>
      -- A crash is a value here, so only a task that hangs needs one that hangs beside it.
      cases ending with
      | hung =>
          obtain rfl := h.mp rfl
          exact .ended Ending.Agree.hung
      | _ =>
          cases ending' with
          | hung => exact absurd (h.mpr rfl) nofun
          | _ => exact .done rfl
  | cutLeft hpanic => exact hpanic.elim
  | cutRight hpanic => exact hpanic.elim
  | read _ ih => exact .read fun state => ih (state, own) own
  | write state _ ih => exact .write state.1 (ih state.2)
  | emit event _ ih => exact .emit event (ih own)
  | clock _ ih => exact .clock fun now => ih now own
  | pause _ ih => exact .pause (ih own)
  | sleep nanoseconds _ ih => exact .sleep nanoseconds (ih own)

theorem caught (h : Lockstep NoEscape Ending.HangAlike left right) :
    Lockstep escapes (Ending.Agree fun _ _ => True) left.caught right.caught := by
  induction h with
  | @ended ending ending' h =>
      cases ending with
      | hung =>
          obtain rfl := h.mp rfl
          exact .ended Ending.Agree.hung
      | _ =>
          cases ending' with
          | hung => exact absurd (h.mpr rfl) nofun
          | _ => exact .done trivial
  | cutLeft hpanic => exact hpanic.elim
  | cutRight hpanic => exact hpanic.elim
  | read _ ih => exact .read ih
  | write state _ ih => exact .write state ih
  | emit event _ ih => exact .emit event ih
  | clock _ ih => exact .clock ih
  | pause _ ih => exact .pause ih
  | sleep nanoseconds _ ih => exact .sleep nanoseconds ih

/-- Beside the same private state tasks stay in lockstep, and leave the same one. -/
theorem beside {P : α → β → Prop} {left : Task (σ × ρ) ε α} {right : Task (σ × ρ) ε β}
    (h : Lockstep escapes (Ending.Agree P) left right) (own : ρ) :
    Lockstep escapes (Ending.Agree fun result result' => P result.1 result'.1 ∧ result.2 = result'.2)
      (left.beside own) (right.beside own) := by
  induction h generalizing own with
  | ended h =>
      cases h with
      | finished hvalue => exact .done ⟨hvalue, rfl⟩
      | crashed panic => exact .ended (Ending.Agree.crashed panic)
      | hung => exact .ended Ending.Agree.hung
  | cutLeft hpanic right => exact .cutLeft hpanic _
  | cutRight hpanic left => exact .cutRight hpanic _
  | read _ ih => exact .read fun state => ih (state, own) own
  | write state _ ih => exact .write state.1 (ih state.2)
  | emit event _ ih => exact .emit event (ih own)
  | clock _ ih => exact .clock fun now => ih now own
  | pause _ ih => exact .pause (ih own)
  | sleep nanoseconds _ ih => exact .sleep nanoseconds (ih own)

/-- What a task does, one in lockstep with it does as well, and the two stay so, unless that one has been
cut off. -/
theorem does (h : Lockstep escapes R left right) {act : Act σ ε} {next : Task σ ε α}
    (hleft : left.Does act next) :
    (∃ next', right.Does act next' ∧ Lockstep escapes R next next') ∨
      ∃ panic, escapes panic ∧ right = .crash panic := by
  cases h with
  | @ended ending _ h => cases ending <;> cases hleft
  | cutLeft => cases hleft
  | @cutRight panic hpanic => exact .inr ⟨panic, hpanic, rfl⟩
  | @read _ next' h =>
      cases hleft with
      | read _ state => exact .inl ⟨_, .read next' state, h state⟩
  | @clock _ next' h =>
      cases hleft with
      | clock _ now => exact .inl ⟨_, .clock next' now, h now⟩
  | @write state _ next' h =>
      cases hleft
      exact .inl ⟨_, .write state next', h⟩
  | @emit event _ next' h =>
      cases hleft
      exact .inl ⟨_, .emit event next', h⟩
  | @pause _ next' h =>
      cases hleft
      exact .inl ⟨_, .pause next', h⟩
  | @sleep nanoseconds _ next' h =>
      cases hleft
      exact .inl ⟨_, .sleep nanoseconds next', h⟩

/-- A task in lockstep with one that is at its end is at its own end, unless one of the two is cut
off. -/
theorem follows_nil {ending : Ending α} (h : Lockstep escapes R ending.task right) :
    Follows escapes R [] ending right := by
  generalize hleft : (ending.task : Task σ ε α) = left at h
  cases h with
  | @ended _ ending' h =>
      obtain rfl := ((ends_task _).mp (ends_nil.mpr hleft.symm)).2
      exact .ends (ends_nil.mpr rfl) h
  | @cutLeft panic hpanic _ =>
      obtain rfl := ((ends_task (.crashed panic)).mp (ends_nil.mpr hleft.symm)).2
      exact .cut hpanic rfl (.stay right)
  | cutRight hpanic _ => exact .before hpanic List.nil_prefix (ends_nil.mpr rfl)
  | _ => cases ending <;> cases hleft

/-- A task in lockstep with one that ends does so after the same acts, unless one of the two is cut
off. -/
theorem follows (h : Lockstep escapes R left right) {acts : List (Act σ ε)} {ending : Ending α}
    (hleft : left.Ends acts ending) : Follows escapes R acts ending right := by
  change left.Course acts ending.task at hleft
  generalize hrest : (ending.task : Task σ ε α) = rest at hleft
  induction hleft generalizing right with
  | stay task =>
      subst hrest
      exact h.follows_nil
  | step hdoes _ ih =>
      obtain ⟨next', hdoes', hnext⟩ | ⟨panic, hpanic, rfl⟩ := h.does hdoes
      · cases ih hnext hrest with
        | ends hright hending => exact .ends (.step hdoes' hright) hending
        | cut hpanic hending hright => exact .cut hpanic hending (.step hdoes' hright)
        | before hpanic hbefore hright =>
            exact .before hpanic (List.cons_prefix_cons.mpr ⟨rfl, hbefore⟩) (.step hdoes' hright)
      · exact .before hpanic List.nil_prefix (ends_nil.mpr rfl)

/-- Tasks in lockstep that are run by themselves leave the same behind, and end as is related, unless
one of the two is cut off. -/
theorem run (h : Lockstep escapes R left right) (time : Nat) (state : σ) :
    ((right.run time state).events = (left.run time state).events ∧
      (right.run time state).state = (left.run time state).state ∧
      (right.run time state).time = (left.run time state).time ∧
      R (left.run time state).ending (right.run time state).ending) ∨
    ∃ panic, escapes panic ∧ ((left.run time state).ending = .crashed panic ∨
      (right.run time state).ending = .crashed panic) := by
  induction h generalizing time state with
  | @ended ending ending' h => cases ending <;> cases ending' <;> exact .inl ⟨rfl, rfl, rfl, h⟩
  | @cutLeft panic hpanic _ => exact .inr ⟨panic, hpanic, .inl rfl⟩
  | @cutRight panic hpanic _ => exact .inr ⟨panic, hpanic, .inr rfl⟩
  | read _ ih => exact ih state time state
  | write written _ ih => exact ih time written
  | clock _ ih => exact ih time time state
  | pause _ ih => exact ih time state
  | sleep nanoseconds _ ih => exact ih (time + nanoseconds) state
  | emit event _ ih =>
      refine (ih time state).imp_left ?_
      rintro ⟨hevents, hstate, htime, hending⟩
      exact ⟨congrArg (event :: ·) hevents, hstate, htime, hending⟩

end Lockstep

end Acceptance.Task
