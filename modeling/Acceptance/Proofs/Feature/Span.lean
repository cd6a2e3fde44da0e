import Acceptance.Proofs.Feature.Ledger
import Acceptance.Proofs.Pool.Group

/-!
# Features between their hooks

On a pool the units of several features take turns, and so do the hooks around them. This module follows
a single feature through what happens: until the hooks before it have ended none of its units does
anything, then its units go on as they like, and the hooks after it are called when all of them have
told their records.
-/

namespace Acceptance.FeatureRunner

open Pool (Machine)
open Acceptance.Task (Act)

variable {σ ω : Type} (runner : FeatureRunner σ ω)

/-! ## What happens to one feature -/

/-- What has happened of a feature while the hooks before it were called, given what they did: no unit of
the feature has reported anything, and the hooks were not called before one of them was started. -/
structure Opening (acts : List (Act σ Event)) (marks : List Pool.Mark) : Prop where
  early : ∀ mark ∈ marks, mark.isEarly = true
  events : Pool.gateEvents marks = Task.events acts
  started : acts = [] ∨ ∃ unit, .started unit ∈ marks

section Feature

variable (features : List Feature) (index : Nat) (feature : Feature)

/-- The hooks before a feature have ended, and other things have happened to the feature since. -/
structure Begun (refused : Option HookError) (opening body : List Pool.Mark) : Prop where
  hooks : ∃ acts, (runner.beforeFeature feature).Ends acts (.finished refused) ∧ Opening acts opening
  started : ∃ unit, .started unit ∈ opening
  body : Pool.gateEvents body = []

/-- A unit of a pool is an instance of a feature. -/
def IsUnit (unit : Nat) (instance_ : Instance) : Prop :=
  (runner.planOf features).jobs[unit]? = some (runner.jobOf feature index instance_)

/-- What is known of a unit that its feature still waits for, or that has ended. A unit that crashed is
waited for in vain. -/
inductive Stands (books : Books) (runs : Task (σ × List Slot) Event (List Record) → Prop)
    (refused : Option HookError) (instance_ : Instance) (unit : Nat) : List Pool.Mark → Prop
  | waiting {marks : List Pool.Mark} (hmarks : marks = [] ∨ marks = [.skipped unit])
      (hwaiting : unit ∈ books.waiting) (hruns : ∀ task, ¬ runs task) : Stands _ _ _ _ _ marks
  | telling {own : List (Act σ Event)} {tell : Task σ Event (List Record)}
      (hcourse : (runner.reportOf instance_ refused).Course own tell)
      (hwaiting : unit ∈ books.waiting)
      (hruns : ∀ task, runs task → task = tell.onFirst.bind (runner.endWith feature index)) :
      Stands _ _ _ _ _ (Pool.callMarks unit (Task.events own))
  | crashed {own : List (Act σ Event)} {panic : Panic}
      (hends : (runner.reportOf instance_ refused).Ends own (.crashed panic))
      (hwaiting : unit ∈ books.waiting) (hruns : ∀ task, ¬ runs task) :
      Stands _ _ _ _ _ (Pool.callMarks unit (Task.events own) ++ [.crashed unit])
  | ended {own : List (Act σ Event)} {records : List Record}
      (hends : (runner.reportOf instance_ refused).Ends own (.finished records))
      (htold : (unit, records) ∈ books.told) (hruns : ∀ task, ¬ runs task) :
      Stands _ _ _ _ _ (Pool.callMarks unit (Task.events own) ++ [.ended unit])

/-- A unit of a feature has told its records, and has ended. -/
def HasEnded (refused : Option HookError) (instance_ : Instance) (unit : Nat) (records : List Record)
    (marks : List Pool.Mark) : Prop :=
  ∃ own, (runner.reportOf instance_ refused).Ends own (.finished records) ∧
    marks = Pool.callMarks unit (Task.events own) ++ [.ended unit]

/-- All units of a feature have been called and know their records, and all but one have ended. -/
structure AllTell (refused : Option HookError) (last : Nat) (marks : List Pool.Mark) : Prop where
  others : ∀ unit instance_, runner.IsUnit features index feature unit instance_ → unit ≠ last →
    ∃ records, runner.HasEnded refused instance_ unit records (Pool.marksOf unit marks)
  told : ∃ instance_ own records, runner.IsUnit features index feature last instance_ ∧
    (runner.reportOf instance_ refused).Ends own (.finished records) ∧
    Pool.marksOf last marks = Pool.callMarks last (Task.events own)

/-- What has happened since the last unit of a feature told its records: it calls the hooks after the
feature, and ends when they have, or crashes as they do. -/
inductive Closing (failed : Bool) (last : Nat) (records : List Record)
    (runs : Nat → Task (σ × List Slot) Event (List Record) → Prop) : List Pool.Mark → Prop
  | calling {acts : List (Act σ Event)} {after : Task σ Event (List HookError)}
      (hcourse : (runner.afterFeature feature failed).Course acts after)
      (hruns : ∀ unit task, runner.owner features unit = some index → runs unit task →
        unit = last ∧ task = after.onFirst.bind (amendWith index records)) :
      Closing _ _ _ _ ((Task.events acts).map (.fromUnit last))
  | called {acts : List (Act σ Event)} {errors : List HookError}
      (hends : (runner.afterFeature feature failed).Ends acts (.finished errors))
      (hruns : ∀ unit task, runner.owner features unit = some index → ¬ runs unit task) :
      Closing _ _ _ _ ((Task.events acts).map (.fromUnit last) ++ [.ended last])
  | crashed {acts : List (Act σ Event)} {panic : Panic}
      (hends : (runner.afterFeature feature failed).Ends acts (.crashed panic))
      (hruns : ∀ unit task, runner.owner features unit = some index → ¬ runs unit task) :
      Closing _ _ _ _ ((Task.events acts).map (.fromUnit last) ++ [.crashed last])

/-- How far a feature has come on a pool, given its gate, its marks, and which units run. It comes no
further when the hooks before it have crashed. -/
inductive Span (books : Books) (gate : Option (Pool.Gate (σ × List Slot) (Option HookError)))
    (runs : Nat → Task (σ × List Slot) Event (List Record) → Prop) : List Pool.Mark → Prop
  | closed {wake : Nat} {own : Task σ Event (Option HookError)} {acts : List (Act σ Event)}
      {marks : List Pool.Mark} (hgate : gate = some (.closed wake own.onFirst))
      (hcourse : (runner.beforeFeature feature).Course acts own) (hopening : Opening acts marks)
      (htold : books.toldOf (runner.owner features) index = [])
      (hruns : ∀ unit task, runner.owner features unit = some index → ¬ runs unit task) :
      Span _ _ _ marks
  | broken {cause panic : Panic} {acts : List (Act σ Event)} {marks : List Pool.Mark}
      (hgate : gate = some (.broken panic))
      (hends : (runner.beforeFeature feature).Ends acts (.crashed cause))
      (hscheduled : runner.scheduled feature ≠ [])
      (htold : books.toldOf (runner.owner features) index = [])
      (hruns : ∀ unit task, runner.owner features unit = some index → ¬ runs unit task) :
      Span _ _ _ marks
  | opened {refused : Option HookError} {opening body : List Pool.Mark}
      (hgate : gate = some (.opened refused)) (hbegun : runner.Begun feature refused opening body)
      (hpending : books.pending (runner.owner features) index ≠ 0)
      (hunits : ∀ unit instance_, runner.IsUnit features index feature unit instance_ →
        runner.Stands index feature books (runs unit) refused instance_ unit
          (Pool.marksOf unit (opening ++ body))) :
      Span _ _ _ (opening ++ body)
  | closing {refused : Option HookError} {opening body closing : List Pool.Mark} {last : Nat}
      {records : List Record} (hgate : gate = some (.opened refused))
      (hbegun : runner.Begun feature refused opening body)
      (hpending : books.pending (runner.owner features) index = 0)
      (hlast : (books.toldOf (runner.owner features) index).getLast? = some (last, records))
      (hall : runner.AllTell features index feature refused last (opening ++ body))
      (hclosing : runner.Closing features index feature
        (runner.failedSoFar (runner.owner features) books index feature) last records runs closing) :
      Span _ _ _ (opening ++ body ++ closing)

end Feature

variable {runner} {features : List Feature} {index : Nat} {feature : Feature} {books books' : Books}
  {gate : Option (Pool.Gate (σ × List Slot) (Option HookError))}
  {runs runs' : Nat → Task (σ × List Slot) Event (List Record) → Prop} {marks : List Pool.Mark}

section Units

variable {unit : Nat} {instance_ : Instance}

theorem IsUnit.owner (isUnit : runner.IsUnit features index feature unit instance_) :
    runner.owner features unit = some index := by
  rw [FeatureRunner.owner, isUnit]
  rfl

theorem exists_isUnit (hfeature : features[index]? = some feature)
    (howner : runner.owner features unit = some index) :
    ∃ instance_ ∈ runner.scheduled feature, runner.IsUnit features index feature unit instance_ := by
  obtain ⟨job, hjob, hgate⟩ := Option.bind_eq_some_iff.mp howner
  obtain ⟨found, other, instance_, hinstance, hother, rfl⟩ := exists_of_job hjob
  cases hgate
  cases hfeature.symm.trans hother
  exact ⟨instance_, hinstance, hjob⟩

/-- A unit of a feature that has not told its records is waited for. -/
theorem mem_waiting (ledger : (books.waiting ++ books.told.map Prod.fst).Perm
      (List.range (runner.planOf features).jobs.length))
    (isUnit : runner.IsUnit features index feature unit instance_) :
    unit ∈ books.waiting ∨ ∃ records, (unit, records) ∈ books.told := by
  have hunit := List.mem_range.mpr (List.getElem?_eq_some_iff.mp isUnit).1
  refine (List.mem_append.mp (ledger.mem_iff.mpr hunit)).imp_right fun htold => ?_
  obtain ⟨⟨_, records⟩, hmem, rfl⟩ := List.mem_map.mp htold
  exact ⟨records, hmem⟩

end Units

/-- A feature whose gate is broken stays as it is, whatever else happens to its units. -/
theorem Span.stay_broken {panic panic' : Panic} {marks' : List Pool.Mark}
    (span : runner.Span features index feature books (some (.broken panic)) runs marks)
    (hruns : ∀ unit task, runner.owner features unit = some index → runs' unit task → runs unit task) :
    runner.Span features index feature books (some (.broken panic')) runs' marks' := by
  generalize hgate : (some (.broken panic) : Option (Pool.Gate _ _)) = gate at span
  cases span with
  | closed hclosed => cases hgate.trans hclosed
  | opened hopened => cases hgate.trans hopened
  | closing hopened => cases hgate.trans hopened
  | broken _ hends hscheduled htold hnone =>
      exact .broken rfl hends hscheduled htold fun unit task howner h =>
        hnone unit task howner (hruns unit task howner h)

/-! ## Steps that do not concern the feature -/

/-- The books and what runs are kept for a feature. -/
structure Kept (features : List Feature) (index : Nat) (books books' : Books)
    (runs runs' : Nat → Task (σ × List Slot) Event (List Record) → Prop) : Prop where
  waiting : ∀ unit, runner.owner features unit = some index → unit ∈ books.waiting →
    unit ∈ books'.waiting
  pending : books'.pending (runner.owner features) index =
    books.pending (runner.owner features) index
  told : books'.toldOf (runner.owner features) index = books.toldOf (runner.owner features) index
  runs : ∀ unit task, runner.owner features unit = some index → runs' unit task → runs unit task

/-- What is known of a unit still holds where it has told as much as before and runs no other task. -/
theorem Stands.kept {refused : Option HookError} {instance_ : Instance} {unit : Nat}
    {goes goes' : Task (σ × List Slot) Event (List Record) → Prop}
    (stands : runner.Stands index feature books goes refused instance_ unit marks)
    (hwaiting : unit ∈ books.waiting → unit ∈ books'.waiting)
    (htold : ∀ records, (unit, records) ∈ books.told → (unit, records) ∈ books'.told)
    (hgoes : ∀ task, goes' task → goes task) :
    runner.Stands index feature books' goes' refused instance_ unit marks := by
  cases stands with
  | waiting hmarks hbefore hnone =>
      exact .waiting hmarks (hwaiting hbefore) fun task h => hnone task (hgoes task h)
  | telling hcourse hbefore htask =>
      exact .telling hcourse (hwaiting hbefore) fun task h => htask task (hgoes task h)
  | crashed hends hbefore hnone =>
      exact .crashed hends (hwaiting hbefore) fun task h => hnone task (hgoes task h)
  | ended hends hbefore hnone =>
      exact .ended hends (htold _ hbefore) fun task h => hnone task (hgoes task h)

section Kept

variable (kept : runner.Kept features index books books' runs runs')

include kept

theorem Kept.mem_told {unit : Nat} {records : List Record}
    (howner : runner.owner features unit = some index) (htold : (unit, records) ∈ books.told) :
    (unit, records) ∈ books'.told :=
  (Books.mem_toldOf howner).mp (kept.told ▸ (Books.mem_toldOf howner).mpr htold)

theorem Kept.closing {failed : Bool} {last : Nat} {records : List Record}
    (closing : runner.Closing features index feature failed last records runs marks) :
    runner.Closing features index feature failed last records runs' marks := by
  cases closing with
  | calling hcourse hruns =>
      exact .calling hcourse fun _ _ howner h => hruns _ _ howner (kept.runs _ _ howner h)
  | called hends hruns =>
      exact .called hends fun _ _ howner h => hruns _ _ howner (kept.runs _ _ howner h)
  | crashed hends hruns =>
      exact .crashed hends fun _ _ howner h => hruns _ _ howner (kept.runs _ _ howner h)

/-- A feature has come no further where nothing of it changes. -/
theorem Kept.span (span : runner.Span features index feature books gate runs marks) :
    runner.Span features index feature books' gate runs' marks := by
  cases span with
  | closed hgate hcourse hopening htold hruns =>
      exact .closed hgate hcourse hopening (kept.told.trans htold)
        fun _ _ howner h => hruns _ _ howner (kept.runs _ _ howner h)
  | broken hgate hends hscheduled htold hruns =>
      exact .broken hgate hends hscheduled (kept.told.trans htold)
        fun _ _ howner h => hruns _ _ howner (kept.runs _ _ howner h)
  | opened hgate hbegun hpending hunits =>
      exact .opened hgate hbegun (kept.pending ▸ hpending)
        fun unit instance_ isUnit => (hunits unit instance_ isUnit).kept
          (kept.waiting unit isUnit.owner) (fun _ => kept.mem_told isUnit.owner)
          fun task => kept.runs unit task isUnit.owner
  | closing hgate hbegun hpending hlast hall hclosing =>
      refine .closing hgate hbegun (kept.pending.trans hpending) (kept.told.symm ▸ hlast) hall ?_
      rw [failedSoFar, kept.told]
      exact kept.closing hclosing

end Kept

theorem kept_of_runs
    (hruns : ∀ unit task, runner.owner features unit = some index → runs' unit task →
      runs unit task) : runner.Kept features index books books runs runs' :=
  ⟨fun _ _ h => h, rfl, rfl, hruns⟩

/-- What a unit tells does not concern other features than its own. -/
theorem kept_of_tells {unit : Nat} (tells : Tells books books' unit)
    (hne : runner.owner features unit ≠ some index)
    (hruns : ∀ other task, other ≠ unit → runs' other task → runs other task) :
    runner.Kept features index books books' runs runs' := by
  have hother {other : Nat} (howner : runner.owner features other = some index) : other ≠ unit :=
    fun heq => hne (heq ▸ howner)
  refine
    { waiting := fun other howner => tells.waiting (hother howner), pending := ?_, told := ?_
      runs := fun other task howner => hruns other task (hother howner) }
  · obtain rfl | ⟨_, records, rfl⟩ := tells
    · rfl
    · exact Books.pending_pass_of_ne hne
  · obtain rfl | ⟨_, records, rfl⟩ := tells
    · rfl
    · exact Books.toldOf_pass_of_ne hne

/-! ## Units are started and skipped -/

theorem Opening.mark {acts : List (Act σ Event)} (opening : Opening acts marks) {mark : Pool.Mark}
    (hearly : mark.isEarly = true) (hunit : mark.unit? ≠ none) : Opening acts (marks ++ [mark]) where
  early := by
    simpa [hearly, or_imp, forall_and] using opening.early
  events := by
    have hnone : Pool.gateEvents [mark] = [] := Pool.gateEvents_eq_nil (by simpa using hunit)
    rw [Pool.gateEvents_append, hnone, List.append_nil, opening.events]
  started := opening.started.imp_right fun ⟨unit, hunit⟩ => ⟨unit, List.mem_append_left _ hunit⟩

section Marks

variable {unit : Nat} {instance_ : Instance}

/-- A unit that nothing has happened to does not run. -/
theorem Stands.not_runs {refused : Option HookError}
    {goes : Task (σ × List Slot) Event (List Record) → Prop}
    (stands : runner.Stands index feature books goes refused instance_ unit []) :
    ∀ task, ¬ goes task := by
  generalize hmarks : ([] : List Pool.Mark) = marks at stands
  cases stands with
  | waiting _ _ hnone => exact hnone
  | telling => simp [Pool.callMarks] at hmarks
  | crashed => simp [Pool.callMarks] at hmarks
  | ended => simp [Pool.callMarks] at hmarks

theorem Begun.advance {refused : Option HookError} {opening body added : List Pool.Mark}
    (begun : runner.Begun feature refused opening body)
    (hadded : ∀ mark ∈ added, mark.unit? = some unit) :
    runner.Begun feature refused opening (body ++ added) where
  hooks := begun.hooks
  started := begun.started
  body := by
    rw [Pool.gateEvents_append, begun.body, List.nil_append]
    exact Pool.gateEvents_eq_nil fun mark hmark => hadded mark hmark ▸ Option.some_ne_none unit

/-- A unit goes on while its feature still waits for some of its units. -/
theorem Span.advance {refused : Option HookError} {opening body added : List Pool.Mark}
    (hgate : gate = some (.opened refused)) (begun : runner.Begun feature refused opening body)
    (hunits : ∀ other found, runner.IsUnit features index feature other found →
      runner.Stands index feature books (runs other) refused found other
        (Pool.marksOf other (opening ++ body)))
    (isUnit : runner.IsUnit features index feature unit instance_) (tells : Tells books books' unit)
    (hpending : books'.pending (runner.owner features) index ≠ 0)
    (hadded : ∀ mark ∈ added, mark.unit? = some unit)
    (hruns : ∀ other task, other ≠ unit → runs' other task → runs other task)
    (hunit : runner.Stands index feature books' (runs' unit) refused instance_ unit
      (Pool.marksOf unit (opening ++ body) ++ added)) :
    runner.Span features index feature books' gate runs' (opening ++ body ++ added) := by
  rw [List.append_assoc]
  refine .opened hgate (begun.advance hadded) hpending fun other found isOther => ?_
  rw [← List.append_assoc, Pool.marksOf_append]
  by_cases hne : other = unit
  · subst hne
    cases isUnit.symm.trans isOther
    rw [Pool.marksOf_eq_self hadded]
    exact hunit
  · rw [Pool.marksOf_eq_nil fun mark hmark h => hne (Option.some.inj (h.symm.trans (hadded mark hmark))),
      List.append_nil]
    exact (hunits other found isOther).kept (tells.waiting hne) (fun _ => tells.told)
      fun task => hruns other task hne

/-- A unit that waits in a queue is started or skipped. -/
theorem Span.mark (span : runner.Span features index feature books gate runs marks)
    (isUnit : runner.IsUnit features index feature unit instance_) (hwaiting : unit ∈ books.waiting)
    (hfresh : Pool.marksOf unit marks = []) {mark : Pool.Mark}
    (hmark : mark = .started unit ∨ mark = .skipped unit) :
    runner.Span features index feature books gate runs (marks ++ [mark]) := by
  have hunit : mark.unit? = some unit := by obtain rfl | rfl := hmark <;> rfl
  cases span with
  | closed hgate hcourse hopening htold hruns =>
      have hearly : mark.isEarly = true := by obtain rfl | rfl := hmark <;> rfl
      have hsome : mark.unit? ≠ none := hunit ▸ Option.some_ne_none unit
      exact .closed hgate hcourse (hopening.mark hearly hsome) htold hruns
  | broken hgate hends hscheduled htold hruns => exact .broken hgate hends hscheduled htold hruns
  | opened hgate hbegun hpending hunits =>
      have hstands := hunits unit instance_ isUnit
      refine Span.advance hgate hbegun hunits isUnit (.inl rfl) hpending (by simpa using hunit)
        (fun _ _ _ h => h) ?_
      rw [hfresh] at hstands ⊢
      obtain rfl | rfl := hmark
      · exact .telling (.stay _) hwaiting fun _ h => absurd h (hstands.not_runs _)
      · exact .waiting (.inr rfl) hwaiting hstands.not_runs
  | closing _ _ hpending =>
      exact absurd hpending (Nat.ne_of_gt (Books.pending_pos hwaiting isUnit.owner))

end Marks

/-! ## The hooks before the feature are called -/

section Gates

variable {time wake : Nat} {state : σ} {slots : List Slot}

theorem Opening.resume {acts own : List (Act σ Event)} (opening : Opening acts marks)
    (hstarted : ∃ unit, .started unit ∈ marks) {events : List Event}
    (hevents : Task.events own = events) :
    Opening (acts ++ own) (marks ++ events.map (.fromGate index)) where
  early := by
    intro mark hmark
    rcases List.mem_append.mp hmark with hmark | hmark
    · exact opening.early mark hmark
    · obtain ⟨event, _, rfl⟩ := List.mem_map.mp hmark
      rfl
  events := by
    rw [Pool.gateEvents_append, Pool.gateEvents_fromGate, opening.events, Task.events_append, hevents]
  started := .inr (hstarted.imp fun _ h => List.mem_append_left _ h)

/-- The gate of a feature is resumed by a unit that waits there. -/
theorem Span.resumeGate {task : Task (σ × List Slot) Event (Option HookError)}
    (span : runner.Span features index feature books (some (.closed wake task)) runs marks)
    (hscheduled : runner.scheduled feature ≠ []) (hstarted : ∃ unit, .started unit ∈ marks)
    (hpending : books.pending (runner.owner features) index ≠ 0)
    (hunits : ∀ unit instance_, runner.IsUnit features index feature unit instance_ →
      (∀ mark ∈ marks, mark.isEarly = true) →
      books.toldOf (runner.owner features) index = [] → unit ∈ books.waiting ∧
        (Pool.marksOf unit marks = [] ∨ Pool.marksOf unit marks = [.started unit] ∨
          Pool.marksOf unit marks = [.skipped unit])) :
    runner.Span features index feature books
      (some (Pool.gateAfter time (task.resume time (state, slots)).standing)) runs
      (marks ++ (task.resume time (state, slots)).events.map (.fromGate index)) := by
  generalize hgate : (some (.closed wake task) : Option (Pool.Gate _ _)) = gate at span
  cases span with
  | opened hopened => cases hgate.trans hopened
  | broken hbroken => cases hgate.trans hbroken
  | closing hopened => cases hgate.trans hopened
  | @closed _ own acts _ hclosed hcourse hopening htold hruns =>
      cases hgate.trans hclosed
      obtain ⟨later, hlater, hevents, _⟩ := Task.resume_course own time state
      have hall := hcourse.append hlater
      have hopening' : Opening (acts ++ (later ++ (own.resume time state).standing.suspension))
          (marks ++ (own.resume time state).events.map (.fromGate index)) := by
        refine hopening.resume hstarted ?_
        rw [Task.events_append, Task.Standing.events_suspension, List.append_nil, hevents]
      rw [Task.resume_onFirst]
      obtain ⟨refused, hstanding⟩ | ⟨panic, hstanding⟩ | hopen :=
        (own.resume time state).standing.ended_or_isOpen
      · rw [hstanding] at hall hopening' ⊢
        rw [← List.append_nil (marks ++ _)]
        refine .opened rfl ⟨⟨_, hall, hopening'⟩, hstarted.imp fun _ h => List.mem_append_left _ h,
          rfl⟩ hpending fun unit instance_ isUnit => ?_
        obtain ⟨hwaiting, hmarks⟩ := hunits unit instance_ isUnit hopening.early htold
        have hnone := fun task => hruns unit task isUnit.owner
        rw [List.append_nil, Pool.marksOf_append, Pool.marksOf_fromGate, List.append_nil]
        obtain hempty | hfirst | hskipped := hmarks
        · exact .waiting (.inl hempty) hwaiting hnone
        · rw [hfirst]
          exact .telling (.stay _) hwaiting fun task h => absurd h (hnone task)
        · exact .waiting (.inr hskipped) hwaiting hnone
      · rw [hstanding] at hall ⊢
        exact .broken rfl hall hscheduled htold hruns
      · obtain ⟨hopen', hrest⟩ := hopen.onFirst
        obtain ⟨wake, hclosed⟩ := Pool.gateAfter_of_isOpen hopen' time
        exact .closed (congrArg some (hrest ▸ hclosed)) hall hopening' htold hruns

/-- A unit that passes the gate of its feature starts to run. -/
theorem Span.pass {unit : Nat} {instance_ : Instance} {value : Option HookError}
    (span : runner.Span features index feature books (some (.opened value)) runs marks)
    (isUnit : runner.IsUnit features index feature unit instance_) (hwaiting : unit ∈ books.waiting)
    (hmarks : Pool.marksOf unit marks = [.started unit])
    (hruns : ∀ other task, other ≠ unit → runs' other task → runs other task)
    (hunit : ∀ task, runs' unit task → task = runner.runUnit feature index instance_ value) :
    runner.Span features index feature books (some (.opened value)) runs' marks := by
  generalize hgate : (some (.opened value) : Option (Pool.Gate _ _)) = gate at span
  cases span with
  | closed hclosed => cases hgate.trans hclosed
  | broken hbroken => cases hgate.trans hbroken
  | closing _ _ hpending =>
      exact absurd hpending (Nat.ne_of_gt (Books.pending_pos hwaiting isUnit.owner))
  | opened hopened hbegun hpending hunits =>
      cases hgate.trans hopened
      rw [← List.append_nil (_ ++ _)]
      refine Span.advance hopened hbegun hunits isUnit (.inl rfl) hpending nofun hruns ?_
      rw [hmarks, List.append_nil]
      refine .telling (.stay _) hwaiting fun task h => ?_
      exact (hunit task h).trans (runUnit_eq feature index instance_ _)

end Gates

/-! ## A unit goes on -/

section Resume

variable {unit : Nat} {instance_ : Instance} {records : List Record} (time : Nat) (state : σ)
  (slots : List Slot)

/-- What a worker does with a unit that has been resumed. -/
def Continues (time unit : Nat) (standing : Task.Standing (σ × List Slot) Event (List Record))
    (task : Task (σ × List Slot) Event (List Record)) : Prop :=
  ∃ wake, Pool.phaseAfter time unit standing = .running unit wake task

theorem Continues.eq_rest {standing : Task.Standing (σ × List Slot) Event (List Record)}
    {task : Task (σ × List Slot) Event (List Record)} (h : Continues time unit standing task) :
    task = standing.rest :=
  h.elim fun _ => Pool.rest_of_phaseAfter

theorem not_continues_finished {task : Task (σ × List Slot) Event (List Record)} :
    ¬ Continues time unit (.finished records) task := by
  rintro ⟨wake, hphase⟩
  cases hphase

theorem not_continues_crashed {panic : Panic} {task : Task (σ × List Slot) Event (List Record)} :
    ¬ Continues time unit (.crashed panic) task := by
  rintro ⟨wake, hphase⟩
  cases hphase

/-- The last unit of a feature goes on with the hooks after the feature. -/
theorem Closing.resume {failed : Bool} {acts : List (Act σ Event)}
    {after : Task σ Event (List HookError)}
    (hcourse : (runner.afterFeature feature failed).Course acts after)
    (hruns : ∀ other task, runner.owner features other = some index → runs other task →
      other = unit ∧ Continues time unit
        ((after.onFirst.bind (amendWith index records)).resume time (state, slots)).standing task) :
    runner.Closing features index feature failed unit records runs
      ((Task.events acts).map (.fromUnit unit) ++
        (((after.onFirst.bind (amendWith index records)).resume time (state, slots)).events.map
            (.fromUnit unit) ++
          Pool.lastMarks unit
            ((after.onFirst.bind (amendWith index records)).resume time (state, slots)).standing)) := by
  obtain ⟨own, hown, hevents, _⟩ := Task.resume_course after time state
  have hall := hcourse.append hown
  have hmarks : (Task.events acts).map (Pool.Mark.fromUnit unit) ++
      (after.resume time state).events.map (Pool.Mark.fromUnit unit) =
        (Task.events (acts ++ (own ++ (after.resume time state).standing.suspension))).map
          (Pool.Mark.fromUnit unit) := by
    rw [← List.map_append, ← hevents, Task.events_append, Task.events_append,
      Task.Standing.events_suspension, List.append_nil]
  rw [← List.append_assoc]
  obtain ⟨errors, hstanding⟩ | ⟨panic, hstanding⟩ | hopen :=
    (after.resume time state).standing.ended_or_isOpen
  · rw [hstanding] at hall hmarks
    rw [Task.resume_onFirst_bind, hstanding] at hruns ⊢
    have hlater : (amendWith index records errors).resume time ((after.resume time state).state, slots) =
        ⟨[], ((after.resume time state).state, slots.modify index (Slot.amend errors)),
          .finished records⟩ := rfl
    simp only [hlater, List.append_nil] at hruns ⊢
    rw [hmarks]
    exact .called hall fun other task howner h =>
      not_continues_finished time (hruns other task howner h).2
  · rw [hstanding] at hall hmarks
    rw [Task.resume_onFirst_bind, hstanding] at hruns ⊢
    rw [hmarks]
    exact .crashed hall fun other task howner h =>
      not_continues_crashed time (hruns other task howner h).2
  -- While the hooks go on, so does the unit.
  · rw [Task.resume_onFirst_bind_of_isOpen hopen] at hruns ⊢
    obtain ⟨hopen', hrest⟩ := hopen.onFirst_bind (amendWith index records)
    rw [(Pool.phaseAfter_of_isOpen hopen' time unit).1, List.append_nil, hmarks]
    exact .calling hall fun other task howner h =>
      (hruns other task howner h).imp_right fun hcontinues => hcontinues.eq_rest.trans hrest

/-- When the last unit of a feature has told its records all others have ended. -/
theorem Stands.ended_of_last {refused : Option HookError} {other : Nat} {found : Instance}
    {goes : Task (σ × List Slot) Event (List Record) → Prop}
    (stands : runner.Stands index feature books goes refused found other marks)
    (isOther : runner.IsUnit features index feature other found) (hne : other ≠ unit)
    (hlast : (books.pass unit records).pending (runner.owner features) index = 0) :
    (∀ task, ¬ goes task) ∧ ∃ others, runner.HasEnded refused found other others marks := by
  have hnot : other ∉ books.waiting := fun h =>
    absurd hlast (Nat.ne_of_gt (Books.pending_pos ((List.mem_erase_of_ne hne).mpr h) isOther.owner))
  cases stands with
  | waiting _ hwaiting => exact absurd hwaiting hnot
  | telling _ hwaiting => exact absurd hwaiting hnot
  | crashed _ hwaiting => exact absurd hwaiting hnot
  | ended hends _ hnone => exact ⟨hnone, _, _, hends, rfl⟩

/-- The last unit of a feature tells its records, and goes on to the hooks after the feature. -/
theorem Span.close {refused : Option HookError} {opening body : List Pool.Mark}
    {own : List (Act σ Event)} {events : List Event}
    (hgate : gate = some (.opened refused)) (begun : runner.Begun feature refused opening body)
    (hunits : ∀ other found, runner.IsUnit features index feature other found →
      runner.Stands index feature books (runs other) refused found other
        (Pool.marksOf other (opening ++ body)))
    (isUnit : runner.IsUnit features index feature unit instance_)
    (hends : (runner.reportOf instance_ refused).Ends own (.finished records))
    (hmarks : Pool.marksOf unit (opening ++ body) ++ events.map (.fromUnit unit) =
      Pool.callMarks unit (Task.events own))
    (hlast : (books.pass unit records).pending (runner.owner features) index = 0)
    (hfeature : features[index]? = some feature)
    (hruns : ∀ other task, other ≠ unit → runs' other task → runs other task)
    (hunit : ∀ task, runs' unit task → Continues time unit
      (((runner.afterFeature feature
          (runner.failedSoFar (runner.owner features) (books.pass unit records) index
            feature)).onFirst.bind (amendWith index records)).resume time (state, slots)).standing
      task) :
    runner.Span features index feature (books.pass unit records) gate runs'
      (opening ++ (body ++ events.map (.fromUnit unit)) ++
        ((((runner.afterFeature feature
            (runner.failedSoFar (runner.owner features) (books.pass unit records) index
              feature)).onFirst.bind (amendWith index records)).resume time
                (state, slots)).events.map (.fromUnit unit) ++
          Pool.lastMarks unit (((runner.afterFeature feature
            (runner.failedSoFar (runner.owner features) (books.pass unit records) index
              feature)).onFirst.bind (amendWith index records)).resume time
                (state, slots)).standing)) := by
  have hothers (other : Nat) (found : Instance)
      (isOther : runner.IsUnit features index feature other found) (hne : other ≠ unit) :=
    (hunits other found isOther).ended_of_last isOther hne hlast
  have hadded : ∀ mark ∈ events.map (Pool.Mark.fromUnit unit), mark.unit? = some unit := by
    simp [Pool.Mark.unit?]
  refine .closing hgate (begun.advance hadded) hlast ?_
    ⟨?_, instance_, own, records, isUnit, hends, ?_⟩
    (Closing.resume time state slots (Task.Course.stay (runner.afterFeature feature _)) ?_)
  · rw [Books.toldOf_pass isUnit.owner, List.getLast?_append, List.getLast?_singleton, Option.some_or]
  · intro other found isOther hne
    rw [← List.append_assoc, Pool.marksOf_append, Pool.marksOf_fromUnit_of_ne hne, List.append_nil]
    exact (hothers other found isOther hne).2
  · rw [← List.append_assoc, Pool.marksOf_append, Pool.marksOf_fromUnit, hmarks]
  · intro other task howner h
    by_cases hne : other = unit
    · subst hne
      exact ⟨rfl, hunit task h⟩
    · obtain ⟨found, _, isOther⟩ := exists_isUnit hfeature howner
      exact absurd (hruns other task hne h) ((hothers other found isOther hne).1 task)

/-- A unit that has not told its records yet goes on, and may be the last one that its feature waits
for. -/
theorem Span.tell {refused : Option HookError} {opening body : List Pool.Mark}
    {own : List (Act σ Event)} {tell : Task σ Event (List Record)} {ended : Nat → Prop}
    (hgate : gate = some (.opened refused)) (begun : runner.Begun feature refused opening body)
    (hunits : ∀ other found, runner.IsUnit features index feature other found →
      runner.Stands index feature books (runs other) refused found other
        (Pool.marksOf other (opening ++ body)))
    (hpending : books.pending (runner.owner features) index ≠ 0)
    (isUnit : runner.IsUnit features index feature unit instance_)
    (hcourse : (runner.reportOf instance_ refused).Course own tell) (hwaiting : unit ∈ books.waiting)
    (hmarks : Pool.marksOf unit (opening ++ body) = Pool.callMarks unit (Task.events own))
    (agree : runner.SlotsAgree features (runner.owner features) books ended slots)
    (hfeature : features[index]? = some feature)
    (hruns : ∀ other task, other ≠ unit → runs' other task → runs other task)
    (hunit : ∀ task, runs' unit task → Continues time unit
      ((tell.onFirst.bind (runner.endWith feature index)).resume time (state, slots)).standing task) :
    runner.Span features index feature (books.after unit (tell.resume time state).standing) gate runs'
      (opening ++ body ++
        (((tell.onFirst.bind (runner.endWith feature index)).resume time (state, slots)).events.map
            (.fromUnit unit) ++
          Pool.lastMarks unit
            ((tell.onFirst.bind (runner.endWith feature index)).resume time
              (state, slots)).standing)) := by
  obtain ⟨later, hlater, hevents, _⟩ := Task.resume_course tell time state
  have hall := hcourse.append hlater
  have hmarks' : Pool.callMarks unit (Task.events own) ++
      (tell.resume time state).events.map (.fromUnit unit) =
        Pool.callMarks unit
          (Task.events (own ++ (later ++ (tell.resume time state).standing.suspension))) := by
    simp [Pool.callMarks, Task.Standing.events_suspension, hevents]
  obtain ⟨records, hstanding⟩ | ⟨panic, hstanding⟩ | hopen :=
    (tell.resume time state).standing.ended_or_isOpen
  · rw [hstanding] at hall hmarks' ⊢
    rw [Task.resume_onFirst_bind, hstanding] at hunit ⊢
    obtain ⟨hzero, hfailed⟩ := agree.getD_pass isUnit.owner hfeature hwaiting records
    simp only [resume_endWith, hzero, hfailed] at hunit ⊢
    by_cases hlast : (books.pass unit records).pending (runner.owner features) index = 0
    · simp only [hlast, if_true, List.map_append] at hunit ⊢
      rw [← hmarks] at hmarks'
      have hclosed := Span.close time _ _ hgate begun hunits isUnit hall hmarks' hlast hfeature hruns
        hunit
      simp only [List.append_assoc] at hclosed ⊢
      exact hclosed
    · simp only [hlast, if_false, List.append_nil] at hunit ⊢
      refine Span.advance hgate begun hunits isUnit (.inr ⟨hwaiting, records, rfl⟩) hlast
        (fun _ => Pool.unit?_of_mem_resume) hruns ?_
      rw [hmarks, ← List.append_assoc, hmarks']
      exact .ended hall (List.mem_append_right _ (List.mem_singleton_self _))
        fun task h => not_continues_finished time (hunit task h)
  · rw [hstanding] at hall hmarks' ⊢
    rw [Task.resume_onFirst_bind, hstanding] at hunit ⊢
    refine Span.advance hgate begun hunits isUnit (.inl rfl) hpending
      (fun _ => Pool.unit?_of_mem_resume) hruns ?_
    rw [hmarks, ← List.append_assoc, hmarks']
    exact .crashed hall hwaiting fun task h => not_continues_crashed time (hunit task h)
  · rw [Books.after_of_isOpen hopen]
    rw [Task.resume_onFirst_bind_of_isOpen hopen] at hunit ⊢
    obtain ⟨hopen', hrest⟩ := hopen.onFirst_bind (runner.endWith feature index)
    rw [(Pool.phaseAfter_of_isOpen hopen' time unit).1, List.append_nil]
    refine Span.advance hgate begun hunits isUnit (.inl rfl) hpending (by simp [Pool.Mark.unit?]) hruns ?_
    rw [hmarks, hmarks']
    exact .telling hall hwaiting fun task h => (hunit task h).eq_rest.trans hrest

/-- A unit of a feature is resumed. It may tell its records, and then the slots agree with the books
again. -/
theorem Span.resume {ended : Nat → Prop} {task : Task (σ × List Slot) Event (List Record)}
    (span : runner.Span features index feature books gate runs marks)
    (hfeature : features[index]? = some feature)
    (isUnit : runner.IsUnit features index feature unit instance_) (htask : runs unit task)
    (agree : runner.SlotsAgree features (runner.owner features) books ended slots)
    (hended : ¬ ended unit)
    (hruns : ∀ other task, other ≠ unit → runs' other task → runs other task)
    (hunit : ∀ left, runs' unit left →
      Continues time unit (task.resume time (state, slots)).standing left) :
    ∃ books', Tells books books' unit ∧
      runner.Resumed features (runner.owner features) books' ended unit
        (task.resume time (state, slots)).state.2 (task.resume time (state, slots)).standing ∧
      runner.Span features index feature books' gate runs'
        (marks ++ ((task.resume time (state, slots)).events.map (.fromUnit unit) ++
          Pool.lastMarks unit (task.resume time (state, slots)).standing)) := by
  have howner := isUnit.owner
  obtain ⟨_, hinstance, _⟩ := exists_isUnit hfeature howner
  have hscheduled := List.ne_nil_of_mem hinstance
  cases span with
  | closed _ _ _ _ hnone => exact absurd htask (hnone unit task howner)
  | broken _ _ _ _ hnone => exact absurd htask (hnone unit task howner)
  | @opened refused opening body hgate begun hpending hunits =>
      have hstands := hunits unit instance_ isUnit
      generalize hmarks : Pool.marksOf unit (opening ++ body) = own at hstands
      cases hstands with
      | waiting _ _ hnone => exact absurd htask (hnone task)
      | crashed _ _ hnone => exact absurd htask (hnone task)
      | ended _ _ hnone => exact absurd htask (hnone task)
      | @telling own tell hcourse hwaiting honly =>
          cases honly task htask
          exact ⟨_, tells_after hwaiting _,
            resumed_telling time state agree hended howner hfeature hscheduled hwaiting tell,
            Span.tell time state slots hgate begun hunits hpending isUnit hcourse hwaiting hmarks agree
              hfeature hruns hunit⟩
  | closing hgate begun hpending hlast hall hclosing =>
      cases hclosing with
      | called _ hnone => exact absurd htask (hnone unit task howner)
      | crashed _ hnone => exact absurd htask (hnone unit task howner)
      | @calling acts after hcourse honly =>
          obtain ⟨rfl, rfl⟩ := honly unit task howner htask
          refine ⟨books, .inl rfl,
            resumed_closing time state agree hended hfeature hscheduled hpending hlast hcourse, ?_⟩
          rw [List.append_assoc]
          refine .closing hgate begun hpending hlast hall
            (Closing.resume time state slots hcourse fun other left hother h => ?_)
          by_cases hne : other = unit
          · subst hne
            exact ⟨rfl, hunit left h⟩
          · exact absurd (honly other left hother (hruns other left hne h)).1 hne

end Resume

end Acceptance.FeatureRunner
