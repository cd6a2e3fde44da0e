import Acceptance.Proofs.Pool.Progress
import Acceptance.Proofs.Pool.Report

/-!
# Crashes in a pool

A unit that crashes ends the queue of its worker, and nothing else: it does not stop the start of units,
as one does that returns a failure. The other workers start what is left of their queues.
-/

namespace Acceptance.Pool

variable {σ γ : Type} {plan : Plan σ γ} {gates : List (Task σ Event γ)} {width unit : Nat}
  {signal : Prop} {machine : Machine σ γ}

/-- A unit in hand has not both ended and crashed. -/
theorem InHand.not_ended {phase : Phase σ} (h : InHand plan gates machine phase)
    (hunit : unit ∈ phase.held) (hcrashed : .crashed unit ∈ marksOf unit machine.trace) :
    .ended unit ∉ marksOf unit machine.trace := by
  obtain ⟨_, events, last, hmarks, hlast⟩ := h.exists_marks hunit
  rw [hmarks] at hcrashed ⊢
  obtain rfl | rfl | rfl := hlast
  · simp [callMarks]
  · simp [callMarks] at hcrashed
  · simp [callMarks]

/-- What becomes of a unit that has crashed: it does not end, and what is reported of it is the crash. -/
theorem Sound.crashed (sound : Sound plan gates width signal machine) (hwidth : 0 < width)
    {job : Job σ γ} (hjob : plan.jobs[unit]? = some job) (hcrashed : .crashed unit ∈ machine.trace) :
    .ended unit ∉ machine.trace ∧ (machine.recordsOf unit = [] ∨
      ∃ message now, machine.recordsOf unit = [.failed job.instance_ (.workerCrashed message) now]) := by
  have hunit := (List.getElem?_eq_some_iff.mp hjob).1
  obtain ⟨worker, past, _, history, ⟨fate, hentry⟩ | hpending⟩ := sound.stands hunit hwidth
  · have settled := history.settled _ hentry
    obtain ⟨panic, now, rfl⟩ := settled.exists_crashed hcrashed
    refine ⟨fun hended => ?_, .inr ?_⟩
    · cases settled.isReturned_iff.mpr hended
    · obtain ⟨job', events, hjob', _, _, hrecords⟩ := settled
      cases hjob.symm.trans hjob'
      exact ⟨_, _, hrecords⟩
  · -- The crash of a unit in hand is not reported yet.
    refine ⟨?_, .inl (history.pending hpending).1⟩
    rw [← mem_marksOf rfl] at hcrashed ⊢
    rcases List.mem_append.mp hpending with hheld | hqueue
    · exact history.inHand.not_ended hheld hcrashed
    · simp [(history.waiting unit hqueue).1]

/-- No unit is started behind one of its queue that crashed. -/
theorem StartsInOrder.not_started (order : StartsInOrder width machine.trace)
    (sound : Sound plan gates width signal machine) (hwidth : 0 < width) {other : Nat}
    (hcrashed : .crashed unit ∈ machine.trace) (hlt : unit < other) (hother : other < plan.jobs.length)
    (hclass : other % width = unit % width) : .started other ∉ machine.trace := by
  intro hstarted
  have hjob := List.getElem?_eq_getElem (Nat.lt_trans hlt hother)
  exact (sound.crashed hwidth hjob hcrashed).1 (order.ended hstarted hlt hclass.symm)

/-- A unit that is not started by the end of a pool stands behind a crash, unless the start of units was
stopped. -/
theorem Sound.exists_crashed (sound : Sound plan gates width signal machine) (hwidth : 0 < width)
    (hcomplete : machine.isComplete = true) (hstop : machine.stop = false)
    (hunit : unit < plan.jobs.length) (hstarted : .started unit ∉ machine.trace) :
    ∃ earlier < unit, earlier % width = unit % width ∧ .crashed earlier ∈ machine.trace := by
  obtain ⟨fate, settled, _⟩ := sound.entries hwidth hcomplete (List.getElem?_eq_getElem hunit)
  obtain ⟨now, rfl⟩ := settled.exists_skipped hstarted
  have hskipped := settled.isSkipped_iff.mp rfl
  refine (sound.skipped hwidth hunit hskipped).resolve_left ?_
  simp [hstop]

/-- What is known of the starts in a pool between one of its states and a later one. -/
structure CarriesOn (plan : Plan σ γ) (width : Nat) (signal : Prop) (machine next : Machine σ γ) :
    Prop where
  /-- What is reported of a unit that crashed is a failure. -/
  reported : ∀ unit job, plan.jobs[unit]? = some job → .crashed unit ∈ machine.trace →
    machine.recordsOf unit = [] ∨
      ∃ message now, machine.recordsOf unit = [.failed job.instance_ (.workerCrashed message) now]
  /-- No unit is started behind one of its queue that crashed. -/
  behind : ∀ unit other, .crashed unit ∈ next.trace → unit < other → other < plan.jobs.length →
    other % width = unit % width → .started other ∉ next.trace
  /-- The start of units is stopped by a signal and by a unit that returned a failure, and by nothing
  else. -/
  stop : next.stop = true ↔
    signal ∨ plan.failFast = true ∧ ∃ unit < plan.jobs.length, .ended unit ∈ next.trace ∧
      Machine.endsFailed (next.recordsOf unit) = true
  /-- Once a unit has returned a failure, none is started any more where the plan says so. -/
  failed : plan.failFast = true → ∀ unit < plan.jobs.length, .ended unit ∈ machine.trace →
    Machine.endsFailed (machine.recordsOf unit) = true →
      ∀ other, .started other ∈ next.trace → .started other ∈ machine.trace
  /-- Where the start of units is not stopped, all of them are started but those behind a crash. -/
  others : next.isComplete = true → next.stop = false → ∀ unit < plan.jobs.length,
    (.started unit ∈ next.trace ↔
      ∀ earlier < unit, earlier % width = unit % width → .crashed earlier ∉ next.trace)
  /-- Then no unit is started between the two states exactly if all that are left are behind a crash. -/
  silent_iff : next.isComplete = true → next.stop = false →
    ((∀ unit < plan.jobs.length, .started unit ∈ next.trace → .started unit ∈ machine.trace) ↔
      ∀ unit < plan.jobs.length, .started unit ∉ machine.trace →
        ∃ earlier < unit, earlier % width = unit % width ∧ .crashed earlier ∈ next.trace)

/-- A crash does not stop the start of units, whatever the units do and in whatever order workers take
turns: it ends the queue of its worker, and the other queues are worked off. -/
theorem carriesOn_runSchedule (workers : Nat) (plan : Plan σ γ) (gates : List (Task σ Event γ))
    (stop : Bool) (shared : σ) (schedule later : List Turn) :
    CarriesOn plan (Pool.width workers plan.jobs.length)
      (stop = true ∨ ∃ turn ∈ schedule ++ later, turn.stops = true)
      ((start workers plan gates stop shared).runSchedule plan schedule)
      ((start workers plan gates stop shared).runSchedule plan (schedule ++ later)) := by
  have hwidth := width_pos workers plan.jobs.length
  have sound := sound_runSchedule workers plan gates stop shared schedule
  have sound' := sound_runSchedule workers plan gates stop shared (schedule ++ later)
  have order := startsInOrder_runSchedule workers plan gates stop shared (schedule ++ later)
  refine
    { reported := fun unit job hjob hcrashed => (sound.crashed hwidth hjob hcrashed).2
      behind := fun _ _ => order.not_started sound' hwidth
      stop := ⟨sound'.stop_cause, ?_⟩, failed := ?_, others := ?_, silent_iff := ?_ }
  · rintro (hsignal | ⟨hfast, unit, hunit, hended, hfailed⟩)
    · exact stop_runSchedule hsignal
    · exact sound'.stop_of_failed hwidth hfast hunit hended hfailed
  · intro hfast unit hunit hended hfailed other hstarted
    rw [Machine.runSchedule_append] at hstarted
    have hstop := sound.stop_of_failed hwidth hfast hunit hended hfailed
    exact (quiet_runSchedule hstop later).mem_trace hstarted
  · intro hcomplete hstop unit hunit
    refine ⟨fun hstarted earlier hlt hclass hcrashed => ?_, fun hcalm => ?_⟩
    · exact order.not_started sound' hwidth hcrashed hlt hunit hclass.symm hstarted
    · by_contra hstarted
      obtain ⟨earlier, hlt, hclass, hcrashed⟩ :=
        sound'.exists_crashed hwidth hcomplete hstop hunit hstarted
      exact hcalm earlier hlt hclass hcrashed
  · intro hcomplete hstop
    refine ⟨fun hsilent unit hunit hstarted => ?_, fun hleft unit hunit hstarted => ?_⟩
    · exact sound'.exists_crashed hwidth hcomplete hstop hunit fun h => hstarted (hsilent unit hunit h)
    · by_contra hearly
      obtain ⟨earlier, hlt, hclass, hcrashed⟩ := hleft unit hunit hearly
      exact order.not_started sound' hwidth hcrashed hlt hunit hclass.symm hstarted

/-! ## A crash with more to start -/

/-- An instance without steps. -/
def bare (name : String) : Instance where
  feature := "F"
  template := name
  name := name
  iteration := none
  tags := []
  background := []
  steps := []

/-- Four units, of which the first crashes and the others pass, where a failure stops the start of further
ones. -/
def blowing : Plan PUnit PUnit where
  jobs := ⟨bare "s0", none, fun _ => .crash (.text "boom")⟩ ::
    ["s1", "s2", "s3"].map fun name =>
      ⟨bare name, none, fun _ => .done [.ofAttempt (bare name) 1 [] .passed none [] 0 0]⟩
  failFast := true

/-- Two workers take a turn each, and the first one reports the crash of its unit. -/
def blown : List Turn := [⟨0, 1, false⟩, ⟨1, 1, false⟩, ⟨0, 1, false⟩]

/-- The last unit is started when the crash is reported already, and nothing ever stops the start of
units. -/
theorem starts_after_crash :
    blowing.failFast = true ∧
      ((start 2 blowing [] false ⟨⟩).runSchedule blowing blown).recordsOf 0 =
        [.failed (bare "s0") (.workerCrashed "boom") 3] ∧
      .started 3 ∉ ((start 2 blowing [] false ⟨⟩).runSchedule blowing blown).trace ∧
      ∃ later next, (start 2 blowing [] false ⟨⟩).runSchedule blowing (blown ++ later) = next ∧
        .started 3 ∈ next.trace ∧ next.isComplete = true ∧ next.stop = false ∧
          (next.reported blowing).map (·.map Record.status) =
            [[.failed], [.passed], [.skipped], [.passed]] :=
  ⟨rfl, by decide +kernel, by decide +kernel, [⟨1, 1, false⟩, ⟨1, 1, false⟩], _, rfl,
    by decide +kernel, by decide +kernel, by decide +kernel, by decide +kernel⟩

end Acceptance.Pool
