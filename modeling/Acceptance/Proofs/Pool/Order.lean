import Acceptance.Proofs.Pool.Bookkeeping

/-!
# Order of starts

A worker starts a unit only when it has seen all earlier units of its queue end, and never while the
start of further units is stopped. What a pool does apart from that is quiet: it starts nothing.
-/

namespace Acceptance.Pool

variable {σ γ : Type} {plan : Plan σ γ} {gates : List (Task σ Event γ)} {width id unit : Nat}
  {signal : Prop} {machine next : Machine σ γ} {queue : List Nat} {job : Job σ γ}

/-- Whatever has happened between two states of a pool, no unit was started. -/
def Quiet (machine next : Machine σ γ) : Prop :=
  ∃ marks, next.trace = machine.trace ++ marks ∧ ∀ unit, .started unit ∉ marks

namespace Quiet

theorem of_trace_eq (h : next.trace = machine.trace) : Quiet machine next :=
  ⟨[], by simp [h], fun _ => List.not_mem_nil⟩

theorem trans {middle : Machine σ γ} (first : Quiet machine middle) (second : Quiet middle next) :
    Quiet machine next := by
  obtain ⟨before, heq, hbefore⟩ := first
  obtain ⟨after, heq', hafter⟩ := second
  refine ⟨before ++ after, by rw [heq', heq, List.append_assoc], ?_⟩
  intro unit hmem
  exact (List.mem_append.mp hmem).elim (hbefore unit) (hafter unit)

theorem mem_trace (h : Quiet machine next) (hmem : .started unit ∈ next.trace) :
    .started unit ∈ machine.trace := by
  obtain ⟨marks, heq, hmarks⟩ := h
  rw [heq] at hmem
  exact (List.mem_append.mp hmem).resolve_right (hmarks unit)

theorem skip (plan : Plan σ γ) (machine : Machine σ γ) (unit : Nat) :
    Quiet machine (machine.skip plan unit) := by
  unfold Machine.skip
  split
  · exact ⟨[.skipped unit], rfl, by simp⟩
  · exact of_trace_eq rfl

theorem foldl_skip (plan : Plan σ γ) (machine : Machine σ γ) (queue : List Nat) :
    Quiet machine (queue.foldl (Machine.skip plan) machine) := by
  induction queue generalizing machine with
  | nil => exact of_trace_eq rfl
  | cons unit queue ih => exact (Quiet.skip plan machine unit).trans (ih _)

theorem crash (plan : Plan σ γ) (machine : Machine σ γ) (id unit : Nat) (queue : List Nat)
    (records : List Record) (worker : Worker σ) :
    Quiet machine
      ((queue.foldl (Machine.skip plan) (machine.report unit records)).setWorker id worker) := by
  have hreport : Quiet machine (machine.report unit records) := of_trace_eq rfl
  exact hreport.trans ((foldl_skip plan _ queue).trans (of_trace_eq rfl))

theorem resumeUnit (machine : Machine σ γ) (id : Nat) (queue : List Nat) (unit : Nat)
    (task : Task σ Event (List Record)) : Quiet machine (machine.resumeUnit id queue unit task) := by
  rw [resumeUnit_eq]
  refine ⟨_, rfl, ?_⟩
  intro other hmem
  rcases List.mem_append.mp hmem with hmem | hmem
  · obtain ⟨event, _, heq⟩ := List.mem_map.mp hmem
    cases heq
  · cases hstanding : (task.resume machine.time machine.shared).standing <;>
      simp [hstanding, lastMarks] at hmem

theorem resumeGate (machine : Machine σ γ) (index : Nat) :
    Quiet machine (machine.resumeGate index) := by
  obtain heq | ⟨_, _, _, _, heq⟩ := resumeGate_eq machine index
  · exact of_trace_eq (congrArg Machine.trace heq)
  · rw [heq]
    exact ⟨_, rfl, by simp⟩

theorem passGate (machine : Machine σ γ) (id : Nat) (queue : List Nat) (unit : Nat)
    (job : Job σ γ) : Quiet machine (machine.passGate id queue unit job) := by
  unfold Machine.passGate
  split
  · exact .resumeUnit ..
  · dsimp only
    split
    · exact (Quiet.resumeGate machine _).trans (.resumeUnit ..)
    · exact (Quiet.resumeGate machine _).trans ⟨[.crashed unit], rfl, by simp⟩
    · exact (Quiet.resumeGate machine _).trans (of_trace_eq rfl)

/-- A worker that may not start units takes the rest of its queue without starting any. -/
theorem takeNext (hstop : machine.stop = true) :
    Quiet machine (machine.takeNext plan id queue) := by
  induction queue generalizing machine with
  | nil => exact of_trace_eq rfl
  | cons unit queue ih =>
      unfold Machine.takeNext
      rw [if_pos hstop]
      exact (Quiet.skip plan machine unit).trans (ih ((Machine.stop_skip plan machine unit).trans hstop))

end Quiet

/-! ## The stop -/

section Stop

theorem stop_resumeUnit {task : Task σ Event (List Record)} :
    (machine.resumeUnit id queue unit task).stop = machine.stop := by
  rw [resumeUnit_eq]
  rfl

theorem stop_resumeGate {index : Nat} : (machine.resumeGate index).stop = machine.stop := by
  obtain heq | ⟨_, _, _, _, heq⟩ := resumeGate_eq machine index
  · rw [heq]
  · rw [heq]
    rfl

theorem stop_passGate : (machine.passGate id queue unit job).stop = machine.stop := by
  unfold Machine.passGate
  split
  · exact stop_resumeUnit
  · dsimp only
    split
    · exact stop_resumeUnit.trans stop_resumeGate
    · exact stop_resumeGate
    · exact stop_resumeGate

theorem stop_takeNext : (machine.takeNext plan id queue).stop = machine.stop := by
  induction queue generalizing machine with
  | nil => rfl
  | cons unit queue ih =>
      unfold Machine.takeNext
      split
      · exact ih.trans (Machine.stop_skip plan machine unit)
      · split
        · exact stop_passGate
        · exact ih

/-- No unit is started in a turn that leaves the start of units stopped. -/
theorem quiet_turn (turn : Turn) (hstop : (machine.turn plan turn).stop = true) :
    Quiet machine (machine.turn plan turn) := by
  have hfirst : Quiet machine
      { machine with time := machine.time + turn.elapsed, stop := machine.stop || turn.stops } :=
    .of_trace_eq rfl
  refine hfirst.trans ?_
  unfold Machine.turn Machine.poll at hstop ⊢
  split
  next => exact .of_trace_eq rfl
  next worker hworker =>
    obtain ⟨queue, phase⟩ := worker
    rw [hworker] at hstop
    cases phase with
    | stopped => exact .of_trace_eq rfl
    | idle => exact .takeNext (stop_takeNext.symm.trans hstop)
    | atGate unit =>
        dsimp only
        split
        · exact .passGate ..
        · exact .of_trace_eq rfl
    | running unit wake task =>
        dsimp only
        split
        · exact .of_trace_eq rfl
        · exact .resumeUnit ..
    | reporting unit outcome =>
        cases outcome with
        | ok records => exact Quiet.trans (.of_trace_eq rfl) (.takeNext (stop_takeNext.symm.trans hstop))
        | error panic =>
            dsimp only
            split
            · exact .crash ..
            · exact .of_trace_eq rfl

end Stop

/-! ## Starts in the order of the queues -/

/-- Before a unit is started, all earlier ones of its queue have ended. -/
def StartsInOrder (width : Nat) (trace : List Mark) : Prop :=
  ∀ before unit, before ++ [.started unit] <+: trace →
    ∀ earlier < unit, earlier % width = unit % width → .ended earlier ∈ before

theorem StartsInOrder.of_prefix {trace moment : List Mark} (h : StartsInOrder width trace)
    (hmoment : moment <+: trace) : StartsInOrder width moment :=
  fun before unit hbefore => h before unit (hbefore.trans hmoment)

theorem StartsInOrder.ended {trace : List Mark} (h : StartsInOrder width trace)
    (hstarted : .started unit ∈ trace) {earlier : Nat} (hlt : earlier < unit)
    (hclass : earlier % width = unit % width) : .ended earlier ∈ trace := by
  obtain ⟨before, after, rfl⟩ := List.append_of_mem hstarted
  exact List.mem_append_left _ (h before unit ⟨after, by simp⟩ earlier hlt hclass)

theorem startsInOrder_nil : StartsInOrder width [] := by
  intro before unit hbefore
  simp at hbefore

theorem StartsInOrder.quiet (h : StartsInOrder width machine.trace) (hquiet : Quiet machine next) :
    StartsInOrder width next.trace := by
  obtain ⟨marks, heq, hmarks⟩ := hquiet
  rw [heq]
  intro before unit hbefore
  rcases List.prefix_or_prefix_of_prefix hbefore (List.prefix_append machine.trace marks) with
    hinside | hbeyond
  · exact h before unit hinside
  rcases List.prefix_concat_iff.mp hbeyond with hwhole | ⟨rest, rfl⟩
  · exact h before unit (hwhole ▸ List.prefix_refl _)
  · rw [List.append_assoc, List.prefix_append_right_inj] at hbefore
    exact absurd (hbefore.subset (List.mem_append_right _ (List.mem_singleton_self _))) (hmarks unit)

theorem StartsInOrder.start {trace : List Mark} (h : StartsInOrder width trace)
    (hunit : ∀ earlier < unit, earlier % width = unit % width → .ended earlier ∈ trace) :
    StartsInOrder width (trace ++ [.started unit]) := by
  intro before other hbefore
  rcases List.prefix_concat_iff.mp hbefore with heq | hinside
  · obtain ⟨rfl, hmark⟩ := List.append_inj' heq rfl
    cases hmark
    exact hunit
  · exact h before other hinside

/-- A worker that takes a unit has seen all earlier units of its queue end. -/
theorem History.ended {past : List (Nat × Fate)}
    (history : History plan gates width machine id ⟨unit :: queue, .idle⟩ past)
    (hstop : machine.stop = false) {earlier : Nat} (hlt : earlier < unit)
    (hclass : earlier % width = unit % width) : .ended earlier ∈ machine.trace := by
  obtain ⟨hunits, hid⟩ := history.mem_class (List.mem_cons_self (a := unit))
  have hsorted := history.queue ▸ queueOf_pairwise
  have hmem := mem_queueOf.mpr ⟨Nat.lt_trans hlt hunits, hclass.trans hid⟩
  rw [history.queue] at hmem
  rcases List.mem_append.mp hmem with hpast | hwaiting
  · obtain ⟨entry, hentry, rfl⟩ := List.mem_map.mp hpast
    exact (history.settled entry hentry).isReturned_iff.mp (history.returned hstop entry hentry)
  · have hle : unit ≤ earlier := by
      rcases List.mem_cons.mp hwaiting with rfl | hlater
      · exact Nat.le_refl _
      · exact Nat.le_of_lt ((List.pairwise_cons.mp (List.pairwise_append.mp hsorted).2.1).1 _ hlater)
    exact absurd hlt (Nat.not_lt.mpr hle)

theorem StartsInOrder.step (h : StartsInOrder width machine.trace)
    (sound : Sound plan gates width signal machine) (step : Machine.Step plan signal machine next) :
    StartsInOrder width next.trace := by
  cases step with
  | take hworker _ hstop =>
      obtain ⟨past, history⟩ := sound.workers _ _ hworker
      exact h.start fun _ hlt hclass => history.ended hstop hlt hclass
  | elapse _ _ _ => exact h.quiet (.of_trace_eq rfl)
  | skip _ _ => exact h.quiet ((Quiet.skip ..).trans (.of_trace_eq rfl))
  | drop _ _ => exact h.quiet (.of_trace_eq rfl)
  | rest _ => exact h.quiet (.of_trace_eq rfl)
  | gate index => exact h.quiet (.resumeGate machine index)
  | pass _ _ _ => exact h.quiet (.of_trace_eq rfl)
  | «break» _ _ _ _ => exact h.quiet ⟨_, rfl, by simp⟩
  | resume _ _ => exact h.quiet (.resumeUnit ..)
  | report _ => exact h.quiet (.of_trace_eq rfl)
  | crash _ _ => exact h.quiet (.crash ..)

/-- Units are started in order whatever the schedule. -/
theorem startsInOrder_runSchedule (workers : Nat) (plan : Plan σ γ)
    (gates : List (Task σ Event γ)) (stop : Bool) (shared : σ) (schedule : List Turn) :
    StartsInOrder (Pool.width workers plan.jobs.length)
      ((start workers plan gates stop shared).runSchedule plan schedule).trace :=
  invariant_runSchedule
    (fun machine => StartsInOrder (Pool.width workers plan.jobs.length) machine.trace) schedule
    startsInOrder_nil fun sound step h => h.step sound step

/-! ## Units in flight -/

/-- The units that are started and have neither ended nor crashed. -/
def inFlight (units : Nat) (trace : List Mark) : List Nat :=
  (List.range units).filter fun unit =>
    .started unit ∈ trace ∧ .ended unit ∉ trace ∧ .crashed unit ∉ trace

/-- No two units of one queue are in flight together. -/
theorem StartsInOrder.length_inFlight_le {units : Nat} {trace moment : List Mark}
    (h : StartsInOrder width trace) (hwidth : 0 < width) (hmoment : moment <+: trace) :
    (inFlight units moment).length ≤ width := by
  have hdistinct : ∀ earlier ∈ inFlight units moment, ∀ later ∈ inFlight units moment,
      earlier < later → earlier % width ≠ later % width := by
    intro earlier hearlier later hlater hlt hclass
    have hopen := (of_decide_eq_true (List.mem_filter.mp hearlier).2).2.1
    have hstarted := (of_decide_eq_true (List.mem_filter.mp hlater).2).1
    exact hopen ((h.of_prefix hmoment).ended hstarted hlt hclass)
  have hsorted : (inFlight units moment).Pairwise (· < ·) := List.pairwise_lt_range.filter _
  have hnodup : ((inFlight units moment).map (· % width)).Nodup :=
    List.pairwise_map.mpr (hsorted.imp_of_mem fun hearlier hlater hlt =>
      hdistinct _ hearlier _ hlater hlt)
  have hsubset : (inFlight units moment).map (· % width) ⊆ List.range width := by
    intro residue hresidue
    obtain ⟨unit, _, rfl⟩ := List.mem_map.mp hresidue
    exact List.mem_range.mpr (Nat.mod_lt _ hwidth)
  have hlength := (List.subperm_of_subset hnodup hsubset).length_le
  rwa [List.length_map, List.length_range] at hlength

end Acceptance.Pool
