import Mathlib.Data.Int.Order.Basic
import Mathlib.Data.List.Basic
import Mathlib.Data.List.Forall2
import Mathlib.Order.Basic

/-!
# Lists in order of priority

A stable sort by priority lists what has the same priority in the order in which it was there before. So
what carries an index is listed by priority and then by index, it does not matter whether a list is
sorted once or each time that something is added to its end, and what is found first in it is the least
of all that could be found.
-/

namespace Acceptance

variable {α β : Type} {priority : α → Int} {index : α → Nat}

/-- Things in order of their priorities, those with the same priority as they stand. -/
def byPriority (priority : α → Int) (items : List α) : List α :=
  items.mergeSort fun left right => priority left ≤ priority right

/-- One thing comes before another: by its priority, or by its index where the priorities are equal. -/
def Precedes (priority : α → Int) (index : α → Nat) (left right : α) : Prop :=
  priority left < priority right ∨ priority left = priority right ∧ index left < index right

theorem Precedes.asymm {left right : α} (h : Precedes priority index left right) :
    ¬ Precedes priority index right left := by
  simp only [Precedes] at h ⊢
  omega

theorem perm_byPriority (items : List α) : (byPriority priority items).Perm items :=
  List.mergeSort_perm _ _

theorem mem_byPriority {items : List α} {item : α} :
    item ∈ byPriority priority items ↔ item ∈ items :=
  (perm_byPriority items).mem_iff

/-- Things may be changed before they are sorted or after that, if this keeps their priorities. -/
theorem map_byPriority {priority' : β → Int} (f : α → β) (hf : ∀ item, priority' (f item) = priority item)
    (items : List α) : (byPriority priority items).map f = byPriority priority' (items.map f) := by
  refine List.map_mergeSort fun left _ right _ => ?_
  rw [hf, hf]

/-- Lists of things that are related in pairs, with the same priorities, are sorted in pairs. -/
theorem forall₂_byPriority {R : α → β → Prop} {priority' : β → Int}
    (hpriority : ∀ item item', R item item' → priority item = priority' item') {items : List α}
    {items' : List β} (h : List.Forall₂ R items items') :
    List.Forall₂ R (byPriority priority items) (byPriority priority' items') := by
  obtain ⟨hlength, hrelated⟩ := List.forall₂_iff_zip.mp h
  have hfst : (byPriority (fun pair => priority pair.1) (items.zip items')).map Prod.fst =
      byPriority priority items := by
    rw [byPriority, List.map_mergeSort, List.map_fst_zip (Nat.le_of_eq hlength)]
    · rfl
    · exact fun _ _ _ _ => rfl
  have hsnd : (byPriority (fun pair => priority pair.1) (items.zip items')).map Prod.snd =
      byPriority priority' items' := by
    rw [byPriority, List.map_mergeSort, List.map_snd_zip (Nat.le_of_eq hlength.symm)]
    · rfl
    · intro pair hpair other hother
      rw [hpriority _ _ (hrelated hpair), hpriority _ _ (hrelated hother)]
  rw [← hfst, ← hsnd, List.forall₂_map_left_iff, List.forall₂_map_right_iff, List.forall₂_same]
  exact fun pair hpair => hrelated (mem_byPriority.mp hpair)

/-- The comparison that the sort is made with is transitive. -/
private theorem le_trans_priority (first second third : α) :
    decide (priority first ≤ priority second) → decide (priority second ≤ priority third) →
      decide (priority first ≤ priority third) := by
  simp only [decide_eq_true_eq]
  exact fun h h' => h.trans h'

/-- The comparison that the sort is made with is total. -/
private theorem le_total_priority (first second : α) :
    decide (priority first ≤ priority second) || decide (priority second ≤ priority first) := by
  simp only [Bool.or_eq_true, decide_eq_true_eq]
  exact le_total _ _

theorem pairwise_byPriority (items : List α) :
    (byPriority priority items).Pairwise (priority · ≤ priority ·) :=
  (List.pairwise_mergeSort le_trans_priority le_total_priority items).imp of_decide_eq_true

/-- Things with the same priority are listed as they stood before. -/
theorem filter_byPriority (items : List α) (level : Int) :
    (byPriority priority items).filter (priority · = level) = items.filter (priority · = level) := by
  have hlevel : (items.filter (priority · = level)).Pairwise fun left right =>
      decide (priority left ≤ priority right) = true := by
    refine List.pairwise_of_forall_mem_list fun left hleft right hright => ?_
    have hl := of_decide_eq_true (List.mem_filter.mp hleft).2
    have hr := of_decide_eq_true (List.mem_filter.mp hright).2
    exact decide_eq_true (hl.trans hr.symm).le
  have hsub : (items.filter (priority · = level)).Sublist (byPriority priority items) :=
    List.sublist_mergeSort le_trans_priority le_total_priority hlevel List.filter_sublist
  have hkept := hsub.filter (priority · = level)
  rw [List.filter_filter] at hkept
  simp only [Bool.and_self] at hkept
  exact (hkept.eq_of_length ((perm_byPriority items).filter _).length_eq.symm).symm

theorem mem_iff_of_levels {left right : List α}
    (h : ∀ level, left.filter (priority · = level) = right.filter (priority · = level)) (item : α) :
    item ∈ left ↔ item ∈ right := by
  have hmem := congrArg (item ∈ ·) (h (priority item))
  simpa using hmem

/-- Two lists in order of priority that have the same things of each priority in the same order are
equal. -/
theorem eq_of_levels {left right : List α} (hleft : left.Pairwise (priority · ≤ priority ·))
    (hright : right.Pairwise (priority · ≤ priority ·))
    (hlevels : ∀ level, left.filter (priority · = level) = right.filter (priority · = level)) :
    left = right := by
  induction left generalizing right with
  | nil =>
    refine (List.eq_nil_iff_forall_not_mem.mpr fun item hitem => ?_).symm
    exact List.not_mem_nil ((mem_iff_of_levels hlevels item).mpr hitem)
  | cons first rest ih =>
    cases right with
    | nil => exact absurd ((mem_iff_of_levels hlevels first).mp List.mem_cons_self) List.not_mem_nil
    | cons first' rest' =>
      obtain ⟨hfirst, hrest⟩ := List.pairwise_cons.mp hleft
      obtain ⟨hfirst', hrest'⟩ := List.pairwise_cons.mp hright
      -- each head is somewhere in the other list, so that neither has the greater priority
      have hle : priority first ≤ priority first' := by
        rcases List.mem_cons.mp ((mem_iff_of_levels hlevels first').mpr List.mem_cons_self) with h | h
        · exact (congrArg priority h).ge
        · exact hfirst _ h
      have hge : priority first' ≤ priority first := by
        rcases List.mem_cons.mp ((mem_iff_of_levels hlevels first).mp List.mem_cons_self) with h | h
        · exact (congrArg priority h).ge
        · exact hfirst' _ h
      have hheads := hlevels (priority first)
      rw [List.filter_cons_of_pos (by simp), List.filter_cons_of_pos (by simpa using hge.antisymm hle)]
        at hheads
      obtain rfl : first = first' := (List.cons.inj hheads).1
      refine congrArg _ (ih hrest hrest' fun level => ?_)
      have hlevel := hlevels level
      simp only [List.filter_cons] at hlevel
      split at hlevel
      · exact (List.cons.inj hlevel).2
      · exact hlevel

/-- A list to which more is added may be sorted before that or not. -/
theorem byPriority_append (items more : List α) :
    byPriority priority (byPriority priority items ++ more) = byPriority priority (items ++ more) := by
  refine eq_of_levels (pairwise_byPriority _) (pairwise_byPriority _) fun level => ?_
  simp only [filter_byPriority, List.filter_append]

/-- What stands in order of index is listed by priority and then by index. -/
theorem pairwise_precedes_byPriority {items : List α} (h : items.Pairwise (index · < index ·)) :
    (byPriority priority items).Pairwise (Precedes priority index) := by
  rw [List.pairwise_iff_forall_sublist]
  intro left right hsub
  have hsorted : (byPriority priority items).Pairwise (priority · ≤ priority ·) :=
    pairwise_byPriority items
  have hle := List.pairwise_iff_forall_sublist.mp hsorted hsub
  rcases hle.lt_or_eq with hlt | heq
  · exact .inl hlt
  · refine .inr ⟨heq, List.pairwise_iff_forall_sublist.mp h ?_⟩
    have hlevel := hsub.filter (priority · = priority right)
    rw [filter_byPriority, List.filter_cons_of_pos (by simpa using heq),
      List.filter_cons_of_pos (by simp)] at hlevel
    exact hlevel.trans List.filter_sublist

/-- What is found first is the least of all that could be found. -/
theorem findSome?_eq_some_iff_least {found : α → Option β} {items : List α} {result : β}
    {before : α → α → Prop} (hasymm : ∀ left right, before left right → ¬ before right left)
    (hitems : items.Pairwise before) :
    items.findSome? found = some result ↔
      ∃ item ∈ items, found item = some result ∧
        ∀ other ∈ items, (found other).isSome → other = item ∨ before item other := by
  rw [List.findSome?_eq_some_iff]
  constructor
  · rintro ⟨earlier, item, later, rfl, hfound, hearlier⟩
    refine ⟨item, by simp, hfound, fun other hother hsome => ?_⟩
    rcases List.mem_append.mp hother with h | h
    · simp [hearlier other h] at hsome
    · rcases List.mem_cons.mp h with h | h
      · exact .inl h
      · exact .inr (List.rel_of_pairwise_cons (List.pairwise_append.mp hitems).2.1 h)
  · rintro ⟨item, hitem, hfound, hleast⟩
    obtain ⟨earlier, later, rfl⟩ := List.append_of_mem hitem
    refine ⟨earlier, item, later, rfl, hfound, fun other hother => ?_⟩
    rw [← Option.not_isSome_iff_eq_none]
    intro hsome
    have hbefore := (List.pairwise_append.mp hitems).2.2 other hother item List.mem_cons_self
    rcases hleast other (List.mem_append_left _ hother) hsome with rfl | hafter
    · exact hasymm _ _ hbefore hbefore
    · exact hasymm _ _ hbefore hafter

end Acceptance
