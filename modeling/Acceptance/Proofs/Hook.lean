import Acceptance.Hook
import Acceptance.Proofs.Priority
import Acceptance.Proofs.Tag
import Mathlib

/-!
# Listing of hooks

Hooks are registered one after the other and listed by phase and tags. A listing has each registered hook of the
phase that applies, in order of priority and then of registration, and nothing else that is registered matters to
it. Of the tags that are present only the normal forms count. The tags of a hook keep their meaning if their
normal forms are bare, and only then.
-/

namespace Acceptance

variable {α : Type}

/-- What a hook is registered with. -/
structure Hook.Registration (α : Type) where
  phase : Phase
  action : α
  tags : List String
  order : Int

namespace Hook

/-- The hook of a registration with a number of others before it. -/
def Registration.hook (call : Registration α) (index : Nat) : Hook α where
  index := index
  phase := call.phase
  action := call.action
  tags := call.tags.map Tag.normalize
  order := call.order

/-- The hook without the number of registrations before it. -/
def unnumbered (hook : Hook α) : Hook α := { hook with index := 0 }

/-- Whether a hook is of a phase and applies where some tags are present. -/
def concerns (phase : Phase) (active : List String) (hook : Hook α) : Bool :=
  hook.phase = phase && hook.appliesTo active

/-- One hook runs before another. -/
def RunsBefore (left right : Hook α) : Prop := Precedes order index left right

variable {phase : Phase} {active : List String} {hook : Hook α}

@[simp] theorem concerns_hook (call : Registration α) (index : Nat) :
    (call.hook index).concerns phase active = (call.hook 0).concerns phase active := rfl

theorem concerns_iff :
    hook.concerns phase active = true ↔ hook.phase = phase ∧ hook.appliesTo active = true := by
  simp [concerns]

theorem appliesTo_iff :
    hook.appliesTo active = true ↔ hook.tags = [] ∨ Tag.intersects hook.tags active = true := by
  simp [appliesTo]

end Hook

namespace Hooks

open Hook (Registration)

/-- The hooks after some registrations. -/
def ofHistory (history : List (Registration α)) : Hooks α :=
  history.foldl (fun hooks call => hooks.register call.phase call.action call.tags call.order) {}

variable {phase : Phase} {active : List String} {history more : List (Registration α)}

/-! ## Registered hooks -/

theorem entries_ofHistory (history : List (Registration α)) :
    (ofHistory history).entries = history.mapIdx fun index call => call.hook index := by
  induction history using List.reverseRecOn with
  | nil => rfl
  | append_singleton history call ih =>
      have hlast : (ofHistory (history ++ [call])).entries =
          (ofHistory history).entries ++ [call.hook (ofHistory history).entries.length] := by
        rw [ofHistory, List.foldl_append]
        rfl
      rw [hlast, ih, List.mapIdx_concat, List.length_mapIdx]

/-- The registered hooks are those of the registrations, each with its number. -/
theorem mem_entries_ofHistory {hook : Hook α} :
    hook ∈ (ofHistory history).entries ↔
      ∃ call, history[hook.index]? = some call ∧ hook = call.hook hook.index := by
  rw [entries_ofHistory, List.mem_mapIdx]
  constructor
  · rintro ⟨index, hindex, rfl⟩
    exact ⟨history[index], List.getElem?_eq_getElem hindex, rfl⟩
  · rintro ⟨call, hcall, heq⟩
    obtain ⟨hindex, rfl⟩ := List.getElem?_eq_some_iff.mp hcall
    exact ⟨hook.index, hindex, heq.symm⟩

theorem pairwise_index_ofHistory (history : List (Registration α)) :
    (ofHistory history).entries.Pairwise (·.index < ·.index) := by
  rw [entries_ofHistory, List.pairwise_iff_getElem]
  intro i j hi hj hij
  simpa [Registration.hook] using hij

/-- More registrations add their hooks behind the others. -/
theorem entries_ofHistory_append (history more : List (Registration α)) :
    (ofHistory (history ++ more)).entries =
      (ofHistory history).entries ++ more.mapIdx fun index call => call.hook (index + history.length) := by
  rw [entries_ofHistory, List.mapIdx_append, entries_ofHistory]

/-- Which registered hooks concern a phase and some tags is told by their registrations. -/
theorem filter_concerns_ofHistory (history : List (Registration α)) :
    ((ofHistory history).entries.filter (Hook.concerns phase active)).map Hook.unnumbered =
      (history.filter fun call => (call.hook 0).concerns phase active).map (·.hook 0) := by
  induction history using List.reverseRecOn with
  | nil => rfl
  | append_singleton history call ih =>
      rw [entries_ofHistory_append, List.filter_append, List.map_append, ih, List.filter_append,
        List.map_append]
      congr 1
      cases hconcerns : (call.hook 0).concerns phase active with
      | false => simp [hconcerns]
      | true =>
          simp [hconcerns]
          rfl

/-! ## Listings -/

theorem list_eq_byPriority (hooks : Hooks α) (phase : Phase) (active : List String) :
    hooks.list phase active = byPriority Hook.order (hooks.entries.filter (Hook.concerns phase active)) :=
  rfl

theorem mem_list {hooks : Hooks α} {hook : Hook α} :
    hook ∈ hooks.list phase active ↔
      hook ∈ hooks.entries ∧ hook.phase = phase ∧ hook.appliesTo active = true := by
  rw [list_eq_byPriority, mem_byPriority, List.mem_filter, Hook.concerns_iff]

theorem pairwise_runsBefore_list (history : List (Registration α)) (phase : Phase) (active : List String) :
    ((ofHistory history).list phase active).Pairwise Hook.RunsBefore :=
  pairwise_precedes_byPriority ((pairwise_index_ofHistory history).filter _)

/-- Registrations that concern neither the phase nor the tags leave the listing as it is. -/
theorem list_ofHistory_append (hmore : ∀ call ∈ more, (call.hook 0).concerns phase active = false) :
    (ofHistory (history ++ more)).list phase active = (ofHistory history).list phase active := by
  have hnone : (more.mapIdx fun index call => call.hook (index + history.length)).filter
      (Hook.concerns phase active) = [] := by
    rw [List.filter_eq_nil_iff]
    intro hook hmem
    obtain ⟨index, hindex, rfl⟩ := List.mem_mapIdx.mp hmem
    rw [Hook.concerns_hook, hmore _ (List.getElem_mem hindex)]
    exact Bool.false_ne_true
  rw [list_eq_byPriority, list_eq_byPriority, entries_ofHistory_append, List.filter_append, hnone,
    List.append_nil]

/-- Up to the numbers of the hooks, a listing is the sorted list of the registrations that concern the phase and
the tags. -/
theorem map_unnumbered_list (history : List (Registration α)) :
    ((ofHistory history).list phase active).map Hook.unnumbered =
      byPriority Hook.order
        ((history.filter fun call => (call.hook 0).concerns phase active).map (·.hook 0)) := by
  have horder (hook : Hook α) : hook.unnumbered.order = hook.order := rfl
  rw [list_eq_byPriority, map_byPriority _ horder, filter_concerns_ofHistory]

/-- Of the tags that are present only the normal forms count. -/
theorem list_congr {active' : List String}
    (h : ∀ name, name ∈ active'.map Tag.normalize ↔ name ∈ active.map Tag.normalize) (hooks : Hooks α) :
    hooks.list phase active' = hooks.list phase active := by
  have hconcerns : (Hook.concerns phase active' : Hook α → Bool) = Hook.concerns phase active := by
    funext hook
    rw [Bool.eq_iff_iff, Hook.concerns_iff, Hook.concerns_iff, Hook.appliesTo_iff, Hook.appliesTo_iff,
      Tag.intersects_iff, Tag.intersects_iff]
    simp only [h]
  rw [list_eq_byPriority, hconcerns, list_eq_byPriority]

/-- Of all registered hooks exactly those of the phase that apply are listed, strictly in order of priority and
registration, so that each is listed once. Registrations of others do not matter: made later they leave the
listing as it is, made at any time they only change how many registrations there are before a hook. Tags with
the same normal forms give the same listing. -/
theorem list_complete_in_order (history : List (Registration α)) (phase : Phase) (active : List String) :
    (∀ hook, hook ∈ (ofHistory history).list phase active ↔
      (∃ call, history[hook.index]? = some call ∧ hook = call.hook hook.index) ∧ hook.phase = phase ∧
        hook.appliesTo active = true) ∧
    ((ofHistory history).list phase active).Pairwise Hook.RunsBefore ∧
    (∀ more, (∀ call ∈ more, (call.hook 0).concerns phase active = false) →
      (ofHistory (history ++ more)).list phase active = (ofHistory history).list phase active) ∧
    (∀ fuller, (fuller.filter fun call => (call.hook 0).concerns phase active) =
        (history.filter fun call => (call.hook 0).concerns phase active) →
      ((ofHistory fuller).list phase active).map Hook.unnumbered =
        ((ofHistory history).list phase active).map Hook.unnumbered) ∧
    ∀ active', (∀ name, name ∈ active'.map Tag.normalize ↔ name ∈ active.map Tag.normalize) →
      (ofHistory history).list phase active' = (ofHistory history).list phase active := by
  refine ⟨fun hook => ?_, pairwise_runsBefore_list history phase active, fun more hmore => ?_,
    fun fuller hfuller => ?_, fun active' hactive => ?_⟩
  · rw [mem_list, mem_entries_ofHistory]
  · exact list_ofHistory_append hmore
  · rw [map_unnumbered_list, map_unnumbered_list, hfuller]
  · exact list_congr hactive _

/-- Hooks of two phases. Two of them have the same priority, and one of these is bound to a tag. -/
def rehearsal : List (Registration String) :=
  [⟨.after, "sweep", [], 5⟩, ⟨.before, "tune", ["@brass", "strings"], 0⟩, ⟨.after, "lock", ["@brass"], 5⟩,
    ⟨.after, "thank", [], -1⟩]

theorem list_complete_in_order_rehearsal :
    ((ofHistory rehearsal).list .after ["brass"]).map Hook.action = ["thank", "sweep", "lock"] ∧
      (ofHistory (rehearsal ++ [⟨.before, "warm up", [], -9⟩, ⟨.after, "dim", ["strings"], -9⟩])).list
        .after ["brass"] = (ofHistory rehearsal).list .after ["brass"] ∧
      ((ofHistory (⟨.before, "warm up", [], -9⟩ :: rehearsal)).list .after ["brass"]).map Hook.unnumbered =
        ((ofHistory rehearsal).list .after ["brass"]).map Hook.unnumbered ∧
      (ofHistory rehearsal).list .after [" @brass", "brass "] = (ofHistory rehearsal).list .after ["brass"] := by
  obtain ⟨-, -, hmore, hfuller, hactive⟩ := list_complete_in_order rehearsal .after ["brass"]
  refine ⟨by cbv, hmore _ (by decide), hfuller _ rfl, hactive _ fun name => ?_⟩
  have hnormal : [" @brass", "brass "].map Tag.normalize = ["brass", "brass"] := by decide
  have hnormal' : ["brass"].map Tag.normalize = ["brass"] := by decide
  simp [hnormal, hnormal']

/-! ## The tags of a hook -/

/-- A hook applies where one of its tags is present in its normal form, of which the normal form is taken again.
So it applies wherever one of its tags is present, and nowhere else, exactly if the normal forms of its tags are
bare. -/
theorem register_keeps_tags_iff (hooks : Hooks α) (phase : Phase) (action : α) (tags : List String)
    (order : Int) :
    ∃ hook, (hooks.register phase action tags order).entries = hooks.entries ++ [hook] ∧
      (∀ active, hook.appliesTo active = true ↔
        tags = [] ∨ ∃ tag ∈ tags, ∃ other ∈ active,
          Tag.normalize other = Tag.normalize (Tag.normalize tag)) ∧
      ((∀ active, hook.appliesTo active = true ↔ tags = [] ∨ Tag.intersects tags active = true) ↔
        ∀ tag ∈ tags, Tag.IsBare (Tag.normalize tag)) := by
  have happlies (active : List String) : (Registration.hook ⟨phase, action, tags, order⟩
      hooks.entries.length).appliesTo active = true ↔ tags = [] ∨ ∃ tag ∈ tags, ∃ other ∈ active,
        Tag.normalize other = Tag.normalize (Tag.normalize tag) := by
    rw [Hook.appliesTo_iff, Tag.intersects_iff]
    simp [Registration.hook]
  refine ⟨Registration.hook ⟨phase, action, tags, order⟩ hooks.entries.length, rfl, happlies, ?_⟩
  constructor
  · intro hmeans
    refine Tag.isBare_of_forall_exists fun tag htag => ?_
    have hshared : Tag.intersects tags [tag] = true :=
      Tag.intersects_iff.mpr ⟨_, List.mem_map_of_mem htag, List.mem_singleton.mpr rfl⟩
    rcases (happlies [tag]).mp ((hmeans [tag]).mpr (.inr hshared)) with hnone | ⟨other, hother, _, hmem, heq⟩
    · rw [hnone] at htag
      cases htag
    · rw [List.mem_singleton.mp hmem] at heq
      exact ⟨other, hother, heq.symm⟩
  · intro hbare active
    have hsame : (tags.map Tag.normalize).map Tag.normalize = tags.map Tag.normalize := by
      rw [List.map_map]
      exact List.map_congr_left fun tag htag => Tag.normalize_normalize_iff.mpr (hbare tag htag)
    rw [Hook.appliesTo_iff, Tag.intersects_iff, Tag.intersects_iff]
    simp only [Registration.hook, hsame, List.map_eq_nil_iff]

/-- A hook does not apply where its own tag is present. -/
theorem marked_twice_misses :
    ∃ hook, (({} : Hooks Unit).register .before () ["@@smoke"] 0).entries = [hook] ∧
      Tag.intersects ["@@smoke"] ["@@smoke"] = true ∧ hook.appliesTo ["@@smoke"] = false :=
  ⟨_, rfl, by decide, by decide⟩

end Hooks

end Acceptance
