import Acceptance.Definition
import Acceptance.Proofs.Priority
import Mathlib.Data.List.Forall2
import Mathlib.Data.List.Induction
import Mathlib.Data.List.Perm.Basic
import Mathlib.Data.Option.Basic

/-!
# The first definition that matches

Definitions are registered one after the other, and some registrations fail. What is left is one
definition for each that succeeded, numbered in the order of registration. Each registration sorts the list
of their places anew, so that they are tried in order of priority and then of registration, and the text of
a step is resolved to the least of those that match it.
-/

namespace Acceptance

variable {η : Type}

namespace Definition

/-- What a definition is registered with. -/
structure Registration (η : Type) where
  pattern : Pattern
  handler : η
  options : DefinitionOptions
  location : Location

/-- Whether a registration succeeds. -/
def Registration.succeeds (call : Registration η) : Bool := (Matcher.compile call.pattern).isOk

/-- A definition is the one that a registration is about. -/
structure Registration.Defines (call : Registration η) (definition : Definition η) : Prop where
  matcher : Matcher.compile call.pattern = .ok definition.matcher
  handler : definition.handler = call.handler
  options : definition.options = call.options
  location : definition.location = call.location

end Definition

namespace Definitions

open Definition (Registration)

/-- The definitions after a registration, which changes nothing when it fails. -/
def attempt (definitions : Definitions η) (call : Registration η) : Definitions η :=
  match definitions.register call.pattern call.handler call.options call.location with
  | .ok registered => registered
  | .error _ => definitions

/-- The definitions after some registrations, of which any may fail. -/
def ofHistory (resolver : Option Resolver) (history : List (Registration η)) : Definitions η :=
  history.foldl attempt { resolver }

/-- One definition is tried before another. -/
def TriedBefore (left right : Definition η) : Prop :=
  Precedes (·.options.order) Definition.index left right

/-- A definition matches a text, and is tried before all others that match it. -/
structure FirstMatch (definitions : Definitions η) (text : String) (definition : Definition η)
    (values : List String) : Prop where
  registered : definition ∈ definitions.entries
  captures : definition.matcher.captures text = some values
  first : ∀ other ∈ definitions.entries, (other.matcher.captures text).isSome →
    other = definition ∨ TriedBefore definition other

/-- Definitions carry their positions in the order of registration. -/
def Numbered (definitions : Definitions η) : Prop :=
  definitions.entries.map Definition.index = List.range definitions.entries.length

/-! ## One registration -/

theorem register_eq_error {definitions : Definitions η} {call : Registration η}
    {invalid : Pattern.Invalid} (h : Matcher.compile call.pattern = .error invalid) :
    definitions.register call.pattern call.handler call.options call.location = .error invalid := by
  rw [register, h]
  rfl

theorem attempt_of_fails {definitions : Definitions η} {call : Registration η}
    (h : ¬ call.succeeds) : definitions.attempt call = definitions := by
  rw [Registration.succeeds] at h
  cases hcompile : Matcher.compile call.pattern with
  | error invalid => rw [attempt, register_eq_error hcompile]
  | ok matcher => exact absurd (by rw [hcompile]; rfl) h

/-- A registration that succeeds adds its definition, with the next index. -/
theorem attempt_of_succeeds (definitions : Definitions η) {call : Registration η}
    (h : call.succeeds) :
    ∃ definition, call.Defines definition ∧ definition.index = definitions.entries.length ∧
      definitions.attempt call = definitions.push definition := by
  rw [Registration.succeeds] at h
  cases hcompile : Matcher.compile call.pattern with
  | error invalid => simp [hcompile, Except.isOk, Except.toBool] at h
  | ok matcher =>
    refine ⟨⟨definitions.entries.length, matcher, call.handler, call.options, call.location⟩,
      ⟨hcompile, rfl, rfl, rfl⟩, rfl, ?_⟩
    rw [attempt, register, hcompile]
    rfl

@[simp] theorem entries_push (definitions : Definitions η) (definition : Definition η) :
    (definitions.push definition).entries = definitions.entries ++ [definition] := rfl

@[simp] theorem resolver_push (definitions : Definitions η) (definition : Definition η) :
    (definitions.push definition).resolver = definitions.resolver := rfl

theorem Numbered.attempt {definitions : Definitions η} (h : definitions.Numbered)
    (call : Registration η) : (definitions.attempt call).Numbered := by
  by_cases hcall : call.succeeds
  · obtain ⟨definition, -, hindex, heq⟩ := attempt_of_succeeds definitions hcall
    rw [Numbered] at h ⊢
    rw [heq]
    simp only [entries_push, List.map_append, h, List.map_cons, List.map_nil, hindex,
      List.length_append, List.length_singleton, List.range_succ]
  · rwa [attempt_of_fails hcall]

@[simp] theorem resolver_attempt (definitions : Definitions η) (call : Registration η) :
    (definitions.attempt call).resolver = definitions.resolver := by
  by_cases hcall : call.succeeds
  · obtain ⟨definition, -, -, heq⟩ := attempt_of_succeeds definitions hcall
    rw [heq, resolver_push]
  · rw [attempt_of_fails hcall]

/-! ## The list of places -/

theorem map_getElem?_range (entries : List (Definition η)) :
    (List.range entries.length).map (entries[·]?) = entries.map some := by
  refine List.ext_getElem (by simp) fun place h h' => ?_
  rw [List.length_map] at h'
  simp [List.getElem?_eq_getElem h']

/-- At every place of the list stands a definition. -/
theorem map_getElem?_resolution (definitions : Definitions η) :
    definitions.resolution.map (definitions.entries[·]?) = definitions.inOrder.map some := by
  have hsome (place : Nat) (hplace : place ∈ definitions.resolution) :
      ∃ definition, definitions.entries[place]? = some definition := by
    have hlt := List.mem_range.mp (definitions.listed.mem_iff.mp hplace)
    exact ⟨_, List.getElem?_eq_getElem hlt⟩
  rw [inOrder]
  generalize definitions.resolution = places at hsome
  induction places with
  | nil => rfl
  | cons place places ih =>
    obtain ⟨⟨definition, hfirst⟩, hrest⟩ := List.forall_mem_cons.mp hsome
    rw [List.map_cons, List.filterMap_cons_some hfirst, List.map_cons, hfirst, ih hrest]

/-- Each definition is listed once. -/
theorem inOrder_perm (definitions : Definitions η) :
    definitions.inOrder.Perm definitions.entries := by
  have hperm := definitions.listed.map (definitions.entries[·]?)
  rw [map_getElem?_resolution, map_getElem?_range] at hperm
  exact (List.map_perm_map_iff (Option.some_injective _)).mp hperm

theorem mem_inOrder {definitions : Definitions η} {definition : Definition η} :
    definition ∈ definitions.inOrder ↔ definition ∈ definitions.entries :=
  definitions.inOrder_perm.mem_iff

/-- A new definition is put at the end of the list, and the list is sorted anew. -/
theorem inOrder_push (definitions : Definitions η) (definition : Definition η) :
    (definitions.push definition).inOrder =
      byPriority (·.options.order) (definitions.inOrder ++ [definition]) := by
  refine List.map_injective_iff.mpr (Option.some_injective _) ?_
  -- The places are sorted by what stands at them, and all but the last are those of before.
  have hsorted : (definitions.push definition).resolution =
      byPriority (orderAt (definitions.entries ++ [definition]))
        (definitions.resolution ++ [definitions.entries.length]) := rfl
  have hplaces : (definitions.resolution ++ [definitions.entries.length]).map
      ((definitions.entries ++ [definition])[·]?) = (definitions.inOrder ++ [definition]).map some := by
    rw [List.map_append, List.map_append, ← map_getElem?_resolution]
    congr 1
    · refine List.map_congr_left fun place hplace => List.getElem?_append_left ?_
      exact List.mem_range.mp (definitions.listed.mem_iff.mp hplace)
    · simp
  calc (definitions.push definition).inOrder.map some
      = (definitions.push definition).resolution.map ((definitions.entries ++ [definition])[·]?) :=
        (map_getElem?_resolution _).symm
    _ = byPriority (fun entry => (entry.map (·.options.order)).getD 0)
          ((definitions.inOrder ++ [definition]).map some) := by
        rw [← hplaces, hsorted]
        refine map_byPriority _ ?_ _
        exact fun _ => rfl
    _ = (byPriority (·.options.order) (definitions.inOrder ++ [definition])).map some :=
        (map_byPriority some (fun _ => rfl) _).symm

/-! ## A history of registrations -/

theorem ofHistory_append (resolver : Option Resolver) (history : List (Registration η))
    (call : Registration η) :
    ofHistory resolver (history ++ [call]) = (ofHistory resolver history).attempt call := by
  rw [ofHistory, List.foldl_append]
  rfl

theorem numbered_ofHistory (resolver : Option Resolver) (history : List (Registration η)) :
    (ofHistory resolver history).Numbered := by
  induction history using List.reverseRecOn with
  | nil => rfl
  | append_singleton history call ih =>
    rw [ofHistory_append]
    exact ih.attempt call

@[simp] theorem resolver_ofHistory (resolver : Option Resolver) (history : List (Registration η)) :
    (ofHistory resolver history).resolver = resolver := by
  induction history using List.reverseRecOn with
  | nil => rfl
  | append_singleton history call ih => rw [ofHistory_append, resolver_attempt, ih]

/-- There is one definition for each registration that succeeded, in the same order. -/
theorem defines_ofHistory (resolver : Option Resolver) (history : List (Registration η)) :
    List.Forall₂ Registration.Defines (history.filter Registration.succeeds)
      (ofHistory resolver history).entries := by
  -- The last registration of a history is the one that is made last.
  induction history using List.reverseRecOn with
  | nil => exact .nil
  | append_singleton history call ih =>
    rw [ofHistory_append, List.filter_append]
    by_cases hcall : call.succeeds
    · obtain ⟨definition, hdefines, -, heq⟩ :=
        attempt_of_succeeds (ofHistory resolver history) hcall
      rw [heq, entries_push, List.filter_cons_of_pos hcall]
      exact List.rel_append ih (.cons hdefines .nil)
    · rw [attempt_of_fails hcall, List.filter_cons_of_neg hcall, List.filter_nil, List.append_nil]
      exact ih

/-! ## The order in which definitions are tried -/

/-- It makes no difference that the list is sorted each time and not once. -/
theorem inOrder_ofHistory (resolver : Option Resolver) (history : List (Registration η)) :
    (ofHistory resolver history).inOrder =
      byPriority (·.options.order) (ofHistory resolver history).entries := by
  induction history using List.reverseRecOn with
  | nil => simp [ofHistory, inOrder, byPriority]
  | append_singleton history call ih =>
    rw [ofHistory_append]
    by_cases hcall : call.succeeds
    · obtain ⟨definition, -, -, heq⟩ := attempt_of_succeeds (ofHistory resolver history) hcall
      rw [heq, inOrder_push, entries_push, ih, byPriority_append]
    · rwa [attempt_of_fails hcall]

theorem Numbered.pairwise {definitions : Definitions η} (h : definitions.Numbered) :
    definitions.entries.Pairwise (·.index < ·.index) := by
  rw [Numbered] at h
  rw [← List.pairwise_map (R := (· < ·)), h]
  exact List.pairwise_lt_range

theorem pairwise_inOrder (resolver : Option Resolver) (history : List (Registration η)) :
    (ofHistory resolver history).inOrder.Pairwise TriedBefore := by
  rw [inOrder_ofHistory]
  exact pairwise_precedes_byPriority (numbered_ofHistory resolver history).pairwise

/-! ## Resolution -/

theorem matched?_eq_some {resolver : Option Resolver} {text : String} {definition : Definition η}
    {found : Resolution η} :
    matched? resolver text definition = some found ↔
      ∃ values, definition.matcher.captures text = some values ∧
        ⟨definition, values.map (Argument.coerce resolver)⟩ = found :=
  Option.map_eq_some_iff

theorem isSome_matched? {resolver : Option Resolver} {text : String} {definition : Definition η} :
    (matched? resolver text definition).isSome = (definition.matcher.captures text).isSome :=
  Option.isSome_map

/-- A text is resolved to the first definition that matches it, with what it captures. -/
theorem resolve?_eq_some {definitions : Definitions η}
    (h : definitions.inOrder.Pairwise TriedBefore) {text : String} {found : Resolution η} :
    definitions.resolve? text = some found ↔
      ∃ values, definitions.FirstMatch text found.definition values ∧
        found.args = values.map (Argument.coerce definitions.resolver) := by
  rw [resolve?, findSome?_eq_some_iff_least (fun _ _ => Precedes.asymm) h]
  simp only [mem_inOrder, matched?_eq_some, isSome_matched?]
  constructor
  · rintro ⟨definition, hmem, ⟨values, hcaptures, rfl⟩, hfirst⟩
    exact ⟨values, ⟨hmem, hcaptures, hfirst⟩, rfl⟩
  · rintro ⟨values, hmatch, hargs⟩
    refine ⟨found.definition, hmatch.registered, ⟨values, hmatch.captures, ?_⟩, hmatch.first⟩
    rw [← hargs]

theorem resolve?_eq_none {definitions : Definitions η} {text : String} :
    definitions.resolve? text = none ↔
      ∀ definition ∈ definitions.entries, definition.matcher.captures text = none := by
  simp only [resolve?, List.findSome?_eq_none_iff, mem_inOrder, matched?, Option.map_eq_none_iff]

/-- What a step is resolved to is a registered definition. -/
theorem mem_of_resolveStep? {definitions : Definitions η} {step : Step} {found : Resolution η}
    (h : definitions.resolveStep? step = some found) : found.definition ∈ definitions.entries := by
  obtain ⟨resolved, hresolved, rfl⟩ := Option.map_eq_some_iff.mp h
  obtain ⟨definition, hmem, hmatched⟩ := List.exists_of_findSome?_eq_some hresolved
  obtain ⟨_, _, rfl⟩ := matched?_eq_some.mp hmatched
  exact mem_inOrder.mp hmem

theorem listed_singleton : [0].Perm (List.range 1) := .refl _

/-- A definition that is the only one is what every text that it matches is resolved to. -/
theorem resolve?_of_singleton {definitions : Definitions η} {definition : Definition η} {text : String}
    {values : List String} (hentries : definitions.inOrder = [definition])
    (hcaptures : definition.matcher.captures text = some values) :
    definitions.resolve? text =
      some ⟨definition, values.map (Argument.coerce definitions.resolver)⟩ := by
  simp only [resolve?, hentries, List.findSome?_cons, matched?, hcaptures, Option.map_some]

/-- What holds of the definitions that are left by a history of registrations. -/
structure Governed (resolver : Option Resolver) (history : List (Registration η))
    (definitions : Definitions η) : Prop where
  /-- There is one definition for each registration that succeeded, in the same order. -/
  defined : List.Forall₂ Registration.Defines (history.filter Registration.succeeds)
    definitions.entries
  /-- Indices count the registrations that succeeded. -/
  numbered : definitions.entries.map Definition.index = List.range definitions.entries.length
  /-- One more registration that fails gives the reason and changes nothing. -/
  failed : ∀ call invalid, Matcher.compile call.pattern = .error invalid →
    definitions.register call.pattern call.handler call.options call.location = .error invalid ∧
      definitions.attempt call = definitions
  /-- One more that succeeds adds its definition, and the list is sorted anew with it at its end. -/
  succeeded : ∀ call, call.succeeds → ∃ definition, call.Defines definition ∧
    definition.index = definitions.entries.length ∧
      (definitions.attempt call).entries = definitions.entries ++ [definition] ∧
        (definitions.attempt call).inOrder =
          byPriority (·.options.order) (definitions.inOrder ++ [definition])
  /-- Each definition is listed once. -/
  listed : definitions.inOrder.Perm definitions.entries
  /-- The list is in order of priority and then of index. -/
  ordered : definitions.inOrder.Pairwise TriedBefore
  /-- A text is resolved to the first definition that matches it, its values coerced one by one. -/
  resolved : ∀ text found, definitions.resolve? text = some found ↔
    ∃ values, definitions.FirstMatch text found.definition values ∧
      found.args = values.map (Argument.coerce resolver)
  /-- A text is not resolved when no definition matches it, and only then. -/
  unresolved : ∀ text, definitions.resolve? text = none ↔
    ∀ definition ∈ definitions.entries, definition.matcher.captures text = none
  /-- What is attached to a step comes behind what its text gives, the table first. -/
  attached : ∀ step, definitions.resolveStep? step = (definitions.resolve? step.text).map fun found =>
    ⟨found.definition, found.args ++ (step.table.map Argument.table).toList ++
      (step.docString.map Argument.docString).toList⟩

/-- Whatever is registered, and whichever registrations fail, a text is resolved to the first match in
the order of priority and of registration. -/
theorem governed_ofHistory (resolver : Option Resolver) (history : List (Registration η)) :
    Governed resolver history (ofHistory resolver history) where
  defined := defines_ofHistory resolver history
  numbered := numbered_ofHistory resolver history
  failed call invalid hcompile := by
    refine ⟨register_eq_error hcompile, attempt_of_fails ?_⟩
    simp [Registration.succeeds, hcompile, Except.isOk, Except.toBool]
  succeeded call hcall := by
    obtain ⟨definition, hdefines, hindex, heq⟩ :=
      attempt_of_succeeds (ofHistory resolver history) hcall
    exact ⟨definition, hdefines, hindex, by rw [heq, entries_push], by rw [heq, inOrder_push]⟩
  listed := inOrder_perm _
  ordered := pairwise_inOrder resolver history
  resolved text found := by
    rw [resolve?_eq_some (pairwise_inOrder resolver history), resolver_ofHistory]
  unresolved _ := resolve?_eq_none
  attached step := by
    simp only [resolveStep?, Argument.attachments, List.append_assoc]

end Definitions

end Acceptance
