import Acceptance.Argument
import Acceptance.Duration
import Acceptance.Location
import Acceptance.Pattern

/-!
# Step definitions

What is run for a step. Definitions are kept in the order of their registration, and the text of a
step is resolved to the first definition that matches it, in the order of their priorities and of
their registration where priorities are equal.
-/

namespace Acceptance

/-- What may be said about a definition when it is registered. -/
structure DefinitionOptions where
  timeout : Option Duration := none
  maxRetries : Option Nat := none
  tags : List String := []
  order : Int := 0
deriving DecidableEq, Inhabited

/-- A pattern and what handles the steps that match it. -/
structure Definition (η : Type) where
  index : Nat
  matcher : Matcher
  handler : η
  options : DefinitionOptions
  location : Location

/-- The pattern of a definition. -/
def Definition.pattern {η : Type} (definition : Definition η) : Pattern := definition.matcher.pattern

/-- There are no places in an empty list. -/
theorem Definitions.listed_empty : ([] : List Nat).Perm (List.range 0) := .refl _

/-- The definitions registered so far, the places at which they stand in the order in which they are
tried, and what is done to captured values. -/
structure Definitions (η : Type) where
  entries : List (Definition η) := []
  resolution : List Nat := []
  resolver : Option Resolver := none
  /-- Each place is listed once. -/
  listed : resolution.Perm (List.range entries.length) := by exact Definitions.listed_empty

/-- A definition that applies to a step, with the arguments for its handler. -/
structure Resolution (η : Type) where
  definition : Definition η
  args : List Argument

namespace Definitions

variable {η : Type}

/-- The priority of the definition at a place. -/
def orderAt (entries : List (Definition η)) (place : Nat) : Int :=
  (entries[place]?.map (·.options.order)).getD 0

/-- Adds a definition behind the others. Its place is listed behind theirs, and the list is sorted by
priority. -/
def push (definitions : Definitions η) (definition : Definition η) : Definitions η :=
  let entries := definitions.entries ++ [definition]
  { entries
    resolution := (definitions.resolution ++ [definitions.entries.length]).mergeSort fun left right =>
      orderAt entries left ≤ orderAt entries right
    resolver := definitions.resolver
    listed := by
      rw [List.length_append, List.length_singleton, List.range_succ]
      exact (List.mergeSort_perm _ _).trans (definitions.listed.append_right _) }

/-- Adds a definition with the next index. A pattern that cannot be compiled leaves the definitions
as they are. -/
def register (definitions : Definitions η) (pattern : Pattern) (handler : η)
    (options : DefinitionOptions) (location : Location) :
    Except Pattern.Invalid (Definitions η) := do
  let matcher ← Matcher.compile pattern
  let index := definitions.entries.length
  .ok (definitions.push { index, matcher, handler, options, location })

/-- The definitions in the order in which they are tried. -/
def inOrder (definitions : Definitions η) : List (Definition η) :=
  definitions.resolution.filterMap (definitions.entries[·]?)

/-- A definition with the arguments that a text gives it, if it matches. -/
def matched? (resolver : Option Resolver) (text : String) (definition : Definition η) :
    Option (Resolution η) :=
  (definition.matcher.captures text).map fun values =>
    ⟨definition, values.map (Argument.coerce resolver)⟩

/-- The first definition that matches a text. -/
def resolve? (definitions : Definitions η) (text : String) : Option (Resolution η) :=
  definitions.inOrder.findSome? (matched? definitions.resolver text)

/-- The first definition that matches the text of a step. What is attached to the step comes behind
the captured values. -/
def resolveStep? (definitions : Definitions η) (step : Step) : Option (Resolution η) :=
  (definitions.resolve? step.text).map fun found =>
    { found with args := found.args ++ Argument.attachments step }

/-- The number of retries that the definition of a text allows, if it says so. -/
def budget? (definitions : Definitions η) (text : String) : Option Nat :=
  (definitions.resolve? text).bind fun found => found.definition.options.maxRetries

/-- The largest number of retries that any definition allows. -/
def maxBudget (definitions : Definitions η) : Nat :=
  definitions.entries.foldl
    (fun largest definition => max largest (definition.options.maxRetries.getD 0)) 0

end Definitions

end Acceptance
