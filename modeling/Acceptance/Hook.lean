import Acceptance.Status
import Acceptance.Tag

/-!
# Hooks

Actions around features, scenarios and steps. A hook may be bound to tags, and then applies only
where one of them is present. Hooks run in the order of their priorities and of their registration
where priorities are equal.
-/

namespace Acceptance

/-- When a hook runs. -/
inductive Phase
  | beforeFeature
  | afterFeature
  | before
  | after
  | beforeStep
  | afterStep
deriving DecidableEq, Inhabited

/-- The name of a phase. -/
def Phase.toText : Phase → String
  | beforeFeature => "beforeFeature"
  | afterFeature => "afterFeature"
  | before => "before"
  | after => "after"
  | beforeStep => "beforeStep"
  | afterStep => "afterStep"

/-- A hook that failed. -/
structure HookError where
  phase : Phase
  message : String
deriving DecidableEq, Inhabited

/-- The text of a hook error. -/
def HookError.toText (error : HookError) : String :=
  error.phase.toText ++ " hook failed: " ++ error.message

/-- What a hook is told about where it runs. -/
structure HookContext where
  feature : String := ""
  scenario : Option String := none
  step : Option String := none
  tags : List String := []
  status : Option Status := none
  attempt : Nat := 0

/-- A registered hook. Its index counts the registrations before it. -/
structure Hook (α : Type) where
  index : Nat
  phase : Phase
  action : α
  tags : List String
  order : Int

/-- Whether a hook applies where some tags are present: a hook without tags always does. -/
def Hook.appliesTo {α : Type} (hook : Hook α) (active : List String) : Bool :=
  hook.tags.isEmpty || Tag.intersects hook.tags active

/-- The hooks registered so far. -/
structure Hooks (α : Type) where
  entries : List (Hook α) := []

namespace Hooks

variable {α : Type}

/-- Adds a hook. Its tags are kept in their normal form. -/
def register (hooks : Hooks α) (phase : Phase) (action : α) (tags : List String) (order : Int) :
    Hooks α :=
  let index := hooks.entries.length
  ⟨hooks.entries ++ [{ index, phase, action, tags := tags.map Tag.normalize, order }]⟩

/-- The hooks of a phase that apply where some tags are present, in the order in which they run. -/
def list (hooks : Hooks α) (phase : Phase) (active : List String) : List (Hook α) :=
  (hooks.entries.filter fun hook => hook.phase = phase && hook.appliesTo active).mergeSort
    fun left right => left.order ≤ right.order

end Hooks

end Acceptance
