/-!
# Bindings

Texts bound to names, each name once, in the order in which the names were first bound.
-/

namespace Acceptance

/-- Texts bound to names. -/
abbrev Bindings := List (String × String)

namespace Bindings

/-- Binds a name, in place of an earlier binding of it. -/
def bind (bindings : Bindings) (name value : String) : Bindings :=
  match bindings with
  | [] => [(name, value)]
  | (other, old) :: rest =>
    if other = name then (name, value) :: rest else (other, old) :: Bindings.bind rest name value

/-- The text bound to a name. -/
def get? (bindings : Bindings) (name : String) : Option String := List.lookup name bindings

/-- Binds names in order, a later binding of a name replacing an earlier one. -/
def ofPairs (pairs : List (String × String)) : Bindings :=
  pairs.foldl (fun bindings pair => Bindings.bind bindings pair.1 pair.2) []

end Bindings

end Acceptance
