import Acceptance.Bindings
import Mathlib.Data.List.Induction
import Mathlib.Data.List.Nodup

/-!
# Bindings as maps

Binding a name changes what is bound to it and to no other name. So of several pairs with one name the
last counts, and where all names are different every pair does.
-/

namespace Acceptance

/-! ## Lists of pairs -/

section Pairs

variable {α : Type} {pairs : List (String × α)} {name : String}

theorem lookup_cons_eq (pair : String × α) (rest : List (String × α)) (name : String) :
    (pair :: rest).lookup name = if name = pair.1 then some pair.2 else rest.lookup name := by
  obtain ⟨key, value⟩ := pair
  by_cases hname : name = key
  · simp [hname]
  · simp [List.lookup_cons, beq_false_of_ne hname, hname]

theorem lookup_eq_none : pairs.lookup name = none ↔ name ∉ pairs.map Prod.fst := by
  rw [List.lookup_eq_none_iff]
  simp only [bne_iff_ne, List.mem_map, not_exists, not_and]
  exact forall₂_congr fun _ _ => ne_comm

end Pairs

/-! ## Bindings -/

namespace Bindings

variable {pairs : List (String × String)} {name value : String}

@[simp]
theorem get?_cons (pair : String × String) (rest : Bindings) (name : String) :
    get? (pair :: rest) name = if name = pair.1 then some pair.2 else rest.get? name :=
  lookup_cons_eq pair rest name

theorem get?_eq_none {bindings : Bindings} : bindings.get? name = none ↔ name ∉ bindings.map Prod.fst :=
  lookup_eq_none

/-- What is bound to a name does not depend on the order of the bindings. -/
theorem get?_perm {bindings others : Bindings} (hperm : bindings.Perm others)
    (hnodup : (bindings.map Prod.fst).Nodup) (name : String) :
    bindings.get? name = others.get? name := by
  induction hperm with
  | nil => rfl
  | cons pair _ ih => rw [get?_cons, get?_cons, ih (List.nodup_cons.mp hnodup).2]
  | swap first second rest =>
      have hne : second.1 ≠ first.1 := by
        rw [List.map_cons, List.map_cons, List.nodup_cons, List.mem_cons, not_or] at hnodup
        exact hnodup.1.1
      simp only [get?_cons]
      by_cases hfirst : name = first.1
      · simp [hfirst, Ne.symm hne]
      · simp [hfirst]
  | trans hperm _ ih ih' => exact (ih hnodup).trans (ih' ((hperm.map Prod.fst).nodup_iff.mp hnodup))

theorem get?_bind (bindings : Bindings) (name value other : String) :
    (bindings.bind name value).get? other = if other = name then some value else bindings.get? other := by
  induction bindings with
  | nil => simp [bind]
  | cons pair rest ih =>
      rw [bind]
      split
      next hname =>
        subst hname
        by_cases hother : other = pair.1 <;> simp [hother]
      next hname =>
        by_cases hother : other = pair.1
        · -- The first pair is not the one that is bound anew.
          simp [hother, hname]
        · simp [hother, ih]

theorem ofPairs_append (pairs : List (String × String)) (name value : String) :
    ofPairs (pairs ++ [(name, value)]) = (ofPairs pairs).bind name value := by
  simp [ofPairs]

theorem get?_ofPairs (pairs : List (String × String)) (name : String) :
    (ofPairs pairs).get? name = get? pairs.reverse name := by
  induction pairs using List.reverseRecOn with
  | nil => rfl
  | append_singleton pairs pair ih =>
      rw [ofPairs_append, get?_bind, ih, List.reverse_append]
      exact (get?_cons pair pairs.reverse name).symm

theorem get?_ofPairs_eq_none : (ofPairs pairs).get? name = none ↔ name ∉ pairs.map Prod.fst := by
  rw [get?_ofPairs, get?_eq_none, List.map_reverse, List.mem_reverse]

/-- Of several pairs with one name the last counts. -/
theorem get?_ofPairs_of_last {before after : List (String × String)}
    (hsplit : pairs = before ++ (name, value) :: after) (hlast : name ∉ after.map Prod.fst) :
    (ofPairs pairs).get? name = some value := by
  rw [get?_ofPairs, get?, List.lookup_eq_some_iff]
  refine ⟨after.reverse, before.reverse, ?_, ?_⟩
  · simp [hsplit]
  · intro pair hpair
    apply bne_iff_ne.mpr
    rintro rfl
    exact hlast (List.mem_map_of_mem (List.mem_reverse.mp hpair))

/-- What is bound to a name is the text of its last pair. -/
theorem get?_ofPairs_eq_some :
    (ofPairs pairs).get? name = some value ↔
      ∃ before after, pairs = before ++ (name, value) :: after ∧ name ∉ after.map Prod.fst := by
  constructor
  · intro hget
    rw [get?_ofPairs, get?, List.lookup_eq_some_iff] at hget
    obtain ⟨after, before, hsplit, hlast⟩ := hget
    refine ⟨before.reverse, after.reverse, ?_, ?_⟩
    · rw [← List.reverse_reverse pairs, hsplit]
      simp
    · intro hmem
      obtain ⟨pair, hpair, rfl⟩ := List.mem_map.mp hmem
      exact bne_iff_ne.mp (hlast pair (List.mem_reverse.mp hpair)) rfl
  · rintro ⟨before, after, hsplit, hlast⟩
    exact get?_ofPairs_of_last hsplit hlast

/-- A name is bound once, however often. -/
theorem nodup_bind {bindings : Bindings} (hnodup : (bindings.map Prod.fst).Nodup) (name value : String) :
    ((bindings.bind name value).map Prod.fst).Nodup := by
  induction bindings with
  | nil => simp [bind]
  | cons pair rest ih =>
      obtain ⟨hfirst, hrest⟩ := List.nodup_cons.mp hnodup
      rw [bind]
      split
      next hname => exact List.nodup_cons.mpr ⟨hname ▸ hfirst, hrest⟩
      next hname =>
        refine List.nodup_cons.mpr ⟨?_, ih hrest⟩
        rwa [← get?_eq_none, get?_bind, if_neg hname, get?_eq_none]

theorem nodup_ofPairs (pairs : List (String × String)) : ((ofPairs pairs).map Prod.fst).Nodup := by
  induction pairs using List.reverseRecOn with
  | nil => exact List.nodup_nil
  | append_singleton pairs pair ih =>
      rw [ofPairs_append]
      exact nodup_bind ih pair.1 pair.2

theorem get?_ofPairs_of_mem (hnodup : (pairs.map Prod.fst).Nodup) (hmem : (name, value) ∈ pairs) :
    (ofPairs pairs).get? name = some value := by
  cases hget : (ofPairs pairs).get? name with
  | none => exact absurd (List.mem_map_of_mem hmem) (get?_ofPairs_eq_none.mp hget)
  | some other =>
      obtain ⟨before, after, hsplit, _⟩ := get?_ofPairs_eq_some.mp hget
      have hother : (name, other) ∈ pairs := hsplit ▸ List.mem_append_right _ List.mem_cons_self
      cases List.inj_on_of_nodup_map hnodup hother hmem rfl
      rfl

end Bindings

end Acceptance
