import Acceptance.Feature.Json
import Acceptance.Proofs.Bindings
import Mathlib.Data.List.Dedup
import Mathlib.Data.List.Forall2
import Mathlib.Data.List.Sort
import Mathlib.Data.String.Basic

/-!
# JSON values

Equality of values can be decided. Of several members of an object with one name the last counts, and this does
not change when the members are sorted by name. What is written as a list, or as null where there is nothing, is
read back. A value is proper up to a depth exactly if its parts are up to a depth that is less by one.
-/

namespace Acceptance.Json

/-! ## Equality -/

mutual

/-- Whether two values are the same. -/
def same : Json → Json → Bool
  | null, null => true
  | bool value, bool other => value == other
  | integer value, integer other => value == other
  | number value, number other => decide (value = other)
  | string text, string other => text == other
  | array items, array others => sameItems items others
  | object members, object others => sameMembers members others
  | improper, improper => true
  | _, _ => false

/-- Whether two lists of values are the same. -/
def sameItems : List Json → List Json → Bool
  | [], [] => true
  | item :: rest, other :: others => item.same other && sameItems rest others
  | _, _ => false

/-- Whether two lists of members are the same. -/
def sameMembers : List (String × Json) → List (String × Json) → Bool
  | [], [] => true
  | (name, value) :: rest, (name', value') :: others =>
    name == name' && value.same value' && sameMembers rest others
  | _, _ => false

end

mutual

theorem same_iff (value other : Json) : value.same other = true ↔ value = other := by
  cases value <;> cases other <;> simp [same, sameItems_iff, sameMembers_iff]

theorem sameItems_iff (items others : List Json) : sameItems items others = true ↔ items = others := by
  cases items with
  | nil => cases others <;> simp [sameItems]
  | cons item rest =>
      cases others with
      | nil => simp [sameItems]
      | cons other others => simp [sameItems, same_iff item other, sameItems_iff rest others]

theorem sameMembers_iff (members others : List (String × Json)) :
    sameMembers members others = true ↔ members = others := by
  cases members with
  | nil => cases others <;> simp [sameMembers]
  | cons member rest =>
      cases others with
      | nil => simp [sameMembers]
      | cons other others =>
          simp [sameMembers, same_iff member.2 other.2, sameMembers_iff rest others, Prod.ext_iff]

end

instance : DecidableEq Json := fun value other => decidable_of_iff _ (same_iff value other)

/-! ## Members -/

section Members

variable {α : Type} {members : List (String × α)} {name : String} {value : α}

/-- The value of a member of an object. Of several members with one name the last counts. -/
def member? (name : String) (members : List (String × α)) : Option α := members.reverse.lookup name

/-- The names of the members of an object in order, each once. -/
def sortedNames (members : List (String × α)) : List String :=
  (members.map Prod.fst).dedup.mergeSort fun name other => name ≤ other

/-- An object has no value for the names that it has no member with. -/
theorem member?_eq_none : member? name members = none ↔ name ∉ members.map Prod.fst := by
  rw [member?, lookup_eq_none, List.map_reverse, List.mem_reverse]

theorem mem_of_member?_eq_some (h : member? name members = some value) : (name, value) ∈ members := by
  rw [member?, List.lookup_eq_some_iff] at h
  obtain ⟨after, before, hsplit, -⟩ := h
  rw [← List.mem_reverse, hsplit]
  exact List.mem_append_right _ List.mem_cons_self

theorem lookup_insertMember (name : String) (value : α) (members : List (String × α)) (other : String) :
    (insertMember name value members).lookup other =
      if other = name then some value else members.lookup other := by
  induction members with
  | nil => simp [insertMember, lookup_cons_eq]
  | cons member rest ih =>
      rw [insertMember]
      split
      next => rw [lookup_cons_eq]
      next =>
        rw [lookup_cons_eq member]
        split
        next hname =>
          subst hname
          by_cases hother : other = member.1 <;> simp [lookup_cons_eq, hother]
        next hname =>
          rw [lookup_cons_eq, ih]
          by_cases hother : other = member.1
          · simp [hother, Ne.symm hname]
          · simp [hother]

theorem sortMembers_append (members : List (String × α)) (member : String × α) :
    sortMembers (members ++ [member]) = insertMember member.1 member.2 (sortMembers members) := by
  simp [sortMembers]

/-- Sorting keeps what counts for each name. -/
theorem lookup_sortMembers (members : List (String × α)) (name : String) :
    (sortMembers members).lookup name = member? name members := by
  induction members using List.reverseRecOn with
  | nil => rfl
  | append_singleton members member ih =>
      rw [sortMembers_append, lookup_insertMember, ih, member?, member?, List.reverse_append]
      exact (lookup_cons_eq member members.reverse name).symm

theorem mem_map_fst_insertMember {other : String} :
    other ∈ (insertMember name value members).map Prod.fst ↔ other = name ∨ other ∈ members.map Prod.fst := by
  rw [← not_iff_not, ← lookup_eq_none, lookup_insertMember, not_or, ← lookup_eq_none]
  by_cases hother : other = name <;> simp [hother]

theorem pairwise_insertMember (h : (members.map Prod.fst).Pairwise (· < ·)) (name : String) (value : α) :
    ((insertMember name value members).map Prod.fst).Pairwise (· < ·) := by
  induction members with
  | nil => simp [insertMember]
  | cons member rest ih =>
      rw [List.map_cons, List.pairwise_cons] at h
      rw [insertMember]
      split
      next hbefore =>
        rw [List.map_cons, List.map_cons, List.pairwise_cons, List.pairwise_cons]
        exact ⟨List.forall_mem_cons.mpr ⟨hbefore, fun other hother => hbefore.trans (h.1 other hother)⟩, h⟩
      next hbefore =>
        split
        next hname =>
          rw [List.map_cons, List.pairwise_cons]
          exact ⟨hname ▸ h.1, h.2⟩
        next hname =>
          rw [List.map_cons, List.pairwise_cons]
          refine ⟨fun other hother => ?_, ih h.2⟩
          rcases mem_map_fst_insertMember.mp hother with rfl | hmem
          · exact lt_of_le_of_ne (not_lt.mp hbefore) (Ne.symm hname)
          · exact h.1 other hmem

theorem pairwise_sortMembers (members : List (String × α)) :
    ((sortMembers members).map Prod.fst).Pairwise (· < ·) := by
  induction members using List.reverseRecOn with
  | nil => exact .nil
  | append_singleton members member ih =>
      rw [sortMembers_append]
      exact pairwise_insertMember ih member.1 member.2

/-- The names of sorted members are those of the members, in order. -/
theorem map_fst_sortMembers (members : List (String × α)) :
    (sortMembers members).map Prod.fst = sortedNames members := by
  have hsorted := pairwise_sortMembers members
  have hperm : ((sortMembers members).map Prod.fst).Perm (sortedNames members) := by
    refine .trans ((List.perm_ext_iff_of_nodup (hsorted.imp ne_of_lt) (List.nodup_dedup _)).mpr fun name => ?_)
      (List.mergeSort_perm _ _).symm
    rw [List.mem_dedup, ← not_iff_not, ← lookup_eq_none, lookup_sortMembers, member?_eq_none]
  refine hperm.eq_of_pairwise (fun _ _ _ _ => le_antisymm) (hsorted.imp le_of_lt) ?_
  exact List.pairwise_mergeSort' _ _

end Members

/-! ## Lists and what may be null -/

section Reading

variable {α : Type} {read : Json → Option α} {write : α → Json} {written : α} {value : Json}

theorem list?_eq_some {values : List α} {items : List Json}
    (h : List.Forall₂ (fun value item => read item = some value) values items) :
    list? read (array items) = some values := by
  rw [list?]
  induction h with
  | nil => rfl
  | cons hitem _ ih => rw [List.mapM_cons, hitem, ih]; rfl

theorem list?_map (read : Json → Option α) (write : α → Json) (hread : ∀ value, read (write value) = some value)
    (values : List α) : list? read (array (values.map write)) = some values := by
  apply list?_eq_some
  rw [List.forall₂_map_right_iff, List.forall₂_same]
  exact fun value _ => hread value

theorem strings?_ofStrings (texts : List String) : strings? (ofStrings texts) = some texts :=
  list?_map string? string (fun _ => rfl) texts

theorem rows?_ofRows (rows : List (List String)) : rows? (ofRows rows) = some rows :=
  list?_map strings? ofStrings strings?_ofStrings rows

theorem nullable?_eq_some (hnull : read null = none) (hread : read value = some written) :
    nullable? read value = some (some written) := by
  unfold nullable?
  split
  · rw [hnull] at hread
    cases hread
  · rw [hread]
    rfl

theorem nullable?_ofOption (read : Json → Option α) (hnull : read null = none)
    (hread : ∀ value, read (write value) = some value) (value? : Option α) :
    nullable? read (ofOption write value?) = some value? := by
  cases value? with
  | none => rfl
  | some value => exact nullable?_eq_some hnull (hread value)

end Reading

/-! ## Nesting -/

variable {depth : Nat}

@[simp] theorem isProper_string (text : String) : (string text).isProper depth = true := by
  simp [isProper]

theorem areProper_iff {items : List Json} :
    areProper depth items = true ↔ ∀ item ∈ items, item.isProper depth = true := by
  induction items with
  | nil => simp [areProper]
  | cons item rest ih => simp [areProper, ih]

theorem isProper_array_iff {items : List Json} :
    (array items).isProper (depth + 1) = true ↔ ∀ item ∈ items, item.isProper depth = true := by
  rw [← areProper_iff, isProper]

theorem isProper_object_iff {members : List (String × Json)} :
    (object members).isProper (depth + 1) = true ↔ ∀ member ∈ members, member.2.isProper depth = true := by
  rw [isProper]
  induction members with
  | nil => simp [membersProper]
  | cons member rest ih => simp [membersProper, ih]

/-! ## Texts -/

/-- A text is read by its characters. -/
theorem draft?_ofList (characters : List Char) :
    draft? (String.ofList characters) =
      (readValue (2 * characters.length + 2) characters).bind fun read =>
        if (skipBlanks read.2).isEmpty then some read.1 else none := by
  rw [draft?, String.toList_ofList, String.length_ofList]
  cases readValue (2 * characters.length + 2) characters <;> rfl

end Acceptance.Json
