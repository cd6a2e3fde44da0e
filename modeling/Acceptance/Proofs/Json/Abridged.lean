import Acceptance.Proofs.Json

/-!
# Objects without their defaults

An object need not have a member that holds its default. What is left when such members are removed, in an
object and in what it holds, is an abridged form of it. A reader that knows the defaults finds in an abridged
object, for each of its fields, an abridged form of the value or no value where the value is the default.
-/

namespace Acceptance.Json

variable {α : Type}

/-- A field that the objects of a kind have: its name, the default of its value, and what the abridged forms of
its value are. -/
structure Field where
  name : String
  default : Json
  Abridges : Json → Json → Prop

/-- The fields of a kind of objects. They have the names and values of the object that is the default of this
kind. -/
def fieldsOf : Json → List (Json → Json → Prop) → List Field
  | object members, abridges => members.zipWith (fun member => Field.mk member.1 member.2) abridges
  | _, _ => []

/-- Some members are left of those of an object. Any member that holds its default may have been removed, and the
values of the others may be abridged. -/
inductive Remain : List Field → List (String × Json) → List (String × Json) → Prop
  | nil : Remain [] [] []
  | kept {field : Field} {fields : List Field} {value value' : Json} {members left : List (String × Json)}
    (hvalue : field.Abridges value value') (hrest : Remain fields members left) :
    Remain (field :: fields) ((field.name, value) :: members) ((field.name, value') :: left)
  | removed {field : Field} {fields : List Field} {members left : List (String × Json)}
    (hrest : Remain fields members left) :
    Remain (field :: fields) ((field.name, field.default) :: members) left

/-- The abridged forms of an object. The order of its members does not matter. -/
inductive AbridgesObject (fields : List Field) : Json → Json → Prop
  | intro {members left found : List (String × Json)} (hleft : Remain fields members left)
    (hfound : found.Perm left) : AbridgesObject fields (object members) (object found)

/-- The abridged forms of an array: no item is removed, but each may be abridged. -/
inductive AbridgesItems (abridges : Json → Json → Prop) : Json → Json → Prop
  | intro {items items' : List Json} (hitems : List.Forall₂ abridges items items') :
    AbridgesItems abridges (array items) (array items')

/-- The abridged forms of what may be null. -/
def AbridgesUnlessNull (abridges : Json → Json → Prop) : Json → Json → Prop
  | null, value => value = null
  | written, value => abridges written value

theorem abridgesUnlessNull_iff {abridges : Json → Json → Prop} {written value : Json} (hnull : written ≠ null) :
    AbridgesUnlessNull abridges written value ↔ abridges written value := by
  cases written <;> first | exact absurd rfl hnull | exact Iff.rfl

variable {fields : List Field} {members left found : List (String × Json)} {name : String}

/-! ## Forms that lack nothing -/

/-- An object that lacks nothing is an abridged form of itself. -/
theorem AbridgesObject.refl
    (h : List.Forall₂ (fun field member => field.name = member.1 ∧ field.Abridges member.2 member.2) fields
      members) : AbridgesObject fields (object members) (object members) := by
  refine .intro ?_ (.refl members)
  induction h with
  | nil => exact .nil
  | @cons field member _ _ hmember _ ih =>
      obtain ⟨name, value⟩ := member
      obtain ⟨rfl, hvalue⟩ : field.name = name ∧ field.Abridges value value := hmember
      exact .kept hvalue ih

theorem AbridgesItems.refl {abridges : Json → Json → Prop} {write : α → Json}
    (h : ∀ value, abridges (write value) (write value)) (values : List α) :
    AbridgesItems abridges (array (values.map write)) (array (values.map write)) := by
  refine .intro (List.forall₂_same.mpr fun item hitem => ?_)
  obtain ⟨value, -, rfl⟩ := List.mem_map.mp hitem
  exact h value

theorem AbridgesUnlessNull.refl {abridges : Json → Json → Prop} {write : α → Json}
    (hwrite : ∀ value, write value ≠ null) (h : ∀ value, abridges (write value) (write value))
    (value? : Option α) : AbridgesUnlessNull abridges (ofOption write value?) (ofOption write value?) := by
  cases value? with
  | none => rfl
  | some value => exact (abridgesUnlessNull_iff (hwrite value)).mpr (h value)

/-! ## Finding the fields -/

/-- What is found of the value of a field: an abridged form of it, or nothing if the value is the default. -/
def Field.Gives (field : Field) (value : Json) : Option Json → Prop
  | none => value = field.default
  | some value' => field.Abridges value value'

theorem Remain.memberValues_eq_nil (h : Remain fields members left) (hname : name ∉ fields.map Field.name) :
    memberValues name left = [] := by
  induction h with
  | nil => rfl
  | kept _ _ ih =>
      rw [List.map_cons, List.mem_cons, not_or] at hname
      simpa [memberValues, Ne.symm hname.1] using ih hname.2
  | removed _ ih =>
      rw [List.map_cons, List.mem_cons, not_or] at hname
      exact ih hname.2

/-- Of an abridged object every field gives what is left of its value. -/
theorem Remain.fieldValues? (h : Remain fields members left) (hnodup : (fields.map Field.name).Nodup)
    (hfound : ∀ name ∈ fields.map Field.name, (memberValues name found).Perm (memberValues name left)) :
    ∃ values, Json.fieldValues? (fields.map Field.name) (object found) = some values ∧
      List.Forall₂ (fun pair value? => Field.Gives pair.1 pair.2.2 value?) (fields.zip members) values := by
  induction h with
  | nil => exact ⟨[], rfl, .nil⟩
  | @kept field fields value value' members left hvalue hrest ih =>
      rw [List.map_cons, List.nodup_cons] at hnodup
      rw [List.map_cons, List.forall_mem_cons] at hfound
      have hfirst : memberValues field.name found = [value'] := by
        have hrest := hrest.memberValues_eq_nil hnodup.1
        rw [← List.perm_singleton, ← hrest]
        simpa [memberValues] using hfound.1
      obtain ⟨values, hvalues, hgives⟩ := ih hnodup.2 fun name hname => by
        have hne : field.name ≠ name := fun heq => hnodup.1 (heq ▸ hname)
        simpa [memberValues, hne] using hfound.2 name hname
      refine ⟨some value' :: values, ?_, .cons hvalue hgives⟩
      rw [Json.fieldValues?] at hvalues ⊢
      rw [List.map_cons, List.mapM_cons, hvalues, uniqueMember?, hfirst]
      rfl
  | @removed field fields members left hrest ih =>
      rw [List.map_cons, List.nodup_cons] at hnodup
      rw [List.map_cons, List.forall_mem_cons] at hfound
      have hfirst : memberValues field.name found = [] := by
        rw [← List.perm_nil, ← hrest.memberValues_eq_nil hnodup.1]
        exact hfound.1
      obtain ⟨values, hvalues, hgives⟩ := ih hnodup.2 hfound.2
      refine ⟨none :: values, ?_, .cons rfl hgives⟩
      rw [Json.fieldValues?] at hvalues ⊢
      rw [List.map_cons, List.mapM_cons, hvalues, uniqueMember?, hfirst]
      rfl

theorem AbridgesObject.fieldValues? {value : Json} (h : AbridgesObject fields (object members) value)
    (names : List String) (hnames : fields.map Field.name = names) (hnodup : names.Nodup) :
    ∃ values, Json.fieldValues? names value = some values ∧
      List.Forall₂ (fun pair value? => Field.Gives pair.1 pair.2.2 value?) (fields.zip members) values := by
  subst hnames
  cases h with
  | intro hleft hfound => exact hleft.fieldValues? hnodup fun _ _ => hfound.filterMap _

/-! ## Reading the fields -/

section Reading

variable {read : Json → Option α} {write : α → Json} {value : Json}

/-- An array is read back from its abridged forms if its items are. -/
theorem AbridgesItems.list? {abridges : Json → Json → Prop} {values : List α}
    (h : AbridgesItems abridges (array (values.map write)) value)
    (hread : ∀ written value, abridges (write written) value → read value = some written) :
    Json.list? read value = some values := by
  cases h with
  | intro hitems =>
      rw [List.forall₂_map_left_iff] at hitems
      exact list?_eq_some (hitems.imp hread)

/-- What may be null is read back from its abridged forms if it is where it is not null. -/
theorem AbridgesUnlessNull.nullable? {abridges : Json → Json → Prop} {value? : Option α}
    (h : AbridgesUnlessNull abridges (ofOption write value?) value) (hwrite : ∀ written, write written ≠ null)
    (hnull : read null = none)
    (hread : ∀ written value, abridges (write written) value → read value = some written) :
    Json.nullable? read value = some value? := by
  cases value? with
  | none =>
      cases (show value = null from h)
      rfl
  | some written =>
      rw [ofOption, abridgesUnlessNull_iff (hwrite written)] at h
      exact nullable?_eq_some hnull (hread written value h)

end Reading

namespace Field.Gives

variable {name : String} {abridges : Json → Json → Prop} {value? : Option Json}

/-- A field is read back if its value is read back from its abridged forms, and if only the default is written
like the default. -/
theorem field? {read : Json → Option α} {value default : Json} {written unwritten : α}
    (h : Gives ⟨name, default, abridges⟩ value value?) (hdefault : value = default → written = unwritten)
    (hread : ∀ value', abridges value value' → read value' = some written) :
    Json.field? read unwritten value? = some written := by
  cases value? with
  | none => exact congrArg some (hdefault h).symm
  | some value' => exact hread value' h

theorem text {written : String} (h : Gives ⟨name, string "", (· = ·)⟩ (string written) value?) :
    Json.field? string? "" value? = some written :=
  h.field? string.inj fun _ heq => heq ▸ rfl

theorem texts {written : List String} (h : Gives ⟨name, array [], (· = ·)⟩ (ofStrings written) value?) :
    Json.field? strings? [] value? = some written :=
  h.field? (fun heq => List.map_eq_nil_iff.mp (array.inj heq)) fun _ heq => heq ▸ strings?_ofStrings written

theorem rows {written : List (List String)} (h : Gives ⟨name, array [], (· = ·)⟩ (ofRows written) value?) :
    Json.field? rows? [] value? = some written :=
  h.field? (fun heq => List.map_eq_nil_iff.mp (array.inj heq)) fun _ heq => heq ▸ rows?_ofRows written

theorem items {read : Json → Option (List α)} {write : α → Json} {written : List α}
    (h : Gives ⟨name, array [], abridges⟩ (array (written.map write)) value?)
    (hread : ∀ value, abridges (array (written.map write)) value → read value = some written) :
    Json.field? read [] value? = some written :=
  h.field? (fun heq => List.map_eq_nil_iff.mp (array.inj heq)) hread

theorem option {read : Json → Option α} {write : α → Json} {written : Option α}
    (h : Gives ⟨name, null, abridges⟩ (ofOption write written) value?) (hwrite : ∀ value, write value ≠ null)
    (hread : ∀ value, abridges (ofOption write written) value → nullable? read value = some written) :
    Json.field? (nullable? read) none value? = some written := by
  refine h.field? (fun heq => ?_) hread
  cases written with
  | none => rfl
  | some value => exact absurd heq (hwrite value)

theorem optionalText {written : Option String}
    (h : Gives ⟨name, null, (· = ·)⟩ (ofOption string written) value?) :
    Json.field? (nullable? string?) none value? = some written :=
  h.option nofun fun _ heq => heq ▸ nullable?_ofOption string? rfl (fun _ => rfl) written

end Field.Gives

end Acceptance.Json
