import Acceptance.Proofs.Regex.Match
import Acceptance.Proofs.Regex.Place

/-!
# Searching

A search finds the marks of a match, and finds one whenever there is one. The first holds of every
expression: a thread holds what remains of the expression behind the text it took, with the marks of that
text. The second is for expressions without nodes in which the place decides what remains: a thread may
then be dropped for another one at its place, since the same is left to both.
-/

namespace Acceptance.Regex

variable {text : List Char} {regex : Regex} {position : Nat}

/-- Some marks are those of a match in the text. -/
def Found (text : List Char) (regex : Regex) (marks : Marks) : Prop :=
  ∃ i j, i ≤ text.length ∧ Matches text regex i j marks

/-- An expression that remains to be matched at a position: each match of it ends one of the whole
expression, which passed the given marks before. -/
structure Remains (text : List Char) (regex : Regex) (position : Nat) (rest : Regex)
    (marks : Marks) : Prop where
  places : rest.places ⊆ regex.places
  completes : ∀ {j later}, Matches text rest position j later →
    Found text regex (later ++ marks)

/-- A thread stands behind its place, and what it has left remains to be matched. -/
structure Thread.Stands (text : List Char) (regex : Regex) (position : Nat) (thread : Thread) :
    Prop where
  place : (thread.place, thread.rest) ∈ regex.places
  remains : Remains text regex position thread.rest thread.marks

/-- The whole expression remains to be matched where a match begins. -/
theorem Remains.whole (inText : position ≤ text.length) : Remains text regex position regex [] where
  places := List.Subset.refl _
  completes matched := ⟨position, _, inText, by simpa using matched⟩

/-- The places of the branches are places of the expression. -/
theorem mem_places_of_take {at_ : Neighbours} {regex rest : Regex} {met slots : List Nat}
    {place : Nat} {set : CharSet}
    (mem : .take slots place set rest ∈ branches at_ regex met) :
    (place, rest) ∈ regex.places := by
  induction regex generalizing met slots place set rest with
  | empty | mark => cases List.mem_singleton.mp mem
  | look condition =>
    rw [branches] at mem
    split at mem
    · cases List.mem_singleton.mp mem
    · cases mem
  | one here set =>
    cases List.mem_singleton.mp mem
    exact List.mem_singleton_self _
  | seq left right ihLeft ihRight =>
    rcases mem_continueWith.mp mem with
      ⟨_, _, _, _, found, eq⟩ | ⟨_, _, later, -, reached, eq⟩
    · cases eq
      exact mem_places_seq.mpr (.inl ⟨_, ihLeft found, rfl⟩)
    · cases later with
      | finish => cases eq
      | take =>
        cases eq
        exact mem_places_seq.mpr (.inr (ihRight reached))
  | alt node left right ihLeft ihRight =>
    obtain ⟨here, -, mem⟩ := mem_branches_alt.mp mem
    rcases mem_of_mem_eitherOf mem with found | found
    · exact List.mem_append_left _ (ihLeft found)
    · exact List.mem_append_right _ (ihRight found)
  | again node greedy body ih =>
    obtain ⟨here, -, more | eq⟩ := mem_branches_again.mp mem
    · obtain ⟨_, _, _, _, found, eq⟩ := mem_rounds.mp more
      cases eq
      exact mem_places_again.mpr ⟨_, ih found, rfl⟩
    · cases eq

theorem mem_addThread {threads : List Thread} {thread other : Thread}
    (mem : other ∈ addThread threads thread) : other ∈ threads ∨ other = thread := by
  unfold addThread at mem
  split at mem
  · exact .inl mem
  · simpa using mem

/-- What comes of some threads and branches: marks are those of a match, and the threads
stand behind the next character. -/
structure Advance.Sound (text : List Char) (regex : Regex) (position : Nat) (ahead : Advance) :
    Prop where
  found : ∀ {marks}, ahead.finished = some marks → Found text regex marks
  stand : ∀ thread ∈ ahead.threads, thread.Stands text regex (position + 1)

section Sound

variable {rest : Regex} {marks : Marks} {threads : List Thread}

/-- Taking the next character on a branch leaves what stands behind it. -/
theorem Remains.take (remains : Remains text regex position rest marks) {slots : List Nat}
    {place : Nat} {set : CharSet} {later : Regex} {c : Char}
    (mem : .take slots place set later ∈ branches (neighbours text position) rest [])
    (next : text[position]? = some c) (inside : set.contains c = true) :
    Thread.Stands text regex (position + 1) ⟨place, later, marks.pass position slots⟩ where
  place := remains.places (mem_places_of_take mem)
  remains :=
    { places := List.Subset.trans (places_rest_subset (mem_places_of_take mem)) remains.places
      completes := fun {j behind} matched => by
        have found :=
          remains.completes (matches_of_leads mem ⟨c, _, next, inside, matched, rfl⟩)
        rwa [Marks.pass_eq, ← List.append_assoc] }

theorem advanceBranches_sound (remains : Remains text regex position rest marks)
    (stand : ∀ thread ∈ threads, thread.Stands text regex (position + 1)) {list : List Branch}
    (offered : ∀ branch ∈ list, branch ∈ branches (neighbours text position) rest []) :
    (advanceBranches position text[position]? marks threads list).Sound text regex position := by
  induction list generalizing threads with
  | nil => exact ⟨nofun, stand⟩
  | cons branch list ih =>
    have here := offered _ List.mem_cons_self
    have others branch mem := offered branch (List.mem_cons_of_mem _ mem)
    cases branch with
    | finish slots met =>
      refine ⟨fun eq => ?_, stand⟩
      obtain rfl := Option.some.inj eq
      rw [Marks.pass_eq]
      exact remains.completes (matches_of_leads here ⟨rfl, rfl⟩)
    | take slots place set later =>
      refine ih (fun thread mem => ?_) others
      split at mem
      next takes =>
        obtain ⟨c, next, inside⟩ := (Option.any_eq_true _ _).mp takes
        rcases mem_addThread mem with old | rfl
        · exact stand _ old
        · exact remains.take here next inside
      next => exact stand _ mem

theorem advance_sound {list : List (Regex × Marks)}
    (remain : ∀ part ∈ list, Remains text regex position part.1 part.2)
    (stand : ∀ thread ∈ threads, thread.Stands text regex (position + 1)) :
    (advance position (neighbours text position) threads list).Sound text regex position := by
  induction list generalizing threads with
  | nil => exact ⟨nofun, stand⟩
  | cons part list ih =>
    obtain ⟨rest, marks⟩ := part
    have first : Advance.Sound text regex position _ :=
      advanceBranches_sound (remain _ List.mem_cons_self) stand fun _ mem => mem
    simp only [advance]
    split
    next marks finished =>
      exact ⟨fun eq => first.found (finished.trans eq), first.stand⟩
    next => exact ih (fun part mem => remain part (List.mem_cons_of_mem _ mem)) first.stand

theorem remains_of_mem_remaining (stand : ∀ thread ∈ threads, thread.Stands text regex position)
    (inText : position ≤ text.length) {found : Option Marks} {part : Regex × Marks}
    (mem : part ∈ remaining regex threads found) :
    Remains text regex position part.1 part.2 := by
  rcases List.mem_append.mp mem with old | new
  · obtain ⟨thread, inside, rfl⟩ := List.mem_map.mp old
    exact (stand thread inside).remains
  · split at new
    · obtain rfl := List.mem_singleton.mp new
      exact .whole inText
    · cases new

end Sound

section Complete

variable {rest : Regex} {marks : Marks} {threads : List Thread} {place : Nat}

/-- Whether a thread stands behind a place. -/
def Occupied (threads : List Thread) (place : Nat) : Prop :=
  ∃ thread ∈ threads, thread.place = place

theorem occupied_addThread_self (threads : List Thread) (thread : Thread) :
    Occupied (addThread threads thread) thread.place := by
  unfold addThread
  split
  next found =>
    obtain ⟨other, mem, same⟩ := List.any_eq_true.mp found
    exact ⟨other, mem, eq_of_beq same⟩
  next => exact ⟨thread, by simp, rfl⟩

theorem Occupied.addThread (occupied : Occupied threads place) (thread : Thread) :
    Occupied (addThread threads thread) place := by
  obtain ⟨other, mem, same⟩ := occupied
  refine ⟨other, ?_, same⟩
  unfold Regex.addThread
  split
  · exact mem
  · exact List.mem_append_left _ mem

theorem Occupied.advanceBranches (occupied : Occupied threads place) (next : Option Char)
    (list : List Branch) :
    Occupied (advanceBranches position next marks threads list).threads place := by
  induction list generalizing threads with
  | nil => exact occupied
  | cons branch list ih =>
    cases branch with
    | finish => exact occupied
    | take slots here set later =>
      refine ih ?_
      split
      · exact occupied.addThread _
      · exact occupied

theorem Occupied.advance (occupied : Occupied threads place) (at_ : Neighbours)
    (list : List (Regex × Marks)) :
    Occupied (advance position at_ threads list).threads place := by
  induction list generalizing threads with
  | nil => exact occupied
  | cons part list ih =>
    have first : Occupied (Regex.advanceBranches position at_.after part.2 threads
        (branches at_ part.1 [])).threads place := occupied.advanceBranches _ _
    simp only [Regex.advance]
    split
    · exact first
    · exact ih first

/-- Every branch in a list is followed, unless one before it finishes. -/
theorem advanceBranches_complete {next : Option Char} {branch : Branch} {list : List Branch}
    (mem : branch ∈ list) :
    (advanceBranches position next marks threads list).finished.isSome = true ∨
      ∃ slots place set later, branch = .take slots place set later ∧
        (next.any set.contains = true →
          Occupied (advanceBranches position next marks threads list).threads place) := by
  induction list generalizing threads with
  | nil => cases mem
  | cons head list ih =>
    cases head with
    | finish => exact .inl rfl
    | take slots here set later =>
      rcases List.mem_cons.mp mem with rfl | mem
      · refine .inr ⟨slots, here, set, later, rfl, fun takes => ?_⟩
        simp only [advanceBranches, if_pos takes]
        exact (occupied_addThread_self threads ⟨here, later, _⟩).advanceBranches next list
      · exact ih mem

theorem IsFree.followedBy {left right : Regex} (hleft : left.IsFree) (hright : right.IsFree) :
    (followedBy left right).IsFree := by
  cases left with
  | empty => exact hright
  | _ => exact ⟨hleft, hright⟩

theorem IsFree.of_mem_places {regex rest : Regex} (free : regex.IsFree)
    (mem : (place, rest) ∈ regex.places) : rest.IsFree := by
  induction regex generalizing rest with
  | empty | look | mark => cases mem
  | one here set =>
    cases List.mem_singleton.mp mem
    trivial
  | seq left right ihLeft ihRight =>
    rcases mem_places_seq.mp mem with ⟨before, found, rfl⟩ | found
    · exact (ihLeft free.1 found).followedBy free.2
    · exact ihRight free.2 found
  | alt node left right ihLeft ihRight =>
    rcases List.mem_append.mp mem with found | found
    · exact ihLeft free.2.1 found
    · exact ihRight free.2.2 found
  | again node greedy body ih =>
    obtain ⟨before, found, rfl⟩ := mem_places_again.mp mem
    exact (ih free.2 found).followedBy free

/-- What can be matched of some parts finishes at once, or a thread at the place that takes the next
character goes on. -/
theorem advance_complete (threads : List Thread) {list : List (Regex × Marks)} {j : Nat} {later : Marks}
    (mem : (rest, marks) ∈ list) (free : rest.IsFree)
    (matched : Matches text rest position j later) :
    (advance position (neighbours text position) threads list).finished.isSome = true ∨
      position < text.length ∧ ∃ place behind, (place, behind) ∈ rest.places ∧
        (∃ j later, Matches text behind (position + 1) j later) ∧
        Occupied (advance position (neighbours text position) threads list).threads place := by
  induction list generalizing threads with
  | nil => cases mem
  | cons head list ih =>
    simp only [advance]
    split
    next => exact .inl rfl
    next finished =>
      rcases List.mem_cons.mp mem with rfl | mem
      · obtain ⟨branch, offered, passed, leads⟩ := exists_leads matched free []
        rcases advanceBranches_complete offered with some | ⟨slots, place, set, behind, rfl, goesOn⟩
        · rw [finished] at some
          cases some
        · obtain ⟨c, rest, next, inside, matched, -⟩ := leads
          refine .inr ⟨(List.getElem?_eq_some_iff.mp next).1, place, behind,
            mem_places_of_take offered, ⟨_, _, matched⟩, (goesOn ?_).advance _ _⟩
          exact (Option.any_eq_true _ _).mpr ⟨c, next, inside⟩
      · exact ih _ mem

end Complete

section Scan

variable {threads : List Thread} {found : Option Marks}

/-- The search from a position on. -/
def scan (text : List Char) (regex : Regex) (position : Nat) (threads : List Thread)
    (found : Option Marks) : Option Marks :=
  searchFrom regex position (neighbours text position).before threads found (text.drop position)

/-- What a search has at a position before it goes on. -/
def stage (text : List Char) (regex : Regex) (position : Nat) (threads : List Thread)
    (found : Option Marks) : Advance :=
  advance position (neighbours text position) [] (remaining regex threads found)

theorem search_eq_scan (text : List Char) (regex : Regex) :
    regex.search text = scan text regex 0 [] none := rfl

theorem scan_length (text : List Char) (regex : Regex) (threads : List Thread)
    (found : Option Marks) :
    scan text regex text.length threads found =
      (stage text regex text.length threads found).finished.or found := by
  have at_ : neighbours text text.length = ⟨(neighbours text text.length).before, none⟩ := by
    simp [neighbours]
  rw [scan, List.drop_length, searchFrom, stage, at_]

theorem scan_of_lt (inside : position < text.length) (regex : Regex) (threads : List Thread)
    (found : Option Marks) :
    scan text regex position threads found =
      scan text regex (position + 1) (stage text regex position threads found).threads
        ((stage text regex position threads found).finished.or found) := by
  have at_ : neighbours text position =
      ⟨(neighbours text position).before, some text[position]⟩ := by simp [neighbours]
  have before : (neighbours text (position + 1)).before = some text[position] := by
    simp [neighbours]
  rw [scan, List.drop_eq_getElem_cons inside, searchFrom, scan, before, stage, ← at_]

theorem stage_sound (inText : position ≤ text.length)
    (stand : ∀ thread ∈ threads, thread.Stands text regex position) (found : Option Marks) :
    (stage text regex position threads found).Sound text regex position :=
  advance_sound (fun _ mem => remains_of_mem_remaining stand inText mem) (List.forall_mem_nil _)

/-- What was found at a position or before is a match. -/
theorem Advance.Sound.or {ahead : Advance} (sound : ahead.Sound text regex position)
    (before : ∀ marks, found = some marks → Found text regex marks) (marks : Marks)
    (eq : ahead.finished.or found = some marks) : Found text regex marks := by
  rcases Option.or_eq_some_iff.mp eq with now | ⟨-, earlier⟩
  · exact sound.found now
  · exact before _ earlier

theorem scan_sound (inText : position ≤ text.length)
    (stand : ∀ thread ∈ threads, thread.Stands text regex position)
    (before : ∀ marks, found = some marks → Found text regex marks) {marks : Marks}
    (result : scan text regex position threads found = some marks) : Found text regex marks := by
  obtain ⟨left, length⟩ := Nat.exists_eq_add_of_le inText
  induction left generalizing position threads found with
  | zero =>
    obtain rfl : position = text.length := by omega
    exact (stage_sound inText stand found).or before _ (scan_length .. ▸ result)
  | succ left ih =>
    have inside : position < text.length := by omega
    have sound := stage_sound inText stand found
    rw [scan_of_lt inside] at result
    exact ih inside sound.stand (sound.or before) result (by omega)

/-- There is a match still to come at a position, or one was found: some thread has one left, or one
begins there or later. -/
def Pending (text : List Char) (regex : Regex) (position : Nat) (threads : List Thread)
    (found : Option Marks) : Prop :=
  found.isSome = true ∨
    (∃ thread ∈ threads, ∃ j marks, Matches text thread.rest position j marks) ∨
    ∃ i j marks, position ≤ i ∧ i ≤ text.length ∧ Matches text regex i j marks

/-- A match still to come is found at the position, or is still to come behind the next character. -/
theorem Pending.stage (pending : Pending text regex position threads found)
    (free : regex.IsFree) (determined : regex.Determined) (inText : position ≤ text.length)
    (stand : ∀ thread ∈ threads, thread.Stands text regex position) :
    ((stage text regex position threads found).finished.or found).isSome = true ∨
      position < text.length ∧
        Pending text regex (position + 1) (stage text regex position threads found).threads
          ((stage text regex position threads found).finished.or found) := by
  set ahead := Regex.stage text regex position threads found with eq
  -- A part that can be matched here has finished, or has a thread at one of its places.
  have follow {rest : Regex} {marks : Marks} {j : Nat} {later : Marks}
      (mem : (rest, marks) ∈ remaining regex threads found) (restFree : rest.IsFree)
      (matched : Matches text rest position j later) :
      (ahead.finished.or found).isSome = true ∨ position < text.length ∧
        Pending text regex (position + 1) ahead.threads (ahead.finished.or found) := by
    rcases advance_complete [] mem restFree matched with
      now | ⟨inside, place, behind, isPlace, goesOn, thread, alive, rfl⟩
    · exact .inl (Option.isSome_or.trans (Bool.or_eq_true_iff.mpr (.inl now)))
    · have places := (remains_of_mem_remaining stand inText mem).places
      have same : thread.rest = behind :=
        determined _ _ _ ((stage_sound inText stand found).stand thread alive).place (places isPlace)
      exact .inr ⟨inside, .inr (.inl ⟨thread, alive, same ▸ goesOn⟩)⟩
  rcases pending with done | ⟨thread, mem, j, marks, matched⟩ | ⟨i, j, marks, le, inText', matched⟩
  · exact .inl (by simp [done])
  · exact follow (List.mem_append_left _ (List.mem_map.mpr ⟨thread, mem, rfl⟩))
      (free.of_mem_places (stand thread mem).place) matched
  · rcases Nat.eq_or_lt_of_le le with rfl | lt
    · cases found with
      | some marks => exact .inl (by simp)
      | none => exact follow (List.mem_append_right _ (List.mem_singleton_self _)) free matched
    · exact .inr ⟨Nat.lt_of_lt_of_le lt inText', .inr (.inr ⟨i, j, marks, lt, inText', matched⟩)⟩

theorem scan_complete (pending : Pending text regex position threads found)
    (free : regex.IsFree) (determined : regex.Determined) (inText : position ≤ text.length)
    (stand : ∀ thread ∈ threads, thread.Stands text regex position) :
    (scan text regex position threads found).isSome = true := by
  obtain ⟨left, length⟩ := Nat.exists_eq_add_of_le inText
  have ahead := pending.stage free determined inText stand
  induction left generalizing position threads found with
  | zero =>
    obtain rfl : position = text.length := by omega
    rw [scan_length]
    exact ahead.resolve_right fun later => Nat.lt_irrefl _ later.1
  | succ left ih =>
    have inside : position < text.length := by omega
    have sound := stage_sound inText stand found
    rw [scan_of_lt inside]
    have next := ahead.elim (fun now => .inl now) (·.2)
    exact ih next inside sound.stand (by omega) (next.stage free determined inside sound.stand)

end Scan

/-- The marks that a search gives are those of a match. -/
theorem found_of_search (regex : Regex) {marks : Marks} (result : regex.search text = some marks) :
    Found text regex marks := by
  rw [search_eq_scan] at result
  refine scan_sound (Nat.zero_le _) (List.forall_mem_nil _) (fun marks eq => ?_) result
  cases eq

/-- A search finds a match of an expression without nodes whenever there is one. -/
theorem isSome_search_iff (free : regex.IsFree) (determined : regex.Determined) :
    (regex.search text).isSome = true ↔ ∃ marks, Found text regex marks := by
  constructor
  · intro some
    obtain ⟨marks, result⟩ := Option.isSome_iff_exists.mp some
    exact ⟨marks, found_of_search regex result⟩
  · rintro ⟨marks, i, j, inText, matched⟩
    have pending : Pending text regex 0 [] none :=
      .inr (.inr ⟨i, j, marks, Nat.zero_le _, inText, matched⟩)
    exact scan_complete pending free determined (Nat.zero_le _) (List.forall_mem_nil _)

end Acceptance.Regex
