import Acceptance.Regex
import Mathlib.Data.List.Basic

/-!
# What an expression matches

The relation between an expression and the parts of a text that it matches, with the marks that are
passed on the way. It knows of no threads and no order of preference. The branches of an expression at
a position are one way to follow it: every branch leads to a match, and every match of an expression
without nodes is reached by a branch.
-/

namespace Acceptance.Regex

/-- The characters on both sides of a position in a text. -/
def neighbours (text : List Char) (position : Nat) : Neighbours where
  before := match position with
    | 0 => none
    | earlier + 1 => text[earlier]?
  after := text[position]?

/-- An expression matches a text between two positions and passes marks there, the latest first. -/
inductive Matches (text : List Char) : Regex → Nat → Nat → Marks → Prop
  | empty {i} : Matches text .empty i i []
  | look {condition i} (holds : condition.holds (neighbours text i) = true) :
    Matches text (.look condition) i i []
  | mark {slot i} : Matches text (.mark slot) i i [(slot, i)]
  | one {place set i c} (next : text[i]? = some c) (inside : set.contains c = true) :
    Matches text (.one place set) i (i + 1) []
  | seq {left right i j k marks later} (first : Matches text left i j marks)
    (second : Matches text right j k later) : Matches text (.seq left right) i k (later ++ marks)
  | left {node left right i j marks} (taken : Matches text left i j marks) :
    Matches text (.alt node left right) i j marks
  | right {node left right i j marks} (taken : Matches text right i j marks) :
    Matches text (.alt node left right) i j marks
  | done {node greedy body i} : Matches text (.again node greedy body) i i []
  | more {node greedy body i j k marks later} (round : Matches text body i j marks)
    (others : Matches text (.again node greedy body) j k later) :
    Matches text (.again node greedy body) i k (later ++ marks)

variable {text : List Char} {i j : Nat} {marks : Marks}

section Inversion

@[simp] theorem matches_empty : Matches text .empty i j marks ↔ j = i ∧ marks = [] := by
  constructor
  · rintro ⟨⟩
    exact ⟨rfl, rfl⟩
  · rintro ⟨rfl, rfl⟩
    exact .empty

@[simp] theorem matches_look {condition : Look} :
    Matches text (.look condition) i j marks ↔
      condition.holds (neighbours text i) = true ∧ j = i ∧ marks = [] := by
  constructor
  · rintro ⟨⟩
    exact ⟨‹_›, rfl, rfl⟩
  · rintro ⟨holds, rfl, rfl⟩
    exact .look holds

@[simp] theorem matches_mark {slot : Nat} :
    Matches text (.mark slot) i j marks ↔ j = i ∧ marks = [(slot, i)] := by
  constructor
  · rintro ⟨⟩
    exact ⟨rfl, rfl⟩
  · rintro ⟨rfl, rfl⟩
    exact .mark

@[simp] theorem matches_one {place : Nat} {set : CharSet} :
    Matches text (.one place set) i j marks ↔
      ∃ c, text[i]? = some c ∧ set.contains c = true ∧ j = i + 1 ∧ marks = [] := by
  constructor
  · rintro ⟨⟩
    exact ⟨_, ‹_›, ‹_›, rfl, rfl⟩
  · rintro ⟨c, next, inside, rfl, rfl⟩
    exact .one next inside

theorem matches_seq {left right : Regex} :
    Matches text (.seq left right) i j marks ↔
      ∃ k earlier later, Matches text left i k earlier ∧ Matches text right k j later ∧
        marks = later ++ earlier := by
  constructor
  · rintro ⟨⟩
    exact ⟨_, _, _, ‹_›, ‹_›, rfl⟩
  · rintro ⟨k, earlier, later, first, second, rfl⟩
    exact .seq first second

theorem matches_alt {node : Option Nat} {left right : Regex} :
    Matches text (.alt node left right) i j marks ↔
      Matches text left i j marks ∨ Matches text right i j marks := by
  constructor
  · rintro (⟨⟩ | ⟨⟩)
    · exact .inl ‹_›
    · exact .inr ‹_›
  · rintro (taken | taken)
    · exact .left taken
    · exact .right taken

theorem matches_followedBy {left right : Regex} :
    Matches text (followedBy left right) i j marks ↔ Matches text (.seq left right) i j marks := by
  cases left <;> simp [followedBy, matches_seq]

end Inversion

section Pass

theorem Marks.pass_append (position : Nat) (first second : List Nat) (marks : Marks) :
    marks.pass position (first ++ second) = (marks.pass position first).pass position second :=
  List.foldl_append

/-- Marks that are passed come before the earlier ones. -/
theorem Marks.pass_eq (position : Nat) (slots : List Nat) (marks : Marks) :
    marks.pass position slots = Marks.pass position slots [] ++ marks := by
  induction slots generalizing marks with
  | nil => rfl
  | cons slot slots ih =>
    calc marks.pass position (slot :: slots)
        = Marks.pass position slots ((slot, position) :: marks) := rfl
      _ = Marks.pass position slots [] ++ ([(slot, position)] ++ marks) := ih _
      _ = Marks.pass position (slot :: slots) [] ++ marks := by
        rw [← List.append_assoc, ← ih [(slot, position)]]
        rfl

end Pass

namespace Branch

/-- What can be matched on a branch: nothing where it finishes, and else a character of its set with a
match of the rest behind it. -/
def Leads (text : List Char) (i j : Nat) (marks : Marks) : Branch → Prop
  | finish slots _ => j = i ∧ marks = Marks.pass i slots []
  | take slots _ set rest =>
    ∃ c later, text[i]? = some c ∧ set.contains c = true ∧ Matches text rest (i + 1) j later ∧
      marks = later ++ Marks.pass i slots []

theorem leads_passing {branch : Branch} {slots : List Nat} :
    (branch.passing slots).Leads text i j marks ↔
      ∃ later, branch.Leads text i j later ∧ marks = later ++ Marks.pass i slots [] := by
  have passed (more : List Nat) :
      Marks.pass i (slots ++ more) [] = Marks.pass i more [] ++ Marks.pass i slots [] := by
    rw [Marks.pass_append, Marks.pass_eq]
  cases branch with
  | finish more met => simp only [passing, Leads, passed]; aesop
  | take more place set rest =>
    simp only [passing, Leads, passed]
    constructor
    · rintro ⟨c, later, next, inside, matched, rfl⟩
      exact ⟨_, ⟨c, later, next, inside, matched, rfl⟩, by simp⟩
    · rintro ⟨_, ⟨c, later, next, inside, matched, rfl⟩, rfl⟩
      exact ⟨c, later, next, inside, matched, by simp⟩

/-- A branch on which the rest is followed by another expression leads as far as the two do. -/
theorem leads_take_followedBy {slots : List Nat} {place : Nat} {set : CharSet} {rest next : Regex} :
    (take slots place set (followedBy rest next)).Leads text i j marks ↔
      ∃ k earlier later, (take slots place set rest).Leads text i k earlier ∧
        Matches text next k j later ∧ marks = later ++ earlier := by
  simp only [Leads, matches_followedBy, matches_seq]
  constructor
  · rintro ⟨c, _, following, inside, ⟨k, earlier, later, first, second, rfl⟩, rfl⟩
    exact ⟨k, _, later, ⟨c, earlier, following, inside, first, rfl⟩, second, by simp⟩
  · rintro ⟨k, _, later, ⟨c, earlier, following, inside, first, rfl⟩, second, rfl⟩
    exact ⟨c, _, following, inside, ⟨k, earlier, later, first, second, rfl⟩, by simp⟩

end Branch

section Members

variable {branch : Branch}

/-- A part that goes on is followed by the next one, and where it finishes the next one begins. -/
theorem mem_continueWith {next : Regex} {nextBranches : List Nat → List Branch}
    {list : List Branch} :
    branch ∈ continueWith next nextBranches list ↔
      (∃ slots place set rest, .take slots place set rest ∈ list ∧
        branch = .take slots place set (followedBy rest next)) ∨
      ∃ slots met later, .finish slots met ∈ list ∧ later ∈ nextBranches met ∧
        branch = later.passing slots := by
  induction list with
  | nil => simp [continueWith]
  | cons head tail ih =>
    cases head with
    | take slots place set rest =>
      simp only [continueWith, List.mem_cons, ih, reduceCtorEq, false_or]
      constructor
      · rintro (rfl | ⟨slots, place, set, rest, found, rfl⟩ | reached)
        · exact .inl ⟨_, _, _, _, .inl rfl, rfl⟩
        · exact .inl ⟨_, _, _, _, .inr found, rfl⟩
        · exact .inr reached
      · rintro (⟨slots, place, set, rest, here | found, rfl⟩ | reached)
        · cases here
          exact .inl rfl
        · exact .inr (.inl ⟨_, _, _, _, found, rfl⟩)
        · exact .inr (.inr reached)
    | finish slots met =>
      simp only [continueWith, List.mem_append, List.mem_map, List.mem_cons, ih, reduceCtorEq,
        false_or]
      constructor
      · rintro (⟨later, reached, rfl⟩ | taken | ⟨slots, met, later, found, reached, rfl⟩)
        · exact .inr ⟨_, _, later, .inl rfl, reached, rfl⟩
        · exact .inl taken
        · exact .inr ⟨_, _, later, .inr found, reached, rfl⟩
      · rintro (taken | ⟨slots, met, later, here | found, reached, rfl⟩)
        · exact .inr (.inl taken)
        · cases here
          exact .inl ⟨later, reached, rfl⟩
        · exact .inr (.inr ⟨_, _, later, found, reached, rfl⟩)

theorem mem_of_mem_eitherOf {first second : List Branch} (mem : branch ∈ eitherOf first second) :
    branch ∈ first ∨ branch ∈ second := by
  unfold eitherOf at mem
  split at mem
  · exact (List.mem_append.mp mem).imp_right List.mem_of_mem_filter
  · exact List.mem_append.mp mem

/-- Of the branches of two alternatives only one that finishes may be left out, for another one. -/
theorem mem_eitherOf_or {first second : List Branch} (mem : branch ∈ first ∨ branch ∈ second) :
    branch ∈ eitherOf first second ∨
      branch.isFinish = true ∧ ∃ other ∈ eitherOf first second, other.isFinish = true := by
  unfold eitherOf
  rcases mem with mem | mem
  · exact .inl (List.mem_append_left _ mem)
  · split
    next found =>
      obtain ⟨other, inFirst, finishes⟩ := List.any_eq_true.mp found
      cases kind : branch.isFinish with
      | true => exact .inr ⟨rfl, other, List.mem_append_left _ inFirst, finishes⟩
      | false =>
        exact .inl (List.mem_append_right _ (List.mem_filter.mpr ⟨mem, by simp [kind]⟩))
    next => exact .inl (List.mem_append_right _ mem)

theorem mem_rounds {loop : Regex} {list : List Branch} :
    branch ∈ rounds loop list ↔
      ∃ slots place set rest, .take slots place set rest ∈ list ∧
        branch = .take slots place set (followedBy rest loop) := by
  simp only [rounds, List.mem_filterMap]
  constructor
  · rintro ⟨head, mem, made⟩
    cases head with
    | finish => cases made
    | take slots place set rest => exact ⟨slots, place, set, rest, mem, (Option.some.inj made).symm⟩
  · rintro ⟨slots, place, set, rest, mem, rfl⟩
    exact ⟨_, mem, rfl⟩

theorem mem_branches_alt {at_ : Neighbours} {node : Option Nat} {left right : Regex}
    {met : List Nat} :
    branch ∈ branches at_ (.alt node left right) met ↔
      ∃ here, meet? node met = some here ∧
        branch ∈ eitherOf (branches at_ left here) (branches at_ right here) := by
  rw [branches]
  cases meet? node met <;> simp

/-- A loop goes into another round or ends. -/
theorem mem_branches_again {at_ : Neighbours} {node : Option Nat} {greedy : Bool} {body : Regex}
    {met : List Nat} :
    branch ∈ branches at_ (.again node greedy body) met ↔
      ∃ here, meet? node met = some here ∧
        (branch ∈ rounds (.again node greedy body) (branches at_ body here) ∨
          branch = .finish [] here) := by
  rw [branches]
  cases meet? node met with
  | none => simp
  | some here => cases greedy <;> simp [or_comm]

end Members

/-- A branch leads to matches of its expression only. -/
theorem matches_of_leads {regex : Regex} {met : List Nat} {branch : Branch}
    (mem : branch ∈ branches (neighbours text i) regex met)
    (leads : branch.Leads text i j marks) : Matches text regex i j marks := by
  induction regex generalizing met branch j marks with
  | empty =>
    obtain rfl := List.mem_singleton.mp mem
    obtain ⟨rfl, rfl⟩ := leads
    exact .empty
  | look condition =>
    rw [branches] at mem
    split at mem
    next holds =>
      obtain rfl := List.mem_singleton.mp mem
      obtain ⟨rfl, rfl⟩ := leads
      exact .look holds
    next => cases mem
  | mark slot =>
    obtain rfl := List.mem_singleton.mp mem
    obtain ⟨rfl, rfl⟩ := leads
    exact .mark
  | one place set =>
    obtain rfl := List.mem_singleton.mp mem
    obtain ⟨c, later, next, inside, rest, rfl⟩ := leads
    obtain ⟨rfl, rfl⟩ := matches_empty.mp rest
    exact .one next inside
  | seq left right ihLeft ihRight =>
    rcases mem_continueWith.mp mem with
      ⟨slots, place, set, rest, found, rfl⟩ | ⟨slots, here, later, found, reached, rfl⟩
    · obtain ⟨k, earlier, later, first, second, rfl⟩ := Branch.leads_take_followedBy.mp leads
      exact .seq (ihLeft found first) second
    · obtain ⟨rest, second, rfl⟩ := Branch.leads_passing.mp leads
      exact .seq (ihLeft found ⟨rfl, rfl⟩) (ihRight reached second)
  | alt node left right ihLeft ihRight =>
    obtain ⟨here, -, mem⟩ := mem_branches_alt.mp mem
    rcases mem_of_mem_eitherOf mem with found | found
    · exact .left (ihLeft found leads)
    · exact .right (ihRight found leads)
  | again node greedy body ih =>
    obtain ⟨here, -, more | rfl⟩ := mem_branches_again.mp mem
    · obtain ⟨slots, place, set, rest, found, rfl⟩ := mem_rounds.mp more
      obtain ⟨k, earlier, later, round, others, rfl⟩ := Branch.leads_take_followedBy.mp leads
      exact .more (ih found round) others
    · obtain ⟨rfl, rfl⟩ := leads
      exact .done

/-- An expression none of whose parts has a node. -/
def IsFree : Regex → Prop
  | empty | look _ | mark _ | one .. => True
  | seq left right => left.IsFree ∧ right.IsFree
  | alt node left right => node = none ∧ left.IsFree ∧ right.IsFree
  | again node _ body => node = none ∧ body.IsFree

/-- What one of two alternatives leads to, one of their common branches leads to. -/
theorem exists_leads_alt {left right : Regex} {met : List Nat} {branch : Branch}
    (found : branch ∈ branches (neighbours text i) left met ∨
      branch ∈ branches (neighbours text i) right met)
    (leads : branch.Leads text i j marks) :
    ∃ branch ∈ branches (neighbours text i) (.alt none left right) met,
      ∃ passed, branch.Leads text i j passed := by
  rcases mem_eitherOf_or found with mem | ⟨finishes, other, mem, otherFinishes⟩
  · exact ⟨branch, mem_branches_alt.mpr ⟨met, rfl, mem⟩, marks, leads⟩
  · cases branch with
    | take => cases finishes
    | finish slots here =>
      cases other with
      | take => cases otherFinishes
      | finish more there =>
        exact ⟨_, mem_branches_alt.mpr ⟨met, rfl, mem⟩, _, leads.1, rfl⟩

/-- Every match of an expression without nodes is reached on a branch, though marks on the way may
differ: a round that takes nothing is left out, and so is a second way to take nothing. -/
theorem exists_leads {regex : Regex} (matched : Matches text regex i j marks)
    (free : regex.IsFree) (met : List Nat) :
    ∃ branch ∈ branches (neighbours text i) regex met, ∃ passed, branch.Leads text i j passed := by
  induction matched generalizing met with
  | empty => exact ⟨_, List.mem_singleton_self _, _, rfl, rfl⟩
  | look holds =>
    refine ⟨.finish [] met, ?_, _, rfl, rfl⟩
    rw [branches, if_pos holds]
    exact List.mem_singleton_self _
  | mark => exact ⟨_, List.mem_singleton_self _, _, rfl, rfl⟩
  | one next inside =>
    exact ⟨_, List.mem_singleton_self _, _, _, _, next, inside, .empty, rfl⟩
  | seq first second ihFirst ihSecond =>
    obtain ⟨branch, found, passed, leads⟩ := ihFirst free.1 met
    cases branch with
    | finish slots here =>
      obtain ⟨rfl, rfl⟩ := leads
      obtain ⟨later, reached, rest, leads⟩ := ihSecond free.2 here
      exact ⟨_, mem_continueWith.mpr (.inr ⟨_, _, later, found, reached, rfl⟩), _,
        Branch.leads_passing.mpr ⟨rest, leads, rfl⟩⟩
    | take slots place set rest =>
      exact ⟨_, mem_continueWith.mpr (.inl ⟨_, _, _, _, found, rfl⟩), _,
        Branch.leads_take_followedBy.mpr ⟨_, _, _, leads, second, rfl⟩⟩
  | left taken ih =>
    obtain ⟨rfl, freeLeft, -⟩ := free
    obtain ⟨branch, found, passed, leads⟩ := ih freeLeft met
    exact exists_leads_alt (.inl found) leads
  | right taken ih =>
    obtain ⟨rfl, -, freeRight⟩ := free
    obtain ⟨branch, found, passed, leads⟩ := ih freeRight met
    exact exists_leads_alt (.inr found) leads
  | done =>
    obtain ⟨rfl, -⟩ := free
    exact ⟨_, mem_branches_again.mpr ⟨met, rfl, .inr rfl⟩, _, rfl, rfl⟩
  | more round others ihRound ihOthers =>
    obtain ⟨rfl, freeBody⟩ := free
    obtain ⟨branch, found, passed, leads⟩ := ihRound freeBody met
    cases branch with
    | finish slots here =>
      -- The round took nothing, and the loop goes on where it began.
      obtain ⟨rfl, rfl⟩ := leads
      exact ihOthers ⟨rfl, freeBody⟩ met
    | take slots place set rest =>
      exact ⟨_, mem_branches_again.mpr
          ⟨met, rfl, .inl (mem_rounds.mpr ⟨_, _, _, _, found, rfl⟩)⟩, _,
        Branch.leads_take_followedBy.mpr ⟨_, _, _, leads, others, rfl⟩⟩

end Acceptance.Regex
