import Acceptance.Regex.Parser

/-!
# Reading sign by sign

What a reader does with each of the signs of an expression while no flags are set and no group has a
name.
-/

namespace Acceptance.Regex.Reading

/-- How far a reader has come that met no flags and no names. -/
def plain (draft : Draft) (outer : List Enclosing) (groups : Nat) : Reading := { draft, outer, groups }

variable {rounds groups : Nat} {draft : Draft} {outer : List Enclosing} {rest : List Char} {c : Char}

@[simp] theorem skipSpace_default (text : List Char) : Flags.skipSpace {} text = text := by
  cases text <;> simp [Flags.skipSpace, Flags.readRun]

/-- A round takes the next part or sign. -/
theorem readFrom_cons {reading : Reading} {after : List Char}
    (next : next? rounds (plain draft outer groups) (c :: rest) = some (reading, after)) :
    readFrom (rounds + 1) (plain draft outer groups) (c :: rest) = readFrom rounds reading after := by
  have flags : (plain draft outer groups).flags = {} := rfl
  simp [readFrom, flags, next]

theorem readFrom_nil : readFrom (rounds + 1) (plain draft [] groups) [] =
    some (plain draft [] groups) := by
  simp [readFrom, plain]

theorem readFrom_capturing (named : c ≠ '?') :
    readFrom (rounds + 1) (plain draft outer groups) ('(' :: c :: rest) =
      readFrom rounds (plain {} (⟨draft, {}, some (groups + 1)⟩ :: outer) (groups + 1)) (c :: rest) := by
  refine readFrom_cons ?_
  simp [next?, plain, readOpening, open?, named]

theorem readFrom_plain :
    readFrom (rounds + 1) (plain draft outer groups) ('(' :: '?' :: ':' :: rest) =
      readFrom rounds (plain {} (⟨draft, {}, none⟩ :: outer) groups) rest := by
  refine readFrom_cons ?_
  simp [next?, plain, readOpening, open?, Flags.withLetters?]

theorem readFrom_close {around : Draft} {number : Option Nat} :
    readFrom (rounds + 1) (plain draft (⟨around, {}, number⟩ :: outer) groups) (')' :: rest) =
      readFrom rounds
        (plain (around.add
          { tree := match number with
              | some number => .group number draft.close.tree
              | none => draft.close.tree
            depth := draft.close.depth + 1 }) outer groups) rest := by
  cases number <;> exact readFrom_cons rfl

theorem readFrom_alternative :
    readFrom (rounds + 1) (plain draft outer groups) ('|' :: rest) =
      readFrom rounds (plain draft.nextAlternative outer groups) rest :=
  readFrom_cons rfl

section Repetition

variable {part : Part}

theorem repeat?_greedy (repeatable : part.repeatable = true) (least : Nat) (most : Option Nat)
    (greedy : c ≠ '?') :
    repeat? (plain (draft.add part) outer groups) least most (c :: rest) =
      some (plain (draft.add
        { tree := .repeated least most true part.tree, depth := part.depth + 1 }) outer groups,
          c :: rest) := by
  simp [repeat?, plain, Draft.repeatLast?, Draft.add, repeatable, greedy]

theorem readFrom_zeroOrMore (repeatable : part.repeatable = true) (greedy : c ≠ '?') :
    readFrom (rounds + 1) (plain (draft.add part) outer groups) ('*' :: c :: rest) =
      readFrom rounds (plain (draft.add
        { tree := .repeated 0 none true part.tree, depth := part.depth + 1 }) outer groups)
          (c :: rest) :=
  readFrom_cons (repeat?_greedy repeatable 0 none greedy)

theorem readFrom_oneOrMore (repeatable : part.repeatable = true) (greedy : c ≠ '?') :
    readFrom (rounds + 1) (plain (draft.add part) outer groups) ('+' :: c :: rest) =
      readFrom rounds (plain (draft.add
        { tree := .repeated 1 none true part.tree, depth := part.depth + 1 }) outer groups)
          (c :: rest) :=
  readFrom_cons (repeat?_greedy repeatable 1 none greedy)

theorem readFrom_optional (repeatable : part.repeatable = true) (greedy : c ≠ '?') :
    readFrom (rounds + 1) (plain (draft.add part) outer groups) ('?' :: c :: rest) =
      readFrom rounds (plain (draft.add
        { tree := .repeated 0 (some 1) true part.tree, depth := part.depth + 1 }) outer groups)
          (c :: rest) :=
  readFrom_cons (repeat?_greedy repeatable 0 (some 1) greedy)

theorem readFrom_lazy (repeatable : part.repeatable = true) :
    readFrom (rounds + 1) (plain (draft.add part) outer groups) ('*' :: '?' :: rest) =
      readFrom rounds (plain (draft.add
        { tree := .repeated 0 none false part.tree, depth := part.depth + 1 }) outer groups)
          rest := by
  refine readFrom_cons ?_
  simp [next?, repeat?, plain, Draft.repeatLast?, Draft.add, repeatable]

end Repetition

theorem readFrom_start :
    readFrom (rounds + 1) (plain draft outer groups) ('^' :: rest) =
      readFrom rounds (plain (draft.add { tree := .look .textStart }) outer groups) rest :=
  readFrom_cons rfl

theorem readFrom_end :
    readFrom (rounds + 1) (plain draft outer groups) ('$' :: rest) =
      readFrom rounds (plain (draft.add { tree := .look .textEnd }) outer groups) rest :=
  readFrom_cons rfl

theorem readFrom_dot :
    readFrom (rounds + 1) (plain draft outer groups) ('.' :: rest) =
      readFrom rounds (plain (draft.add { tree := .ofSet (CharSet.single '\n').compl }) outer groups)
        rest :=
  readFrom_cons rfl

/-- A class that is written as a letter behind a backslash. -/
theorem readFrom_class {set : CharSet}
    (known : readEscape {} (c :: rest) = some (.charClass set, rest)) :
    readFrom (rounds + 1) (plain draft outer groups) ('\\' :: c :: rest) =
      readFrom rounds (plain (draft.add { tree := .ofSet set }) outer groups) rest := by
  refine readFrom_cons ?_
  simp [next?, known, plain, Reading.add, Primitive.toTree]

/-- A character that means itself. -/
theorem readFrom_character (ordinary : isMeta c = false) :
    readFrom (rounds + 1) (plain draft outer groups) (c :: rest) =
      readFrom rounds (plain (draft.add { tree := .literal [c] }) outer groups) rest := by
  refine readFrom_cons ?_
  simp [isMeta] at ordinary
  simp [next?, ordinary, plain, Reading.add, Flags.character]

/-- A character that is escaped stands for itself. -/
theorem readFrom_escaped (sign : isMeta c = true) :
    readFrom (rounds + 1) (plain draft outer groups) ('\\' :: c :: rest) =
      readFrom rounds (plain (draft.add { tree := .literal [c] }) outer groups) rest := by
  have escapable : isEscapable c = true := by
    simp [isMeta] at sign
    rcases sign with rfl | rfl | rfl | rfl | rfl | rfl | rfl | rfl | rfl | rfl | rfl | rfl | rfl |
      rfl | rfl | rfl | rfl | rfl <;> decide
  refine readFrom_cons ?_
  simp [next?, readEscape, escapable, plain, Reading.add, Primitive.toTree, Flags.character]

/-- A class of all characters but an ordinary one. -/
theorem readFrom_without (ordinary : isMeta c = false) :
    readFrom (rounds + 3) (plain draft outer groups) ('[' :: '^' :: c :: ']' :: rest) =
      readFrom (rounds + 2) (plain
        (draft.add { tree := .ofSet (CharSet.unions [.single c]).compl, depth := 1 }) outer groups)
        rest := by
  refine readFrom_cons ?_
  simp [isMeta] at ordinary
  simp [next?, plain, Bracket.read, Bracket.opening, Flags.readWhile, Flags.readRun,
    Bracket.readFrom, readClassOperator, readRange, readClassItem, Primitive.set?, Flags.allow?,
    Bracket.add, Bracket.close?, Bracket.value, Bracket.joined, Flags.classOf?, Flags.caseClosed,
    Reading.add, ordinary]

theorem readFrom_signs :
    readFrom (rounds + 4) (plain draft outer groups) ('[' :: '+' :: '-' :: ']' :: rest) =
      readFrom (rounds + 3) (plain
        (draft.add { tree := .ofSet (CharSet.unions [.single '-', .single '+']), depth := 2 })
        outer groups) rest :=
  readFrom_cons rfl

end Acceptance.Regex.Reading
