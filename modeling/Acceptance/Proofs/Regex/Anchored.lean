import Acceptance.Proofs.Regex.Language
import Acceptance.Proofs.Regex.Reading
import Acceptance.Proofs.Regex.Search
import Acceptance.Proofs.Regex.Simplify

/-!
# Expressions for whole texts

An expression between the marks for the ends of a text. As it is written it is read part by part, and it
is found in a text exactly if the text is a word of the language of its parts.
-/

namespace Acceptance.Regex

namespace Reading

theorem parts_foldl_add (read : List Part) (draft : Draft) :
    read.foldl Draft.add draft =
      { alternatives := draft.alternatives, parts := read.reverse ++ draft.parts } := by
  induction read generalizing draft with
  | nil => rfl
  | cons part read ih => rw [List.foldl_cons, ih, List.reverse_cons, List.append_assoc]; rfl

theorem foldl_max_le {bound : Nat} (parts : List Part) (shallow : ∀ part ∈ parts, part.depth ≤ bound)
    (depth : Nat) (start : depth ≤ bound) :
    parts.foldl (fun depth part => max depth part.depth) depth ≤ bound := by
  induction parts generalizing depth with
  | nil => exact start
  | cons part parts ih =>
    obtain ⟨first, others⟩ := List.forall_mem_cons.mp shallow
    exact ih others _ (Nat.max_le.mpr ⟨start, first⟩)

/-- What is read between the ends of the text is closed as the sequence of its parts. -/
theorem close_ends (read : List Part) (shallow : ∀ part ∈ read, part.depth ≤ 6) :
    ∃ depth, depth ≤ 7 ∧
      ((read.foldl Draft.add (({} : Draft).add { tree := .look .textStart })).add
        { tree := .look .textEnd }).close =
      { tree := Tree.choice
          [Tree.sequence (.look .textStart :: (read.map Part.tree ++ [.look .textEnd]))], depth } := by
  let parts : List Part :=
    { tree := .look .textEnd } :: (read.reverse ++ [{ tree := .look .textStart }])
  have trees : parts.reverse.map Part.tree =
      .look .textStart :: (read.map Part.tree ++ [.look .textEnd]) := by simp [parts]
  have depths : ∀ part ∈ parts, part.depth ≤ 6 := by
    intro part mem
    simp only [parts, List.mem_cons, List.mem_append, List.mem_reverse, List.not_mem_nil,
      or_false] at mem
    rcases mem with rfl | mem | rfl
    · exact Nat.zero_le _
    · exact shallow part mem
    · exact Nat.zero_le _
  refine ⟨(Draft.combine .sequence parts).depth, ?_, ?_⟩
  · have bound := foldl_max_le parts depths 0 (Nat.zero_le _)
    unfold Draft.combine
    simp only
    split <;> omega
  · rw [parts_foldl_add, ← trees]
    simp [Draft.close, Draft.nextAlternative, Draft.combine, Draft.add, parts]

/-- What is written between the marks for the ends of a text is read as the expression of its parts, if
they are read one after another as parts that match the same. -/
theorem exists_parse?_anchored {inner : List Char} {trees : List Tree} {read : List Part}
    {used groups : Nat} (enough : used ≤ inner.length) (shallow : ∀ part ∈ read, part.depth ≤ 6)
    (agree : List.Forall₂ Tree.Agrees (read.map Part.tree) trees)
    (reads : ∀ rounds draft, readFrom (rounds + used) (plain draft [] 0) (inner ++ ['$']) =
      readFrom rounds (plain (read.foldl Draft.add draft) [] groups) ['$']) :
    ∃ written, parse? (String.ofList ('^' :: (inner ++ ['$']))) = some written ∧
      written.groups = groups ∧ written.tree.Agrees (.anchored trees) := by
  obtain ⟨depth, small, closed⟩ := close_ends read shallow
  obtain ⟨spare, total⟩ := Nat.exists_eq_add_of_le' enough
  have reading : Reading.readFrom ((String.ofList ('^' :: (inner ++ ['$']))).length + 1) {}
      (String.ofList ('^' :: (inner ++ ['$']))).toList =
      some (plain ((read.foldl Draft.add (({} : Draft).add { tree := .look .textStart })).add
        { tree := .look .textEnd }) [] groups) := by
    have length : (String.ofList ('^' :: (inner ++ ['$']))).length + 1 =
        spare + 1 + 1 + used + 1 := by
      rw [String.length_ofList, List.length_cons, List.length_append, total]
      simp only [List.length_singleton]
      omega
    rw [length, String.toList_ofList]
    have start : ({} : Reading) = plain {} [] 0 := rfl
    rw [start, readFrom_start, reads, readFrom_end, readFrom_nil]
  refine ⟨⟨Tree.sequence (.look .textStart :: (read.map Part.tree ++ [.look .textEnd])), groups⟩,
    ?_, rfl, ?_⟩
  · have shallow : depth ≤ maxNesting := by unfold maxNesting; omega
    simp only [parse?, reading, Option.bind_eq_bind, Option.bind_some, plain, closed,
      Tree.choice_singleton (Tree.sequence_look_ne_alt _ _), if_pos shallow]
  · have ends : List.Forall₂ Tree.Agrees [Tree.look .textEnd] [.look .textEnd] :=
      .cons (.refl _) .nil
    exact (Tree.agrees_sequence _).trans
      (Tree.agrees_chain (.cons (.refl _) (List.rel_append agree ends)))

end Reading

section Matches

variable {text : List Char} {i j : Nat} {marks : Marks} {trees : List Tree}

theorem textEnd_holds : Look.textEnd.holds (neighbours text i) = true ↔ text.length ≤ i := by
  simp [Look.holds, neighbours]

theorem textStart_holds (inText : i ≤ text.length) :
    Look.textStart.holds (neighbours text i) = true ↔ i = 0 := by
  cases i with
  | zero => simp [Look.holds, neighbours]
  | succ i => simp [Look.holds, neighbours]; omega

theorem matches_anchored :
    (Tree.anchored trees).Matches text i j marks ↔
      Look.textStart.holds (neighbours text i) = true ∧
        (Tree.chain (trees ++ [.look .textEnd])).Matches text i j marks := by
  rw [Tree.anchored, Tree.matches_chain_cons]
  constructor
  · rintro ⟨_, _, later, ⟨starts, rfl, rfl⟩, matched, rfl⟩
    exact ⟨starts, by rwa [List.append_nil]⟩
  · rintro ⟨starts, matched⟩
    exact ⟨i, [], marks, ⟨starts, rfl, rfl⟩, matched, by simp⟩

theorem loopsTake_anchored (take : ∀ tree ∈ trees, tree.LoopsTake) :
    (Tree.anchored trees).LoopsTake := by
  refine Tree.loopsTake_chain (List.forall_mem_cons.mpr ⟨trivial, fun tree mem => ?_⟩)
  rcases List.mem_append.mp mem with mem | mem
  · exact take tree mem
  · rw [List.mem_singleton.mp mem]
    trivial

/-- An expression for whole texts is found where it matches from the start of the text to its end. -/
theorem isSome_search_anchored (take : ∀ tree ∈ trees, tree.LoopsTake) :
    ((Tree.anchored trees).compile.search text).isSome = true ↔
      ∃ j marks, (Tree.chain (trees ++ [.look .textEnd])).Matches text 0 j marks := by
  have free : (Tree.anchored trees).compile.IsFree :=
    Tree.isFree_compileFrom (loopsTake_anchored take) 0
  rw [isSome_search_iff free (Tree.determined_compile _)]
  constructor
  · rintro ⟨marks, i, j, inText, matched⟩
    obtain ⟨starts, matched⟩ := matches_anchored.mp (matches_compileFrom.mp matched)
    obtain rfl := (textStart_holds inText).mp starts
    exact ⟨j, marks, matched⟩
  · rintro ⟨j, marks, matched⟩
    have starts := (textStart_holds (Nat.zero_le text.length)).mpr rfl
    exact ⟨marks, 0, j, Nat.zero_le _,
      matches_compileFrom.mpr (matches_anchored.mpr ⟨starts, matched⟩)⟩

/-- An expression for whole texts is found in the words of the language of its parts. -/
theorem isSome_search_iff_mem {language : Language Char} (take : ∀ tree ∈ trees, tree.LoopsTake)
    (denotes : (Tree.chain trees).Denotes language) :
    ((Tree.anchored trees).compile.search text).isSome = true ↔ text ∈ language := by
  have parts {j : Nat} {marks : Marks} := Tree.agrees_chain_append trees [.look .textEnd] text 0 j marks
  simp only [isSome_search_anchored take, parts, Tree.Matches, Tree.chain, denotes text]
  constructor
  · rintro ⟨_, _, k, _, _, ⟨rfl, word, mem, spells⟩, ⟨ends, -, -⟩, -⟩
    have whole : text = word := by
      simpa [List.drop_eq_nil_of_le (textEnd_holds.mp ends)] using spells.drop
    rwa [whole]
  · intro mem
    have spells : Spells text 0 text.length text := ⟨by simp, by simp⟩
    exact ⟨text.length, [], text.length, [], [], ⟨rfl, text, mem, spells⟩,
      ⟨textEnd_holds.mpr le_rfl, rfl, rfl⟩, rfl⟩

end Matches

end Acceptance.Regex
