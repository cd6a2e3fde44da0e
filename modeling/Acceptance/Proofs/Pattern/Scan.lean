import Acceptance.Pattern.Scan
import Acceptance.Proofs.Pattern.Cut

/-!
# What the scan of an expression writes

Each round of the scan takes up the pieces in front of an opening brace and the piece that begins with it. So
the scan comes to the end of every expression, never dividing it within a character, and has written the
exact cut of the expression by then.
-/

namespace Acceptance

namespace Expression

variable {chars before after front name rest : List Char} {isSought : Char → Bool} {c : Char}

/-! ## Places in a text -/

/-- The length of a text in bytes. -/
def size (chars : List Char) : Nat := (chars.map Char.utf8Size).sum

theorem size_cons (c : Char) (chars : List Char) : size (c :: chars) = c.utf8Size + size chars := by
  simp [size]

theorem place?_eq_none (hnone : ∀ c ∈ chars, isSought c = false) : place? isSought chars = none := by
  induction chars with
  | nil => rfl
  | cons c chars ih =>
      obtain ⟨hc, hchars⟩ := List.forall_mem_cons.mp hnone
      simp [place?, hc, ih hchars]

theorem forall_beq_of_notMem (hc : c ∉ chars) : ∀ d ∈ chars, (d == c) = false :=
  fun _ hd => beq_false_of_ne fun heq => hc (heq ▸ hd)

/-- The first character of a kind stands behind all that is in front of it. -/
theorem place?_append_cons (hbefore : ∀ d ∈ before, isSought d = false) (hc : isSought c = true)
    (after : List Char) : place? isSought (before ++ c :: after) = some (size before) := by
  induction before with
  | nil => simp [place?, hc, size]
  | cons d before ih =>
      obtain ⟨hd, hbefore⟩ := List.forall_mem_cons.mp hbefore
      simp [place?, hd, ih hbefore, size_cons]

/-- A text can be divided where a part of it ends. -/
theorem divide?_append (before after : List Char) :
    divide? (size before) (before ++ after) = some (before, after) := by
  induction before with
  | nil => simp [size, divide?]
  | cons c before ih =>
      obtain ⟨more, hmore⟩ := Nat.exists_eq_add_one_of_ne_zero (Nat.ne_of_gt c.utf8Size_pos)
      have hsize : size (c :: before) = more + size before + 1 := by
        rw [size_cons, hmore]
        omega
      have hleft : more + size before + 1 - c.utf8Size = size before := by omega
      rw [hsize, List.cons_append, divide?, if_pos (by omega), hleft, ih]
      rfl

theorem from?_append (before after : List Char) : from? (size before) (before ++ after) = some after := by
  rw [from?, divide?_append]
  rfl

/-- A place one further on is behind a character that takes one byte. -/
theorem divide?_append_cons (hc : c.utf8Size = 1) (before after : List Char) :
    divide? (size before + 1) (before ++ c :: after) = some (before ++ [c], after) := by
  have hsize : size (before ++ [c]) = size before + 1 := by simp [size, hc]
  have hdivide := divide?_append (before ++ [c]) after
  rwa [hsize, List.append_assoc] at hdivide

/-! ## Rounds of the scan -/

theorem closing?_of_closed (hname : IsName name) (rest : List Char) :
    closing? (name ++ '}' :: rest) = some (some (size name)) := by
  have hplain : ∀ c ∈ name, (!isNoBrace c) = false := by simpa using isName_iff.mp hname
  rw [closing?, place?_append_cons hplain (by decide)]
  simp [from?_append]

theorem closing?_of_unclosed (hopen : ¬ IsClosed chars) : closing? chars = some none := by
  have hplain : ∀ c ∈ chars.takeWhile isNoBrace, (!isNoBrace c) = false := fun c hc => by
    simp [List.mem_takeWhile_imp hc]
  have hchars := List.takeWhile_append_dropWhile (p := isNoBrace) (l := chars)
  rw [IsClosed] at hopen
  cases hnext : chars.dropWhile isNoBrace with
  | nil =>
      rw [hnext, List.append_nil] at hchars
      rw [hchars] at hplain
      rw [closing?, place?_eq_none hplain]
  | cons c after =>
      have hbrace : (!isNoBrace c) = true := by
        have hhead := List.head?_dropWhile_not isNoBrace chars
        simpa [hnext] using hhead
      rw [← hchars, hnext, closing?, place?_append_cons hplain hbrace]
      rw [hnext] at hopen
      simpa [from?_append] using hopen

namespace Scan

/-- A round at a brace that is not closed passes the brace, and the text in front of it. -/
theorem round?_of_unclosed (scan : Scan) (front : List Char) (hopen : ¬ IsClosed after) :
    scan.round? (size front) (front ++ '{' :: after) = some (scan.literal (front ++ ['{']), after) := by
  have hdivide := divide?_append_cons (by decide : Char.utf8Size '{' = 1) front after
  simp [round?, from?, before?, hdivide, closing?_of_unclosed hopen]

/-- A round at a brace that is closed passes the text in front of it and the placeholder. -/
theorem round?_of_closed (scan : Scan) (front : List Char) (hname : IsName name) (rest : List Char) :
    scan.round? (size front) (front ++ '{' :: (name ++ '}' :: rest)) =
      some ((scan.literal front).placeholder name, rest) := by
  have hopening := divide?_append_cons (by decide : Char.utf8Size '{' = 1) front (name ++ '}' :: rest)
  have hclosing := divide?_append_cons (by decide : Char.utf8Size '}' = 1) name rest
  simp [round?, from?, before?, hopening, hclosing, closing?_of_closed hname, divide?_append]

/-- What is written for some pieces is written, and their placeholders are noted. -/
def pass (scan : Scan) (pieces : List Piece) : Scan :=
  { written := scan.written ++ pieces.flatMap Piece.source
    placeholders := scan.placeholders ++ Expression.placeholders pieces }

theorem pass_append (scan : Scan) (pieces others : List Piece) :
    scan.pass (pieces ++ others) = (scan.pass pieces).pass others := by
  simp [pass, placeholders_append]

theorem pass_map_literal (scan : Scan) (chars : List Char) :
    scan.pass (chars.map .literal) = scan.literal chars := by
  simp [pass, literal, List.flatMap_map, Piece.source]

theorem pass_placeholder (scan : Scan) (name : List Char) :
    scan.pass [.placeholder name] = scan.placeholder name := by
  simp [pass, placeholder, Piece.source, Expression.placeholders]

/-- A round passes some pieces of what is left, and leaves the others. -/
theorem exists_round? (scan : Scan) (hfront : '{' ∉ front) (after : List Char) :
    ∃ passed left, pieces (front ++ '{' :: after) = passed ++ pieces left ∧
      scan.round? (size front) (front ++ '{' :: after) = some (scan.pass passed, left) := by
  have hpieces : pieces (front ++ '{' :: after) = front.map .literal ++ pieces ('{' :: after) :=
    pieces_append_of_notMem hfront _
  by_cases hclosed : IsClosed after
  · obtain ⟨name, rest, hname, rfl⟩ := isClosed_iff.mp hclosed
    refine ⟨front.map .literal ++ [.placeholder name], rest, ?_, ?_⟩
    · rw [hpieces, pieces_of_closed hname, List.append_assoc]
      rfl
    · rw [round?_of_closed scan front hname, pass_append, pass_map_literal, pass_placeholder]
  · refine ⟨(front ++ ['{']).map .literal, after, ?_, ?_⟩
    · rw [hpieces, pieces_of_unclosed hclosed, List.map_append, List.append_assoc]
      rfl
    · rw [round?_of_unclosed scan front hclosed, pass_map_literal]

theorem rounds?_of_round? {scan next : Scan} {opening : Nat} {left : List Char}
    (hplace : place? (· == '{') chars = some opening)
    (hround : scan.round? opening chars = some (next, left)) : scan.rounds? chars = next.rounds? left := by
  rw [rounds?, hplace]
  simp only
  split
  next hnone => cases hround.symm.trans hnone
  next other others hsome =>
    cases hround.symm.trans hsome
    rfl

/-- All rounds together pass the pieces of the text. -/
theorem rounds?_eq (scan : Scan) (chars : List Char) :
    scan.rounds? chars = some (scan.pass (pieces chars)) := by
  induction hlength : chars.length using Nat.strong_induction_on generalizing scan chars with
  | _ length ih =>
      by_cases hmem : '{' ∈ chars
      · obtain ⟨front, after, rfl, hfront⟩ := List.eq_append_cons_of_mem hmem
        obtain ⟨passed, left, hpieces, hround⟩ := scan.exists_round? hfront after
        have hplace : place? (· == '{') (front ++ '{' :: after) = some (size front) :=
          place?_append_cons (forall_beq_of_notMem hfront) (by simp) after
        have hshorter := length_lt_of_round? hround
        rw [rounds?_of_round? hplace hround, ih left.length (hlength ▸ hshorter) _ _ rfl, hpieces,
          pass_append]
      · have hplace : place? (· == '{') chars = none := place?_eq_none (forall_beq_of_notMem hmem)
        have hpieces : pieces chars = chars.map .literal :=
          pieces_eq_map_literal (hasNoClosedBrace_of_notMem hmem)
        rw [rounds?, hplace, hpieces, pass_map_literal]

end Scan

/-- The scan comes to the end of every expression, and writes what is written for its pieces. -/
theorem scan?_eq (expression : String) :
    scan? expression = some (source (pieces expression.toList), placeholders (pieces expression.toList)) := by
  simp only [scan?, Scan.rounds?_eq, Scan.pass, source, Option.map_some, List.nil_append, List.cons_append]

/-- The scan of an expression comes to an end and has written, as the regular expression that the expression
is compiled from, that of the one exact cut of the expression, with its placeholders in order. An opening
brace of the expression opens a placeholder of the cut if the next brace closes it, and is part of a literal
text otherwise. -/
theorem scanned_exactly (expression : String) :
    ∃ cut : Cut, (∀ other : Cut, other.IsExact expression.toList ↔ other = cut) ∧
      scan? expression = some (cut.source, cut.placeholders) ∧
      (∃ form, Matcher.form? (.expression expression) = some form ∧ form.source = cut.source ∧
        form.placeholders = some cut.placeholders) ∧
      ∀ before after, expression.toList = before ++ '{' :: after →
        (cut.HasOpening before after ↔ IsClosed after) ∧
          (cut.HasLiteral '{' before after ↔ ¬ IsClosed after) := by
  have hexact := Cut.isExact_gather_pieces expression.toList
  have hpieces := hexact.pieces_eq
  have hsource := Cut.source_pieces (Cut.gather (pieces expression.toList))
  have hplaceholders := Cut.placeholders_pieces (Cut.gather (pieces expression.toList))
  rw [← hpieces] at hsource hplaceholders
  refine ⟨Cut.gather (pieces expression.toList), fun other => Cut.isExact_iff, ?_, ?_, ?_⟩
  · rw [scan?_eq, hsource, hplaceholders]
  · exact ⟨_, rfl, hsource, congrArg some hplaceholders⟩
  · intro before after heq
    rw [heq] at hexact ⊢
    exact hexact.hasOpening_iff

/-- The first brace is not closed before the next one, so it stands for itself. -/
example : scan? "a \x7b b \x7bint\x7d" = some ("^a \\\x7b b (\\d+)$", [.int]) := by decide +kernel

end Expression

end Acceptance
