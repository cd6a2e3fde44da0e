import Acceptance.Proofs.Pattern.Expression

/-!
# The exact cut of an expression

An expression consists of placeholders and of literal text before, between and behind them. In an exact cut
no literal text holds an opening brace that the next brace closes. There is one exact cut of every
expression, and the parts of the expression are those of the cut.
-/

namespace Acceptance

namespace Expression

/-- What may stand between the braces of a placeholder: anything but braces. -/
def IsName (name : List Char) : Prop := '{' ∉ name ∧ '}' ∉ name

/-- No opening brace of a text is closed by the next brace of the text. -/
def HasNoClosedBrace (text : List Char) : Prop :=
  ∀ before after, text = before ++ '{' :: after → ¬ IsClosed after

/-- A placeholder, told by what stands between its braces, with the literal text in front of it. -/
structure Token where
  front : List Char
  name : List Char

/-- What a token stands for in an expression. -/
def Token.text (token : Token) : List Char := token.front ++ '{' :: (token.name ++ ['}'])

/-- What is written for a token: its literal text, escaped, and the group of its placeholder. -/
def Token.source (token : Token) : List Char :=
  token.front.flatMap escape ++ (Placeholder.ofName (Text.trim token.name)).source.toList

/-- The tokens of an expression from left to right, and the literal text behind the last of them. Any of the
literal texts may be empty. -/
structure Cut where
  tokens : List Token
  rest : List Char

namespace Cut

/-- The parts put together again. -/
def text (cut : Cut) : List Char := cut.tokens.flatMap Token.text ++ cut.rest

/-- The literal texts: in front of each placeholder, and behind the last. -/
def literals (cut : Cut) : List (List Char) := cut.tokens.map Token.front ++ [cut.rest]

/-- The placeholders, each recognised by its name without the blanks around it. -/
def placeholders (cut : Cut) : List Placeholder :=
  cut.tokens.map fun token => .ofName (Text.trim token.name)

/-- The anchored regular expression that is written for the parts. -/
def source (cut : Cut) : String :=
  String.ofList ('^' :: (cut.tokens.flatMap Token.source ++ (cut.rest.flatMap escape ++ ['$'])))

/-- The parts are those of an expression: put together again they are the expression, no brace stands in a
name, and no opening brace of a literal text is closed. -/
structure IsExact (cut : Cut) (expression : List Char) : Prop where
  text : cut.text = expression
  names : ∀ token ∈ cut.tokens, IsName token.name
  literals : ∀ literal ∈ cut.literals, HasNoClosedBrace literal

/-- A character of a literal text, told by what stands before it in the expression and what behind it. -/
inductive HasLiteral (c : Char) : Cut → List Char → List Char → Prop
  | front {earlier later : List Token} {before after name rest : List Char} :
      HasLiteral c ⟨earlier ++ ⟨before ++ c :: after, name⟩ :: later, rest⟩
        (text ⟨earlier, before⟩) (text ⟨⟨after, name⟩ :: later, rest⟩)
  | rest {tokens : List Token} {before after : List Char} :
      HasLiteral c ⟨tokens, before ++ c :: after⟩ (text ⟨tokens, before⟩) after

/-- The opening brace of a placeholder, told by what stands before it in the expression and what behind
it. -/
inductive HasOpening : Cut → List Char → List Char → Prop
  | token {earlier later : List Token} {front name rest : List Char} :
      HasOpening ⟨earlier ++ ⟨front, name⟩ :: later, rest⟩
        (text ⟨earlier, front⟩) (name ++ '}' :: text ⟨later, rest⟩)

end Cut

variable {expression chars front name before after more rest : List Char} {cut : Cut} {token : Token}
  {tokens : List Token}

/-! ## Closed braces -/

theorem isName_iff : IsName name ↔ ∀ c ∈ name, isNoBrace c = true := by
  simp only [IsName, isNoBrace, Bool.and_eq_true, bne_iff_ne, ne_eq, forall₂_and, List.forall_mem_ne']

theorem isClosed_iff : IsClosed chars ↔ ∃ name after, IsName name ∧ chars = name ++ '}' :: after := by
  simp only [isName_iff]
  constructor
  · intro hclosed
    obtain ⟨after, hafter⟩ := List.head?_eq_some_iff.mp hclosed
    refine ⟨chars.takeWhile isNoBrace, after, fun c hc => List.mem_takeWhile_imp hc, ?_⟩
    rw [← hafter, List.takeWhile_append_dropWhile]
  · rintro ⟨name, after, hname, rfl⟩
    rw [IsClosed, List.dropWhile_append_of_pos hname]
    rfl

theorem IsName.isClosed_append (hname : IsName name) (after : List Char) : IsClosed (name ++ '}' :: after) :=
  isClosed_iff.mpr ⟨name, after, hname, rfl⟩

theorem IsClosed.append (hclosed : IsClosed chars) (more : List Char) : IsClosed (chars ++ more) := by
  obtain ⟨name, after, hname, rfl⟩ := isClosed_iff.mp hclosed
  rw [List.append_assoc]
  exact hname.isClosed_append _

/-- A character of two texts put together stands in the first or in the second. -/
theorem split_append_cons {c : Char} (heq : front ++ rest = before ++ c :: after) :
    (∃ inside, front = before ++ c :: inside ∧ after = inside ++ rest) ∨
      ∃ behind, before = front ++ behind ∧ rest = behind ++ c :: after := by
  rcases List.append_eq_append_iff.mp heq with ⟨part, hbefore, hrest⟩ | ⟨part, hfront, hrest⟩
  · exact .inr ⟨part, hbefore, hrest⟩
  · cases part with
    | nil => exact .inr ⟨[], by simpa using hfront.symm, hrest.symm⟩
    | cons d part =>
        obtain ⟨rfl, hafter⟩ := List.cons.inj hrest
        exact .inl ⟨part, hfront, hafter⟩

/-- A brace is closed before the next opening brace or not at all. -/
theorem isClosed_of_append_opening (hclosed : IsClosed (chars ++ '{' :: more)) : IsClosed chars := by
  obtain ⟨name, after, hname, heq⟩ := isClosed_iff.mp hclosed
  rcases split_append_cons heq with ⟨inside, rfl, -⟩ | ⟨behind, rfl, hmore⟩
  · exact hname.isClosed_append inside
  · cases behind with
    | nil => cases hmore
    | cons c behind =>
        obtain ⟨rfl, -⟩ := List.cons.inj hmore
        exact absurd (by simp) hname.1

/-! ## The pieces of an expression -/

theorem pieces_of_plain {c : Char} (hc : c ≠ '{') (rest : List Char) :
    pieces (c :: rest) = .literal c :: pieces rest := by
  rw [pieces, if_neg hc]

theorem pieces_of_unclosed (hopen : ¬ IsClosed rest) : pieces ('{' :: rest) = .literal '{' :: pieces rest := by
  rw [pieces, if_pos rfl]
  split
  next after hafter => exact absurd (congrArg List.head? hafter) hopen
  next => rfl

theorem pieces_of_closed (hname : IsName name) (rest : List Char) :
    pieces ('{' :: (name ++ '}' :: rest)) = .placeholder name :: pieces rest := by
  have hplain := isName_iff.mp hname
  have hdrop : (name ++ '}' :: rest).dropWhile isNoBrace = '}' :: rest :=
    List.dropWhile_append_of_pos hplain
  have htake : (name ++ '}' :: rest).takeWhile isNoBrace = name := by
    rw [List.takeWhile_append_of_pos hplain]
    exact List.append_nil _
  rw [pieces, if_pos rfl]
  split
  next after hafter =>
    obtain rfl : rest = after := (List.cons.inj (hdrop.symm.trans hafter)).2
    rw [htake]
  next hother => exact absurd hdrop (hother rest)

/-- Where no brace is closed, the characters are pieces of their own. -/
theorem pieces_append_of_literal
    (hliteral : ∀ before after, front = before ++ '{' :: after → ¬ IsClosed (after ++ rest)) :
    pieces (front ++ rest) = front.map .literal ++ pieces rest := by
  induction front with
  | nil => rfl
  | cons c front ih =>
      have htail : pieces (front ++ rest) = front.map .literal ++ pieces rest :=
        ih fun before after heq => hliteral (c :: before) after (congrArg (c :: ·) heq)
      rw [List.cons_append, List.map_cons, List.cons_append, ← htail]
      by_cases hc : c = '{'
      · subst hc
        exact pieces_of_unclosed (hliteral [] front rfl)
      · exact pieces_of_plain hc _

theorem pieces_append_of_notMem (hfront : '{' ∉ front) (rest : List Char) :
    pieces (front ++ rest) = front.map .literal ++ pieces rest :=
  pieces_append_of_literal fun _ _ heq => absurd (by simp [heq]) hfront

theorem pieces_eq_map_literal (hliteral : HasNoClosedBrace chars) : pieces chars = chars.map .literal := by
  have happend : pieces (chars ++ []) = chars.map .literal ++ pieces [] :=
    pieces_append_of_literal fun before after heq => by
      rw [List.append_nil]
      exact hliteral before after heq
  simpa [pieces] using happend

theorem hasNoClosedBrace_of_notMem (hchars : '{' ∉ chars) : HasNoClosedBrace chars :=
  fun _ _ heq => absurd (by simp [heq]) hchars

theorem hasNoClosedBrace_cons {c : Char} :
    HasNoClosedBrace (c :: chars) ↔ (c = '{' → ¬ IsClosed chars) ∧ HasNoClosedBrace chars := by
  constructor
  · intro hliteral
    refine ⟨fun hc => hliteral [] chars (congrArg (· :: chars) hc), fun before after heq => ?_⟩
    exact hliteral (c :: before) after (congrArg (c :: ·) heq)
  · rintro ⟨hc, hliteral⟩ before after heq
    rcases List.cons_eq_append_iff.mp heq with ⟨rfl, hrest⟩ | ⟨before, rfl, hrest⟩
    · obtain ⟨hopening, rfl⟩ := List.cons.inj hrest
      exact hc hopening.symm
    · exact hliteral before after hrest

theorem placeholders_append (parts others : List Piece) :
    placeholders (parts ++ others) = placeholders parts ++ placeholders others :=
  List.filterMap_append

@[simp]
theorem placeholders_map_literal (chars : List Char) : placeholders (chars.map .literal) = [] := by
  simp [placeholders]

namespace Token

/-- A token by its pieces: each character of its literal text is one, and its placeholder. -/
def pieces (token : Token) : List Piece := token.front.map .literal ++ [.placeholder token.name]

theorem text_append (token : Token) (rest : List Char) :
    token.text ++ rest = token.front ++ '{' :: (token.name ++ '}' :: rest) := by
  simp [text]

theorem flatMap_source_pieces (token : Token) : token.pieces.flatMap Piece.source = token.source := by
  simp [pieces, source, List.flatMap_map, Piece.source, placeholderOf]

theorem placeholders_pieces (token : Token) :
    placeholders token.pieces = [.ofName (Text.trim token.name)] := by
  rw [pieces, placeholders_append, placeholders_map_literal]
  rfl

/-- An opening brace follows the literal text of a token, so a brace that is not closed within this text is not
closed at all. -/
theorem pieces_text_append (hname : IsName token.name) (hfront : HasNoClosedBrace token.front)
    (rest : List Char) :
    Expression.pieces (token.text ++ rest) = token.pieces ++ Expression.pieces rest := by
  have hliteral : ∀ before after, token.front = before ++ '{' :: after →
      ¬ IsClosed (after ++ '{' :: (token.name ++ '}' :: rest)) := fun before after heq hclosed =>
    hfront before after heq (isClosed_of_append_opening hclosed)
  rw [text_append, pieces_append_of_literal hliteral, pieces_of_closed hname]
  simp [pieces]

/-- An opening brace behind the start of a token stands in its literal text, opens its placeholder, or stands
behind the token. -/
theorem split_text_append (hname : IsName token.name) (heq : token.text ++ rest = before ++ '{' :: after) :
    (∃ inside, token.front = before ++ '{' :: inside ∧
        after = inside ++ '{' :: (token.name ++ '}' :: rest)) ∨
      (before = token.front ∧ after = token.name ++ '}' :: rest) ∨
      ∃ behind, before = token.text ++ behind ∧ rest = behind ++ '{' :: after := by
  rw [text_append] at heq
  rcases split_append_cons heq with hfront | ⟨behind, rfl, hbehind⟩
  · exact .inl hfront
  · refine .inr ?_
    cases behind with
    | nil =>
        obtain ⟨-, hafter⟩ := List.cons.inj hbehind
        exact .inl ⟨List.append_nil _, hafter.symm⟩
    | cons c behind =>
        obtain ⟨rfl, hinside⟩ := List.cons.inj hbehind
        rcases split_append_cons hinside with ⟨inside, hbrace, -⟩ | ⟨left, rfl, hleft⟩
        · exact absurd (by simp [hbrace]) hname.1
        · cases left with
          | nil => cases hleft
          | cons c left =>
              obtain ⟨rfl, hrest⟩ := List.cons.inj hleft
              exact .inr ⟨left, (text_append _ _).symm, hrest⟩

end Token

namespace Cut

@[simp]
theorem text_cons (token : Token) (tokens : List Token) (rest : List Char) :
    text ⟨token :: tokens, rest⟩ = token.text ++ text ⟨tokens, rest⟩ := by
  simp [text]

/-- A cut by its pieces. -/
def pieces (cut : Cut) : List Piece := cut.tokens.flatMap Token.pieces ++ cut.rest.map .literal

theorem source_pieces (cut : Cut) : Expression.source cut.pieces = cut.source := by
  simp [Expression.source, source, pieces, List.flatMap_assoc, Token.flatMap_source_pieces,
    List.flatMap_map, Piece.source]

theorem placeholders_pieces (cut : Cut) : Expression.placeholders cut.pieces = cut.placeholders := by
  have htokens : Expression.placeholders (cut.tokens.flatMap Token.pieces) = cut.placeholders := by
    rw [Expression.placeholders, List.filterMap_flatMap, placeholders, List.map_eq_flatMap]
    exact List.flatMap_congr fun token _ => token.placeholders_pieces
  rw [pieces, placeholders_append, placeholders_map_literal, List.append_nil, htokens]

theorem isExact_nil : (⟨[], rest⟩ : Cut).IsExact chars ↔ rest = chars ∧ HasNoClosedBrace rest := by
  constructor
  · intro hexact
    exact ⟨hexact.text, hexact.literals rest (by simp [literals])⟩
  · rintro ⟨rfl, hliteral⟩
    exact ⟨rfl, by simp, by simpa [literals] using hliteral⟩

/-- A cut that begins with a token is exact if the text does so too and the other parts are exact for what is
behind it. -/
theorem isExact_cons :
    (⟨token :: tokens, rest⟩ : Cut).IsExact chars ↔
      ∃ left, chars = token.text ++ left ∧ IsName token.name ∧
        HasNoClosedBrace token.front ∧ (⟨tokens, rest⟩ : Cut).IsExact left := by
  constructor
  · rintro ⟨rfl, hnames, hliterals⟩
    obtain ⟨hname, hnames⟩ := List.forall_mem_cons.mp hnames
    obtain ⟨hfront, hliterals⟩ := List.forall_mem_cons.mp hliterals
    exact ⟨text ⟨tokens, rest⟩, text_cons _ _ _, hname, hfront, rfl, hnames, hliterals⟩
  · rintro ⟨left, rfl, hname, hfront, rfl, hnames, hliterals⟩
    exact ⟨text_cons _ _ _, List.forall_mem_cons.mpr ⟨hname, hnames⟩,
      List.forall_mem_cons.mpr ⟨hfront, hliterals⟩⟩

/-- The pieces of an expression are those of any exact cut of it. -/
theorem IsExact.pieces_eq (hexact : cut.IsExact expression) : Expression.pieces expression = cut.pieces := by
  obtain ⟨tokens, rest⟩ := cut
  induction tokens generalizing expression with
  | nil =>
      obtain ⟨rfl, hliteral⟩ := isExact_nil.mp hexact
      exact pieces_eq_map_literal hliteral
  | cons token tokens ih =>
      obtain ⟨left, rfl, hname, hfront, hleft⟩ := isExact_cons.mp hexact
      rw [Token.pieces_text_append hname hfront, ih hleft]
      simp [pieces]

/-! ## The cut that the pieces make -/

/-- A cut with one more character of literal text in front. -/
def consLiteral (c : Char) : Cut → Cut
  | ⟨[], rest⟩ => ⟨[], c :: rest⟩
  | ⟨token :: tokens, rest⟩ => ⟨⟨c :: token.front, token.name⟩ :: tokens, rest⟩

/-- The placeholders among some pieces, with the literal text in front of each and behind all of them. -/
def gather : List Piece → Cut
  | [] => ⟨[], []⟩
  | .literal c :: pieces => (gather pieces).consLiteral c
  | .placeholder name :: pieces => ⟨⟨[], name⟩ :: (gather pieces).tokens, (gather pieces).rest⟩

@[simp]
theorem gather_map_literal (chars : List Char) : gather (chars.map .literal) = ⟨[], chars⟩ := by
  induction chars with
  | nil => rfl
  | cons c chars ih => rw [List.map_cons, gather, ih, consLiteral]

theorem gather_pieces_append (token : Token) (pieces : List Piece) :
    gather (token.pieces ++ pieces) = ⟨token :: (gather pieces).tokens, (gather pieces).rest⟩ := by
  obtain ⟨front, name⟩ := token
  induction front with
  | nil => rfl
  | cons c front ih =>
      have hcons : (⟨c :: front, name⟩ : Token).pieces ++ pieces =
          .literal c :: ((⟨front, name⟩ : Token).pieces ++ pieces) := rfl
      rw [hcons, gather, ih, consLiteral]

theorem gather_pieces (cut : Cut) : gather cut.pieces = cut := by
  obtain ⟨tokens, rest⟩ := cut
  induction tokens with
  | nil => exact gather_map_literal rest
  | cons token tokens ih =>
      have hcons : pieces ⟨token :: tokens, rest⟩ = token.pieces ++ pieces ⟨tokens, rest⟩ := by
        simp [pieces]
      rw [hcons, gather_pieces_append, ih]

theorem IsExact.consLiteral {c : Char} (hexact : cut.IsExact chars) (hc : c = '{' → ¬ IsClosed chars) :
    (cut.consLiteral c).IsExact (c :: chars) := by
  obtain ⟨tokens, rest⟩ := cut
  cases tokens with
  | nil =>
      obtain ⟨rfl, hliteral⟩ := isExact_nil.mp hexact
      exact isExact_nil.mpr ⟨rfl, hasNoClosedBrace_cons.mpr ⟨hc, hliteral⟩⟩
  | cons token tokens =>
      obtain ⟨left, rfl, hname, hfront, hleft⟩ := isExact_cons.mp hexact
      have hopen : c = '{' → ¬ IsClosed token.front := fun hopening hclosed => hc hopening <| by
        rw [Token.text_append]
        exact hclosed.append _
      exact isExact_cons.mpr ⟨left, rfl, hname, hasNoClosedBrace_cons.mpr ⟨hopen, hfront⟩, hleft⟩

theorem IsExact.consPlaceholder (hexact : cut.IsExact chars) (hname : IsName name) :
    (⟨⟨[], name⟩ :: cut.tokens, cut.rest⟩ : Cut).IsExact ('{' :: (name ++ '}' :: chars)) :=
  isExact_cons.mpr ⟨chars, (Token.text_append ⟨[], name⟩ chars).symm, hname,
    hasNoClosedBrace_of_notMem List.not_mem_nil, hexact⟩

theorem isExact_gather_pieces (expression : List Char) :
    (gather (Expression.pieces expression)).IsExact expression := by
  fun_induction Expression.pieces expression with
  | case1 => exact isExact_nil.mpr ⟨rfl, hasNoClosedBrace_of_notMem List.not_mem_nil⟩
  | case2 rest after hafter ih =>
      have hname := isName_iff.mpr fun c hc => List.mem_takeWhile_imp (l := rest) hc
      have hrest : rest = rest.takeWhile isNoBrace ++ '}' :: after := by
        rw [← hafter, List.takeWhile_append_dropWhile]
      have hexact := ih.consPlaceholder hname
      rwa [← hrest] at hexact
  | case3 rest hother ih =>
      refine ih.consLiteral fun _ hclosed => ?_
      obtain ⟨after, hafter⟩ := List.head?_eq_some_iff.mp hclosed
      exact hother after hafter
  | case4 c rest hc ih => exact ih.consLiteral fun hopening => absurd hopening hc

/-- Every expression has one exact cut. -/
theorem isExact_iff : cut.IsExact expression ↔ cut = gather (Expression.pieces expression) := by
  constructor
  · intro hexact
    rw [hexact.pieces_eq, gather_pieces]
  · rintro rfl
    exact isExact_gather_pieces expression

/-! ## Where the opening braces stand -/

theorem HasLiteral.cons {c : Char} (hliteral : HasLiteral c ⟨tokens, rest⟩ before after) (token : Token) :
    HasLiteral c ⟨token :: tokens, rest⟩ (token.text ++ before) after := by
  cases hliteral with
  | front =>
      rw [← text_cons, ← List.cons_append]
      exact .front
  | rest =>
      rw [← text_cons]
      exact .rest

theorem HasOpening.cons (hopening : HasOpening ⟨tokens, rest⟩ before after) (token : Token) :
    HasOpening ⟨token :: tokens, rest⟩ (token.text ++ before) after := by
  cases hopening with
  | token =>
      rw [← text_cons, ← List.cons_append]
      exact .token

/-- An opening brace is part of a literal text, or opens a placeholder. -/
theorem hasLiteral_or_hasOpening (hexact : cut.IsExact (before ++ '{' :: after)) :
    cut.HasLiteral '{' before after ∨ cut.HasOpening before after := by
  obtain ⟨tokens, rest⟩ := cut
  induction tokens generalizing before with
  | nil =>
      obtain ⟨rfl, -⟩ := isExact_nil.mp hexact
      exact .inl .rest
  | cons token tokens ih =>
      obtain ⟨left, heq, hname, -, hleft⟩ := isExact_cons.mp hexact
      obtain rfl := hleft.text
      obtain ⟨front, name⟩ := token
      rcases Token.split_text_append hname heq.symm with
        ⟨inside, hfront, rfl⟩ | ⟨hbefore, rfl⟩ | ⟨behind, rfl, hbehind⟩
      · obtain rfl : front = before ++ '{' :: inside := hfront
        rw [← Token.text_append ⟨inside, name⟩, ← text_cons]
        have hliteral := @HasLiteral.front '{' [] tokens before inside name rest
        exact .inl hliteral
      · have hopening := @HasOpening.token [] tokens front name rest
        rw [hbefore]
        exact .inr hopening
      · rw [hbehind] at hleft
        exact (ih hleft).imp (·.cons _) (·.cons _)

theorem HasLiteral.not_isClosed (hliteral : cut.HasLiteral '{' before after) (hexact : cut.IsExact expression) :
    ¬ IsClosed after := by
  cases hliteral with
  | @front earlier later before after name rest =>
      rw [text_cons, Token.text_append]
      refine fun hclosed => ?_
      exact hexact.literals (before ++ '{' :: after) (by simp [literals]) before after rfl
        (isClosed_of_append_opening hclosed)
  | @rest tokens before after =>
      exact hexact.literals (before ++ '{' :: after) (by simp [literals]) before after rfl

theorem HasOpening.isClosed (hopening : cut.HasOpening before after) (hexact : cut.IsExact expression) :
    IsClosed after := by
  cases hopening with
  | @token earlier later front name rest =>
      exact IsName.isClosed_append (hexact.names ⟨front, name⟩ (by simp)) _

/-- In an exact cut an opening brace opens a placeholder if the next brace closes it, and stays literal
otherwise. -/
theorem IsExact.hasOpening_iff (hexact : cut.IsExact (before ++ '{' :: after)) :
    (cut.HasOpening before after ↔ IsClosed after) ∧
      (cut.HasLiteral '{' before after ↔ ¬ IsClosed after) := by
  have hcases := hasLiteral_or_hasOpening hexact
  refine ⟨⟨fun hopening => hopening.isClosed hexact, fun hclosed => ?_⟩,
    fun hliteral => hliteral.not_isClosed hexact, fun hopen => ?_⟩
  · exact hcases.resolve_left fun hliteral => hliteral.not_isClosed hexact hclosed
  · exact hcases.resolve_right fun hopening => hopen (hopening.isClosed hexact)

end Cut

end Expression

end Acceptance
