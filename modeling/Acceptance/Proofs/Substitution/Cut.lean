import Acceptance.Argument
import Acceptance.Expansion
import Acceptance.Proofs.Bindings
import Acceptance.Proofs.Substitution

/-!
# All tokens at once

A text is cut at its tokens: each time at the one that begins furthest to the left in what has not been cut
yet. There is one such cut of every text, and it says nothing of values. So a substitution puts values in
between what stays, and looks at none of them again.
-/

namespace Acceptance

namespace Delimiters

/-- What stands between the delimiters of a token: at least one character, none of them a blank or the
closing delimiter. -/
def IsName (d : Delimiters) (name : List Char) : Prop :=
  name ≠ [] ∧ d.closing ∉ name ∧ ∀ c ∈ name, Text.isBlank c = false

/-- A name between the delimiters. -/
def written (d : Delimiters) (name : List Char) : List Char := d.opening ++ name ++ [d.closing]

/-- A token begins where the text does. -/
def BeginsToken (d : Delimiters) (text : List Char) : Prop :=
  ∃ name after, d.IsName name ∧ text = d.written name ++ after

/-- A text in parts: names from left to right, each with the text in front of it, and the text behind the
last of them. -/
structure Cut where
  tokens : List (List Char × List Char)
  rest : List Char

/-- The parts are a cut of the text at its tokens. No token begins within the text in front of the one that
is cut out next, nor in the text behind the last. -/
inductive IsCut (d : Delimiters) : List Char → Cut → Prop
  | rest {text : List Char} (hplain : ∀ part, part <:+ text → ¬ d.BeginsToken part) :
      IsCut d text ⟨[], text⟩
  | token {front name after : List Char} {cut : Cut} (hname : d.IsName name)
      (hfirst : ∀ part, part <:+ front → part ≠ [] →
        ¬ d.BeginsToken (part ++ (d.written name ++ after)))
      (hafter : IsCut d after cut) :
      IsCut d (front ++ (d.written name ++ after)) ⟨(front, name) :: cut.tokens, cut.rest⟩

/-- The parts put together again, with a text for each name. -/
def Cut.filled (cut : Cut) (fill : List Char → List Char) : List Char :=
  cut.tokens.flatMap (fun token => token.1 ++ fill token.2) ++ cut.rest

/-- The value of a name, or the token as it was written. -/
def valueOrWritten (d : Delimiters) (values : Bindings) (name : List Char) : List Char :=
  ((values.get? (String.ofList name)).map String.toList).getD (d.written name)

/-- A way to put values into texts replaces the tokens that a text is cut at, and nothing else. -/
structure SubstitutesAtOnce (d : Delimiters) (replace : Bindings → String → String) : Prop where
  /-- There is one cut of every text at its tokens. -/
  cut_unique : ∀ text : String, ∃! cut, d.IsCut text.toList cut
  /-- Each token has its value in its place, character by character, or stays as it is; so does all else. -/
  replaced : ∀ (values : Bindings) (text : String) (cut : Cut), d.IsCut text.toList cut →
    (replace values text).toList = cut.filled (d.valueOrWritten values)
  /-- A token by itself becomes its value, also where that has tokens in it. -/
  value_kept : ∀ (values : Bindings) (name : List Char) (value : String), d.IsName name →
    values.get? (String.ofList name) = some value → replace values (String.ofList (d.written name)) = value
  /-- The order of the bindings does not count. -/
  order_free : ∀ (values others : Bindings) (text : String), values.Perm others →
    (values.map Prod.fst).Nodup → replace values text = replace others text
  /-- A text with no token for a bound name stays as it is. -/
  unchanged : ∀ (values : Bindings) (text : String) (cut : Cut), d.IsCut text.toList cut →
    (∀ token ∈ cut.tokens, values.get? (String.ofList token.2) = none) → replace values text = text

variable {d : Delimiters} {lookup : String → Option String} {values : Bindings} {cut : Cut}
  {name after front text : List Char}

theorem isName_iff : d.IsName name ↔ name ≠ [] ∧ ∀ c ∈ name, d.isNameChar c = true := by
  simp only [IsName, isNameChar, Bool.and_eq_true, bne_iff_ne, Bool.not_eq_true', forall₂_and]
  exact and_congr_right fun _ => and_congr_left fun _ =>
    ⟨fun hnotMem c hc heq => hnotMem (heq ▸ hc), fun hne hmem => hne _ hmem rfl⟩

theorem token?_eq_some_iff_written :
    d.token? text = some (name, after) ↔ d.IsName name ∧ text = d.written name ++ after := by
  rw [token?_eq_some, isName_iff, and_comm]
  simp [written]

theorem token?_eq_none_iff : d.token? text = none ↔ ¬ d.BeginsToken text := by
  simp only [Option.eq_none_iff_forall_ne_some, ne_eq, Prod.forall, BeginsToken, not_exists,
    token?_eq_some_iff_written]

/-! ## The cut that the pieces make -/

/-- The names among the pieces, with what is in front of each and behind all of them. -/
def gather : List Piece → Cut
  | [] => ⟨[], []⟩
  | .token name :: pieces => ⟨([], name) :: (gather pieces).tokens, (gather pieces).rest⟩
  | .plain c :: pieces =>
    match gather pieces with
    | ⟨[], rest⟩ => ⟨[], c :: rest⟩
    | ⟨(front, name) :: tokens, rest⟩ => ⟨(c :: front, name) :: tokens, rest⟩

/-- Where no token begins, the characters are pieces of their own. -/
theorem pieces_append_of_plain {behind : List Char}
    (hplain : ∀ part, part <:+ front → part ≠ [] → ¬ d.BeginsToken (part ++ behind)) :
    d.pieces (front ++ behind) = front.map .plain ++ d.pieces behind := by
  induction front with
  | nil => rfl
  | cons c front ih =>
      have hc : d.token? (c :: (front ++ behind)) = none :=
        token?_eq_none_iff.mpr (hplain _ (List.suffix_refl _) (List.cons_ne_nil c front))
      rw [List.cons_append, pieces_of_plain hc, List.map_cons, List.cons_append,
        ih fun part hpart => hplain part (hpart.trans (List.suffix_cons c front))]

theorem pieces_eq_map_plain (hplain : ∀ part, part <:+ text → ¬ d.BeginsToken part) :
    d.pieces text = text.map .plain := by
  have happend : d.pieces (text ++ []) = text.map .plain ++ d.pieces [] :=
    pieces_append_of_plain fun part hpart _ => by
      rw [List.append_nil]
      exact hplain part hpart
  simpa [pieces] using happend

@[simp]
theorem gather_map_plain (text : List Char) : gather (text.map .plain) = ⟨[], text⟩ := by
  induction text with
  | nil => rfl
  | cons c text ih => simp [gather, ih]

@[simp]
theorem gather_map_plain_append_token (front name : List Char) (pieces : List Piece) :
    gather (front.map .plain ++ .token name :: pieces) =
      ⟨(front, name) :: (gather pieces).tokens, (gather pieces).rest⟩ := by
  induction front with
  | nil => rfl
  | cons c front ih => simp [gather, ih]

theorem IsCut.gather_pieces (hcut : d.IsCut text cut) : gather (d.pieces text) = cut := by
  induction hcut with
  | rest hplain => rw [pieces_eq_map_plain hplain, gather_map_plain]
  | @token front name after cut hname hfirst _ ih =>
      have htoken : d.token? (d.written name ++ after) = some (name, after) :=
        token?_eq_some_iff_written.mpr ⟨hname, rfl⟩
      rw [pieces_append_of_plain hfirst, pieces_of_token htoken, gather_map_plain_append_token, ih]

theorem not_beginsToken_nil (d : Delimiters) : ¬ d.BeginsToken [] := by
  rintro ⟨name, after, _, heq⟩
  simp [written] at heq

theorem isCut_nil (d : Delimiters) : d.IsCut [] ⟨[], []⟩ :=
  .rest fun _ hpart => List.suffix_nil.mp hpart ▸ not_beginsToken_nil d

theorem IsCut.cons_token (hname : d.IsName name) (hafter : d.IsCut after cut) :
    d.IsCut ([] ++ (d.written name ++ after)) ⟨([], name) :: cut.tokens, cut.rest⟩ :=
  .token hname (fun _ hpart hne => absurd (List.suffix_nil.mp hpart) hne) hafter

theorem isCut_gather_cons {c : Char} {pieces : List Piece} (hc : ¬ d.BeginsToken (c :: text))
    (hcut : d.IsCut text (gather pieces)) : d.IsCut (c :: text) (gather (.plain c :: pieces)) := by
  generalize hgather : gather pieces = cut at hcut
  cases hcut with
  | rest hplain =>
      rw [gather, hgather]
      refine .rest fun part hpart => ?_
      rcases List.suffix_cons_iff.mp hpart with rfl | hpart
      · exact hc
      · exact hplain part hpart
  | @token front name after cut hname hfirst hafter =>
      rw [gather, hgather, ← List.cons_append]
      refine .token hname (fun part hpart hne => ?_) hafter
      rcases List.suffix_cons_iff.mp hpart with rfl | hpart
      · exact hc
      · exact hfirst part hpart hne

theorem isCut_gather_pieces (d : Delimiters) (text : List Char) : d.IsCut text (gather (d.pieces text)) := by
  fun_induction pieces d text with
  | case1 => exact isCut_nil d
  | case2 c rest name after htoken ih =>
      obtain ⟨hname, htext⟩ := token?_eq_some_iff_written.mp htoken
      rw [htext]
      exact ih.cons_token hname
  | case3 c rest hplain ih => exact isCut_gather_cons (token?_eq_none_iff.mp hplain) ih

/-- Every text has one cut at its tokens. -/
theorem existsUnique_isCut (d : Delimiters) (text : List Char) : ∃! cut, d.IsCut text cut :=
  ⟨gather (d.pieces text), isCut_gather_pieces d text, fun _ hcut => hcut.gather_pieces.symm⟩

theorem mem_tokens_gather (pieces : List Piece) :
    (∃ front, (front, name) ∈ (gather pieces).tokens) ↔ .token name ∈ pieces := by
  induction pieces with
  | nil => simp [gather]
  | cons piece pieces ih =>
      cases piece with
      | token other => simp [gather, ← ih, exists_or]
      | plain c =>
          rw [gather]
          -- The character goes to the text in front of the first token, and no name changes.
          split
          next hgather => simp [← ih, hgather]
          next hgather => simp [← ih, hgather, exists_or]

/-- The names of a text are those of the tokens that it is cut at. -/
theorem mem_names_iff {text name : String} :
    name ∈ d.names text ↔
      ∃ cut front, d.IsCut text.toList cut ∧ (front, name.toList) ∈ cut.tokens := by
  have hnames : name ∈ d.names text ↔ .token name.toList ∈ d.pieces text.toList := by
    rw [names, List.mem_filterMap]
    constructor
    · rintro ⟨piece, hpiece, hname⟩
      cases piece with
      | plain c => cases hname
      | token chars =>
          obtain rfl := Option.some.inj hname
          simpa using hpiece
    · intro hpiece
      exact ⟨_, hpiece, congrArg some String.ofList_toList⟩
  rw [hnames, ← mem_tokens_gather]
  constructor
  · rintro ⟨front, hfront⟩
    exact ⟨_, front, isCut_gather_pieces d _, hfront⟩
  · rintro ⟨cut, front, hcut, hfront⟩
    exact ⟨front, hcut.gather_pieces ▸ hfront⟩

/-! ## What is put in between -/

theorem substituteChars_append_of_plain {behind : List Char}
    (hplain : ∀ part, part <:+ front → part ≠ [] → ¬ d.BeginsToken (part ++ behind)) :
    d.substituteChars lookup (front ++ behind) = front ++ d.substituteChars lookup behind := by
  have hfront : (front.map Piece.plain).flatMap (Piece.value d lookup) = front := by
    simp [List.flatMap_map, Piece.value]
  rw [substituteChars, pieces_append_of_plain hplain, List.flatMap_append, hfront]
  rfl

theorem IsCut.substituteChars_eq (hcut : d.IsCut text cut) :
    d.substituteChars values.get? text = cut.filled (d.valueOrWritten values) := by
  induction hcut with
  | rest hplain =>
      rw [substituteChars, pieces_eq_map_plain hplain]
      simp [Cut.filled, List.flatMap_map, Piece.value]
  | @token front name after cut hname hfirst _ ih =>
      have htoken : d.token? (d.written name ++ after) = some (name, after) :=
        token?_eq_some_iff_written.mpr ⟨hname, rfl⟩
      rw [substituteChars_append_of_plain hfirst, substituteChars_of_token htoken, ih]
      simp [Cut.filled, valueOrWritten, written]

theorem IsCut.filled_written (hcut : d.IsCut text cut) : cut.filled d.written = text := by
  induction hcut with
  | rest hplain => rfl
  | @token front name after cut hname hfirst _ ih =>
      simp only [Cut.filled, List.flatMap_cons, List.append_assoc] at ih ⊢
      rw [ih]

theorem Cut.filled_valueOrWritten
    (hunknown : ∀ token ∈ cut.tokens, values.get? (String.ofList token.2) = none) :
    cut.filled (d.valueOrWritten values) = cut.filled d.written := by
  have htokens : ∀ token ∈ cut.tokens,
      token.1 ++ d.valueOrWritten values token.2 = token.1 ++ d.written token.2 := fun token htoken => by
    rw [valueOrWritten, hunknown token htoken]
    rfl
  rw [Cut.filled, Cut.filled, List.flatMap_def, List.map_congr_left htokens, List.flatMap_def]

theorem substitutesAtOnce_substitute (d : Delimiters) :
    d.SubstitutesAtOnce fun values => d.substitute values.get? := by
  have hreplaced : ∀ (values : Bindings) (text : String) (cut : Cut), d.IsCut text.toList cut →
      (d.substitute values.get? text).toList = cut.filled (d.valueOrWritten values) :=
    fun values text cut hcut => (toList_substitute d _ text).trans hcut.substituteChars_eq
  refine ⟨fun text => existsUnique_isCut d text.toList, hreplaced, ?_, ?_, ?_⟩
  · intro values name value hname hvalue
    have hcut : d.IsCut (String.ofList (d.written name)).toList ⟨[([], name)], []⟩ := by
      rw [String.toList_ofList, ← List.append_nil (d.written name)]
      exact (isCut_nil d).cons_token hname
    apply String.toList_injective
    rw [hreplaced values _ _ hcut]
    simp [Cut.filled, valueOrWritten, hvalue]
  · intro values others text hperm hnodup
    rw [funext (Bindings.get?_perm hperm hnodup)]
  · intro values text cut hcut hunknown
    apply String.toList_injective
    rw [hreplaced values text cut hcut, Cut.filled_valueOrWritten hunknown, hcut.filled_written]

end Delimiters

/-- The headers in the texts of a template, and the variables in a captured value, are all replaced at
once. -/
theorem placeholders_and_variables_replaced_at_once :
    Delimiters.angle.SubstitutesAtOnce Expansion.interpolate ∧
      Delimiters.dollarBrace.SubstitutesAtOnce Resolver.ofBindings :=
  ⟨Delimiters.substitutesAtOnce_substitute .angle, Delimiters.substitutesAtOnce_substitute .dollarBrace⟩

/-- The first `<` opens the token, so the second is a character of its name; a value that looks like a token
is not looked at again. -/
example : Expansion.interpolate [("a", "<b>"), ("b", "x")] "<a><b> <<b>" = "<b>x <<b>" := by decide +kernel

end Acceptance
