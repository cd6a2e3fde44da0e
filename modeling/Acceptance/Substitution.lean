import Acceptance.Text

/-!
# Substitution

Texts with tokens: names between delimiters that stand for values. A text is cut from left to right
into tokens and other characters, and all tokens with a known name are replaced at once. Values are
never scanned for tokens again.
-/

namespace Acceptance

/-- How a token begins and ends. -/
structure Delimiters where
  opening : List Char
  closing : Char

namespace Delimiters

/-- `<name>`. -/
def angle : Delimiters := ⟨['<'], '>'⟩

/-- A dollar sign and a name in braces. -/
def dollarBrace : Delimiters := ⟨['$', '{'], '}'⟩

/-- Whether a character may stand in a name. -/
def isNameChar (d : Delimiters) (c : Char) : Bool := c != d.closing && !Text.isBlank c

/-- The name of the token at the start of a text, and the text behind it. A name has at least one
character, and neither blanks nor the closing delimiter. -/
def token? (d : Delimiters) (text : List Char) : Option (List Char × List Char) :=
  match Text.after? d.opening text with
  | none => none
  | some inner =>
    match inner.dropWhile d.isNameChar with
    | [] => none
    | c :: after =>
      if c == d.closing && !(inner.takeWhile d.isNameChar).isEmpty then
        some (inner.takeWhile d.isNameChar, after)
      else none

/-- The text behind a token is shorter than the text that begins with it. -/
theorem length_of_token? {d : Delimiters} {text name after : List Char}
    (found : d.token? text = some (name, after)) : after.length < text.length := by
  unfold token? at found
  split at found
  · simp at found
  · next inner hprefix =>
    split at found
    · simp at found
    · next c rest hdrop =>
      split at found
      · simp only [Option.some.injEq, Prod.mk.injEq] at found
        obtain ⟨_, rfl⟩ := found
        have hinner := Text.length_le_of_after? hprefix
        have hsuffix := (List.dropWhile_suffix d.isNameChar (l := inner)).length_le
        rw [hdrop] at hsuffix
        simp only [List.length_cons] at hsuffix
        omega
      · simp at found

/-- A part of a text: a character outside of all tokens, or a token. -/
inductive Piece
  | plain (c : Char)
  | token (name : List Char)
deriving DecidableEq

/-- Cuts a text from left to right into tokens and other characters. -/
def pieces (d : Delimiters) : List Char → List Piece
  | [] => []
  | c :: rest =>
    match _found : d.token? (c :: rest) with
    | some (name, after) => .token name :: d.pieces after
    | none => .plain c :: d.pieces rest
termination_by text => text.length
decreasing_by
  · exact length_of_token? _found
  · simp

/-- The text of a piece as it was cut. -/
def Piece.source (d : Delimiters) : Piece → List Char
  | plain c => [c]
  | token name => d.opening ++ name ++ [d.closing]

/-- The text of a piece with the values of known names in place of their tokens. -/
def Piece.value (d : Delimiters) (lookup : String → Option String) : Piece → List Char
  | plain c => [c]
  | token name =>
    match lookup (String.ofList name) with
    | some value => value.toList
    | none => (token name).source d

/-- Replaces all tokens whose name has a value. -/
def substitute (d : Delimiters) (lookup : String → Option String) (text : String) : String :=
  String.ofList ((d.pieces text.toList).flatMap (Piece.value d lookup))

/-- The names of all tokens of a text. -/
def names (d : Delimiters) (text : String) : List String :=
  (d.pieces text.toList).filterMap fun piece =>
    match piece with
    | .plain _ => none
    | .token name => some (String.ofList name)

end Delimiters

end Acceptance
