import Acceptance.Proofs.Tag
import Acceptance.Retry

/-!
# Reading of retry tags

What is taken for a retry tag is the word `retry`, then a count in parentheses if there is one, then a delay in
parentheses if there is one, with nothing behind that unless there is a delay. What stands behind a delay is not
read.
-/

namespace Acceptance.RetryTag

/-- A part of a tag tells how many retries there are: none tells nothing, and a number in parentheses, which may
have blanks around it, tells this number if it fits 64 bits. -/
inductive TellsCount : List Char → Option Nat → Prop
  | absent : TellsCount [] none
  | given {inner : List Char} {count : Nat} (hinner : ')' ∉ inner)
    (hcount : Text.IsUnsigned (Text.trim inner) count) (hfits : count < countLimit) :
    TellsCount ('(' :: (inner ++ [')'])) (some count)

/-- A part of a tag tells how long to wait: none tells nothing, and a duration behind `.after` and in parentheses,
which may have blanks around it, tells this duration. -/
inductive TellsDelay : List Char → Option Duration → Prop
  | absent : TellsDelay [] none
  | given {inner : List Char} {delay : Duration} (hinner : ')' ∉ inner)
    (hdelay : Duration.parse? (String.ofList (Text.trim inner)) = some delay) :
    TellsDelay (".after".toList ++ '(' :: (inner ++ [')'])) (some delay)

/-- A text says what a tag says, up to what stands behind that: blanks around the text and one `@` in front of it
left out, it is the word `retry`, then what tells the count, then what tells the delay. -/
def SaysBefore (tag : RetryTag) (text : String) (behind : List Char) : Prop :=
  ∃ mark count delay, (mark = [] ∨ mark = ['@']) ∧ TellsCount count tag.retries ∧ TellsDelay delay tag.after ∧
    Text.trim text.toList = mark ++ ("retry".toList ++ (count ++ (delay ++ behind)))

variable {tag : RetryTag} {part text rest behind : List Char} {retries : Option Nat} {after : Option Duration}

/-! ## Counts and delays -/

/-- What tells a count is read, whatever follows it. -/
theorem TellsCount.readCount (h : TellsCount part retries) (hrest : rest.head? ≠ some '(') :
    readCount (part ++ rest) = (retries, rest) := by
  cases h with
  | absent =>
      rw [List.nil_append]
      fun_cases RetryTag.readCount rest with
      | case1 => exact absurd rfl hrest
      | case2 | case3 | case4 | case5 => rfl
  | given hinner hcount hfits =>
      have hsplit := Text.splitAt?_append hinner rest
      simp [RetryTag.readCount, hsplit, Text.unsigned?_eq_some.mpr hcount, hfits]

/-- What is read as a count tells it, and all else is left. -/
theorem exists_tellsCount (text : List Char) :
    ∃ part, TellsCount part (readCount text).1 ∧ text = part ++ (readCount text).2 := by
  fun_cases readCount text with
  | case1 rest inner after hsplit count hcount hfits =>
      obtain ⟨hinner, rfl⟩ := Text.splitAt?_eq_some.mp hsplit
      exact ⟨_, .given hinner (Text.unsigned?_eq_some.mp hcount) hfits, by simp⟩
  | case2 | case3 | case4 | case5 => exact ⟨[], .absent, rfl⟩

/-- What tells a delay is read, whatever follows it. Where there is none, nothing may follow. -/
theorem TellsDelay.readAfter? (h : TellsDelay part after) (hbehind : after = none → behind = []) :
    readAfter? (part ++ behind) = some after := by
  cases h with
  | absent =>
      rw [hbehind rfl]
      rfl
  | given hinner hdelay =>
      have hsplit := Text.splitAt?_append hinner behind
      rw [RetryTag.readAfter?, List.append_assoc, Text.after?_eq_some.mpr rfl]
      simp [hsplit, hdelay]

/-- What is read as a delay tells it. Where there is none, nothing is left. -/
theorem exists_tellsDelay (h : readAfter? text = some after) :
    ∃ part behind, TellsDelay part after ∧ text = part ++ behind ∧ (after = none → behind = []) := by
  revert h
  fun_cases readAfter? text with
  | case1 rest hafter =>
      intro h
      simp only [Option.bind_eq_bind, Option.bind_eq_some_iff, Prod.exists] at h
      obtain ⟨inner, behind, hsplit, delay, hdelay, heq⟩ := h
      cases heq
      obtain ⟨hinner, rfl⟩ := Text.splitAt?_eq_some.mp hsplit
      exact ⟨_, behind, .given hinner hdelay, by simp [Text.after?_eq_some.mp hafter], nofun⟩
  | case2 | case4 => nofun
  | case3 _ hempty =>
      intro h
      cases h
      exact ⟨[], [], .absent, List.isEmpty_iff.mp hempty, fun _ => rfl⟩

/-- A delay, or nothing at all, does not begin like a count. -/
theorem TellsDelay.head? (h : TellsDelay part after) (hbehind : after = none → behind = []) :
    (part ++ behind).head? ≠ some '(' := by
  cases h with
  | absent => simp [hbehind rfl]
  | given => simp

/-! ## Tags -/

/-- A text that says what a tag says is read as this tag. -/
theorem SaysBefore.parse? {text : String} (h : tag.SaysBefore text behind)
    (hbehind : tag.after = none → behind = []) : parse? text = some tag := by
  obtain ⟨mark, count, delay, hmark, hcount, hdelay, htrim⟩ := h
  have hname := (Tag.normalizeChars_eq_iff (by simp)).mpr ⟨mark, hmark, htrim⟩
  rw [RetryTag.parse?, hname, Text.after?_eq_some.mpr rfl]
  simp [hcount.readCount (hdelay.head? hbehind), hdelay.readAfter? hbehind]

/-- A text that is read as a tag says what it says. -/
theorem exists_saysBefore {text : String} (h : parse? text = some tag) :
    ∃ behind, tag.SaysBefore text behind ∧ (tag.after = none → behind = []) := by
  simp only [parse?, Option.bind_eq_bind, Option.bind_eq_some_iff] at h
  obtain ⟨rest, hword, after, hafter, heq⟩ := h
  cases heq
  obtain ⟨count, hcount, hrest⟩ := exists_tellsCount rest
  obtain ⟨delay, behind, hdelay, hleft, hbehind⟩ := exists_tellsDelay hafter
  have hname := Text.after?_eq_some.mp hword
  obtain ⟨mark, hmark, htrim⟩ := (Tag.normalizeChars_eq_iff (by simp)).mp hname
  exact ⟨behind, ⟨mark, count, delay, hmark, hcount, hdelay, by rw [htrim, ← hleft, ← hrest]⟩, hbehind⟩

/-- A text is read as a retry tag exactly if it is one, up to what stands behind its delay. -/
theorem parse?_eq_some_iff (tag : RetryTag) (text : String) :
    parse? text = some tag ↔ ∃ behind, tag.SaysBefore text behind ∧ (tag.after = none → behind = []) := by
  constructor
  · exact exists_saysBefore
  · rintro ⟨behind, hsays, hbehind⟩
    exact hsays.parse? hbehind

/-- What stands behind a delay is passed over, although with it the text is no retry tag. -/
theorem overlong_taken :
    parse? "@retry.after(5s)!" = some ⟨none, some ⟨5000000000⟩⟩ ∧
      ¬ SaysBefore ⟨none, some ⟨5000000000⟩⟩ "@retry.after(5s)!" [] := by
  refine ⟨by decide +kernel, ?_⟩
  rintro ⟨mark, count, delay, -, -, hdelay, htrim⟩
  have htext : (Text.trim "@retry.after(5s)!".toList).getLast? = some '!' := by decide
  cases hdelay with
  | @given inner =>
      have hclosing : Text.trim "@retry.after(5s)!".toList =
          (mark ++ "retry".toList ++ count ++ ".after(".toList ++ inner) ++ [')'] := by
        rw [htrim]
        simp
      rw [hclosing, List.getLast?_concat] at htext
      exact absurd htext (by decide)

end Acceptance.RetryTag
