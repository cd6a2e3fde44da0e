import Acceptance.Proofs.Duration
import Acceptance.Proofs.RetryTag.Reading

/-!
# Retry tags

A retry tag says how often a scenario is tried again and how long to wait before that. Its text is read back
however it is spelled, and of all retry tags of a scenario the last one counts.
-/

namespace Acceptance

namespace RetryTag

/-- The text of a number of retries, if there is one. -/
def countText (retries : Option Nat) : String := retries.elim "" fun count => "(" ++ toString count ++ ")"

/-- The text of a delay, if there is one. -/
def delayText (after : Option Duration) : String :=
  after.elim "" fun delay => ".after(" ++ delay.toText ++ ")"

/-- The text of a retry tag. -/
def toText (tag : RetryTag) : String := "retry" ++ countText tag.retries ++ delayText tag.after

/-- A text spells a retry tag, with or without an `@` before it and whatever blanks there are around it. -/
def Spells (tag : RetryTag) (text : String) : Prop :=
  ∃ before after mark : List Char, (∀ c ∈ before, Text.isBlank c = true) ∧
    (∀ c ∈ after, Text.isBlank c = true) ∧ (mark = [] ∨ mark = ['@']) ∧
    text.toList = before ++ (mark ++ tag.toText.toList) ++ after

/-- The numbers of a retry tag are those that there are: its count and the seconds of its delay have 64
bits. -/
structure Fits (tag : RetryTag) : Prop where
  retries : ∀ count ∈ tag.retries, count < countLimit
  after : ∀ delay ∈ tag.after, delay.seconds < Duration.wordLimit

variable {tag : RetryTag}

/-! ## Counts and delays -/

/-- The text of a count that fits 64 bits tells it. -/
theorem tellsCount_countText {retries : Option Nat} (hretries : ∀ count ∈ retries, count < countLimit) :
    TellsCount (countText retries).toList retries := by
  cases retries with
  | none => exact .absent
  | some count =>
      have hdigits : ∀ c ∈ Nat.toDigits 10 count, c.isDigit = true :=
        fun c hc => Text.isDigit_of_mem_toDigits hc
      have htext : (countText (some count)).toList = '(' :: (Nat.toDigits 10 count ++ [')']) := by
        simp [countText]
      have htrim : Text.trim (Nat.toDigits 10 count) = Nat.toDigits 10 count :=
        Text.trim_eq_self (fun c hc => Text.isBlank_of_isDigit (hdigits c (List.mem_of_mem_head? hc)))
          fun c hc => Text.isBlank_of_isDigit (hdigits c (List.mem_of_mem_getLast? hc))
      rw [htext]
      refine .given (fun hclosing => ?_) ?_ (hretries count rfl)
      · exact absurd (hdigits _ hclosing) (by decide)
      · rw [htrim, ← Text.unsigned?_eq_some]
        exact Text.unsigned?_toDigits count

/-- The text of a delay tells it if its seconds fit 64 bits. -/
theorem tellsDelay_delayText {after : Option Duration}
    (hafter : ∀ delay ∈ after, delay.seconds < Duration.wordLimit) :
    TellsDelay (delayText after).toList after := by
  cases after with
  | none => exact .absent
  | some delay =>
      have htext : (delayText (some delay)).toList =
          ".after".toList ++ '(' :: (delay.toText.toList ++ [')']) := by
        simp [delayText]
      rw [htext]
      refine .given delay.toText_compact.unclosed ?_
      rw [delay.toText_compact.trim, String.ofList_toList]
      exact Duration.parse?_toText delay (hafter delay rfl)

/-! ## Tags -/

/-- The text of a tag begins and ends with what is neither a blank nor an `@`. -/
theorem toText_ends (tag : RetryTag) :
    tag.toText.toList.head? = some 'r' ∧ ∃ c ∈ tag.toText.toList.getLast?, Text.isBlank c = false := by
  constructor
  · simp [toText]
  · rcases tag with ⟨retries, after⟩
    cases after with
    | some delay =>
        exact ⟨')', by simp [toText, delayText, List.getLast?_cons, List.getLast?_append], by decide⟩
    | none =>
        cases retries with
        | some count => exact ⟨')', by simp [toText, countText, delayText, List.getLast?_cons], by decide⟩
        | none => exact ⟨'y', by simp [toText, countText, delayText], by decide⟩

theorem Spells.normalizeChars {text : String} (h : tag.Spells text) :
    Tag.normalizeChars text.toList = tag.toText.toList := by
  obtain ⟨before, after, mark, hbefore, hafter, hmark, htext⟩ := h
  obtain ⟨hhead, letter, hletter, hblank⟩ := tag.toText_ends
  rw [htext]
  apply Tag.normalizeChars_surrounded hbefore hafter hmark
  · intro c hc
    rw [hhead] at hc
    rw [← Option.some.inj hc]
    decide
  · intro c hc
    rwa [Option.mem_unique hc hletter]

/-- A retry tag whose numbers fit is read back from each of its spellings. -/
theorem Spells.parse? {text : String} (h : tag.Spells text) (hfits : tag.Fits) : parse? text = some tag := by
  have hhead : tag.toText.toList.head? ≠ some '@' := by
    rw [tag.toText_ends.1]
    decide
  obtain ⟨mark, hmark, htrim⟩ := (Tag.normalizeChars_eq_iff hhead).mp h.normalizeChars
  have hsays : tag.SaysBefore text [] := by
    refine ⟨mark, _, _, hmark, tellsCount_countText hfits.retries, tellsDelay_delayText hfits.after, ?_⟩
    rw [htrim]
    simp [toText]
  exact hsays.parse? fun _ => rfl

/-! ## Lists of tags -/

/-- The last retry tag of a list is found. -/
theorem find?_last {text : String} (htext : RetryTag.parse? text = some tag) {later : List String}
    (hlater : ∀ other ∈ later, RetryTag.parse? other = none) (earlier : List String) :
    find? (earlier ++ text :: later) = some tag := by
  have hnone : later.reverse.findSome? RetryTag.parse? = none := by simpa using hlater
  simp [find?, List.findSome?_append, hnone, htext]

theorem find?_none {tags : List String} (htags : ∀ text ∈ tags, RetryTag.parse? text = none) :
    find? tags = none := by
  simpa [find?] using htags

end RetryTag

/-- A retry tag says what its text says, however it is spelled. Where no later tag of a scenario is one, the
plan has its count, or at least one retry if it has none, and its delay, or the delay for the whole run if it
has none. Without a retry tag the plan is the one for the whole run. -/
theorem RetryPlan.resolve_reads_back {tag : RetryTag} (hfits : tag.Fits) {text : String}
    (hspells : tag.Spells text) (retries : Nat) (after : Option Duration) :
    RetryTag.parse? text = some tag ∧
      (∀ earlier later, (∀ other ∈ later, RetryTag.parse? other = none) →
        resolve (earlier ++ text :: later) retries after =
          ⟨tag.retries.getD (max retries 1), tag.after.or after⟩) ∧
      ∀ tags, (∀ other ∈ tags, RetryTag.parse? other = none) →
        resolve tags retries after = ⟨retries, after⟩ := by
  have hparse := hspells.parse? hfits
  refine ⟨hparse, ?_, ?_⟩
  · intro earlier later hlater
    rw [resolve, RetryTag.find?_last hparse hlater earlier]
  · intro tags htags
    rw [resolve, RetryTag.find?_none htags]

/-- Two retries, each after an hour and a half and a quarter of a second. -/
def patient : RetryTag := ⟨some 2, some ⟨5400250000000⟩⟩

theorem patient_spelled : patient.Spells "\t @retry(2).after(1h 30m 250ms) \n" :=
  ⟨['\t', ' '], [' ', '\n'], ['@'], by simp [Text.isBlank], by simp [Text.isBlank], .inr rfl,
    by decide +kernel⟩

theorem RetryPlan.resolve_reads_back_patient :
    RetryTag.parse? "\t @retry(2).after(1h 30m 250ms) \n" = some patient ∧
      resolve ["@retry(5)", "\t @retry(2).after(1h 30m 250ms) \n", "@retryable", "@retry(9).after(soon)"]
          0 none = ⟨2, some ⟨5400250000000⟩⟩ ∧
      resolve ["@retryable", "@retry(9).after(soon)"] 3 none = ⟨3, none⟩ := by
  have hfits : patient.Fits := ⟨by simp [patient, RetryTag.countLimit, twoTo], by simp [patient]; decide⟩
  have hlater : ∀ other ∈ ["@retryable", "@retry(9).after(soon)"], RetryTag.parse? other = none := by
    decide +kernel
  obtain ⟨hparse, hplan, -⟩ := resolve_reads_back hfits patient_spelled 0 none
  obtain ⟨-, -, hnone⟩ := resolve_reads_back hfits patient_spelled 3 none
  exact ⟨hparse, hplan ["@retry(5)"] _ hlater, hnone _ hlater⟩

end Acceptance
