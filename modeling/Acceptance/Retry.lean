import Acceptance.Duration
import Acceptance.Failure
import Acceptance.Tag

/-!
# Retries

How often a failed scenario is tried again and how long to wait before that, as told by tags such as
`@retry(2).after(1s)` or for the whole run.
-/

namespace Acceptance

/-- Retries made and retries left. -/
structure Retries where
  current : Nat
  left : Nat
deriving DecidableEq, Inhabited

namespace Retries

/-- A number of retries of which none is made. -/
def initial (left : Nat) : Retries := ⟨0, left⟩

/-- The state after one more retry, if one is left. -/
def next? (retries : Retries) : Option Retries :=
  match retries.left with
  | 0 => none
  | left + 1 => some ⟨retries.current + 1, left⟩

end Retries

/-- What a retry tag says. -/
structure RetryTag where
  retries : Option Nat
  after : Option Duration
deriving DecidableEq, Inhabited

namespace RetryTag

/-- The least number that is too large for a count of retries. -/
def countLimit : Nat := twoTo 64

/-- Reads the count of retries in parentheses. Anything else is left for what follows. -/
def readCount (text : List Char) : Option Nat × List Char :=
  match text with
  | '(' :: rest =>
    match Text.splitAt? ')' rest with
    | some (inner, after) =>
      match Text.unsigned? (Text.trim inner) with
      | some count => if count < countLimit then (some count, after) else (none, text)
      | none => (none, text)
    | none => (none, text)
  | _ => (none, text)

/-- Reads the delay that may follow: `.after` and a duration in parentheses. What stands behind its
closing parenthesis is ignored. Without a delay nothing may follow. -/
def readAfter? (text : List Char) : Option (Option Duration) :=
  match Text.after? ".after".toList text with
  | some ('(' :: rest) => do
    let (inner, _) ← Text.splitAt? ')' rest
    let duration ← Duration.parse? (String.ofList (Text.trim inner))
    some (some duration)
  | some _ => none
  | none => if text.isEmpty then some none else none

/-- Reads a retry tag. Any other tag is none. -/
def parse? (tag : String) : Option RetryTag := do
  let rest ← Text.after? "retry".toList (Tag.normalizeChars tag.toList)
  let (retries, rest) := readCount rest
  let after ← readAfter? rest
  some { retries, after }

/-- The last retry tag of a list: what is said closest to a scenario counts. -/
def find? (tags : List String) : Option RetryTag := tags.reverse.findSome? parse?

end RetryTag

/-- How often a scenario is retried, and how long to wait before each retry. -/
structure RetryPlan where
  retries : Nat
  after : Option Duration
deriving DecidableEq, Inhabited

namespace RetryPlan

/-- The plan for a scenario with some tags, given what holds for the whole run. A retry tag without a
count allows at least one retry. -/
def resolve (tags : List String) (retries : Nat) (after : Option Duration) : RetryPlan :=
  match RetryTag.find? tags with
  | some tag => ⟨tag.retries.getD (max retries 1), tag.after.or after⟩
  | none => ⟨retries, after⟩

end RetryPlan

end Acceptance
