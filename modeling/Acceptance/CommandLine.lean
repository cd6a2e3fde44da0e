import Acceptance.Options
import Acceptance.Power

/-!
# The command line

The options of a run as arguments of a command: options with a value, switches, and the paths of
features. Arguments are taken from left to right. The value of an option is checked when the option
after it is taken, so that an unknown option is found before a bad value in front of it.
-/

namespace Acceptance.CommandLine

/-- Why arguments are refused. A request for help is refused too. -/
inductive Error
  | unknownOption
  | missingValue
  | badValue
  | repeatedOption
  | unexpectedValue
  | help
deriving DecidableEq, Inhabited

/-- The options that have a value. -/
inductive Setting
  | tags | excludeTags | name | workers | retry | retryAfter | stepTimeout
deriving DecidableEq, Inhabited

/-- The options that have none. -/
inductive Switch
  | failFast | dryRun
deriving DecidableEq, Inhabited

/-- What an option stands for. -/
inductive Meaning
  | setting (setting : Setting)
  | switch (switch : Switch)
  | help
deriving DecidableEq

/-- The options with long names. -/
def longNames : List (String × Meaning) :=
  [("tags", .setting .tags), ("exclude-tags", .setting .excludeTags), ("name", .setting .name),
    ("workers", .setting .workers), ("retry", .setting .retry),
    ("retry-after", .setting .retryAfter), ("step-timeout", .setting .stepTimeout),
    ("fail-fast", .switch .failFast), ("ff", .switch .failFast), ("dry-run", .switch .dryRun),
    ("help", .help)]

/-- The options with names of one letter. -/
def shortNames : List (Char × Meaning) :=
  [('t', .setting .tags), ('n', .setting .name), ('j', .setting .workers), ('h', .help)]

/-- Arguments that belong to an option or to the paths, and are not checked yet. -/
inductive Pending
  | setting (setting : Setting) (values : List String)
  | paths (values : List String)

/-- What is known of a command line so far. -/
structure Reading where
  options : Options := {}
  given : List Setting := []
  switched : List Switch := []
  pending : Option Pending := none
  awaiting : Bool := false
  onlyPaths : Bool := false

/-- A condition on tags, if the text is one. -/
def tagsOf (value : String) : Except Error Tag.Expression :=
  match Tag.Expression.parse value with
  | .ok expression => .ok expression
  | .error _ => .error .badValue

/-- A count, if the text is one. -/
def countOf (value : String) : Except Error Nat :=
  match Text.unsigned? value.toList with
  | some count => if count < twoTo 64 then .ok count else .error .badValue
  | none => .error .badValue

/-- A length of time, if the text is one. -/
def durationOf (value : String) : Except Error Duration :=
  match Duration.parse? value with
  | some duration => .ok duration
  | none => .error .badValue

namespace Setting

/-- The options of a run with a setting that has a value. There is at least one worker. -/
def apply (setting : Setting) (value : String) (options : Options) : Except Error Options :=
  match setting with
  | tags => do .ok { options with includeTags := some (← tagsOf value) }
  | excludeTags => do .ok { options with excludeTags := some (← tagsOf value) }
  | name => .ok { options with nameFilter := some value }
  | workers => do .ok { options with workers := max 1 (← countOf value) }
  | retry => do .ok { options with retries := ← countOf value }
  | retryAfter => do .ok { options with retryAfter := some (← durationOf value) }
  | stepTimeout => do .ok { options with stepTimeout := some (← durationOf value) }

end Setting

/-- The options of a run with a switch turned on. -/
def Switch.apply (options : Options) : Switch → Options
  | failFast => { options with failFast := true }
  | dryRun => { options with dryRun := true }

namespace Reading

/-- Takes an option with its values, of which it has to have exactly one. -/
def takeSetting (reading : Reading) (setting : Setting) (values : List String) :
    Except Error Reading :=
  match values with
  | [] => .error .missingValue
  | value :: _ =>
    if reading.given.contains setting then .error .repeatedOption
    else do
      let options ← setting.apply value reading.options
      .ok { reading with options, given := setting :: reading.given }

/-- Takes paths. None of them may be empty. -/
def takePaths (reading : Reading) (values : List String) : Except Error Reading :=
  if values.contains "" then .error .missingValue
  else
    .ok { reading with
      options := { reading.options with paths := reading.options.paths ++ values } }

/-- Checks what is pending. -/
def settle (reading : Reading) : Except Error Reading :=
  let settled := { reading with pending := none }
  match reading.pending with
  | none => .ok settled
  | some (.setting setting values) => settled.takeSetting setting values
  | some (.paths values) => settled.takePaths values

/-- Takes a path. -/
def takePath (reading : Reading) (value : String) : Except Error Reading :=
  match reading.pending with
  | some (.paths values) => .ok { reading with pending := some (.paths (values ++ [value])) }
  | _ => do .ok { ← reading.settle with pending := some (.paths [value]) }

/-- Takes a switch. -/
def takeSwitch (reading : Reading) (switch : Switch) : Except Error Reading := do
  let reading ← reading.settle
  if reading.switched.contains switch then .error .repeatedOption
  else
    .ok { reading with
      options := switch.apply reading.options, switched := switch :: reading.switched }

/-- Takes an option with the value attached to it, if there is one. -/
def takeOption (reading : Reading) (value : Option String) : Meaning → Except Error Reading
  | .setting setting =>
    match value with
    | some value => do (← reading.settle).takeSetting setting [value]
    | none => do
      .ok { ← reading.settle with pending := some (.setting setting []), awaiting := true }
  | .switch switch => if value.isSome then .error .unexpectedValue else reading.takeSwitch switch
  | .help =>
    if value.isSome then .error .unexpectedValue
    else do
      let _ ← reading.settle
      .error .help

/-- Takes an argument that begins with two dashes, without these. -/
def takeLong (reading : Reading) (text : List Char) : Except Error Reading :=
  let (name, value) := match Text.splitAt? '=' text with
    | some (name, value) => (name, some (String.ofList value))
    | none => (text, none)
  match longNames.lookup (String.ofList name) with
  | some meaning => reading.takeOption value meaning
  | none => .error .unknownOption

/-- Takes an argument that begins with one dash, without it: letters, of which the first one with a
value takes the rest of the argument. -/
def takeShort (reading : Reading) : List Char → Except Error Reading
  | [] => .ok reading
  | letter :: rest =>
    match shortNames.lookup letter with
    | some (.setting setting) =>
      let value := match rest with
        | [] => none
        | '=' :: value => some (String.ofList value)
        | value => some (String.ofList value)
      reading.takeOption value (.setting setting)
    | some meaning => do (← reading.takeOption none meaning).takeShort rest
    | none => .error .unknownOption

/-- Takes an argument that is a value: of the option before it, or a path. -/
def takeValue (reading : Reading) (value : String) : Except Error Reading :=
  if reading.awaiting && !reading.onlyPaths then
    match reading.pending with
    | some (.setting setting values) =>
      .ok { reading with pending := some (.setting setting (values ++ [value])), awaiting := false }
    | _ => { reading with awaiting := false }.takePath value
  else reading.takePath value

/-- Takes an argument. Behind two dashes there are only paths. -/
def take (reading : Reading) (argument : String) : Except Error Reading :=
  if reading.onlyPaths then reading.takePath argument
  else
    match argument.toList with
    | ['-', '-'] => .ok { reading with onlyPaths := true }
    | '-' :: '-' :: text => { reading with awaiting := false }.takeLong text
    | ['-'] => reading.takeValue argument
    | '-' :: text => { reading with awaiting := false }.takeShort text
    | _ => reading.takeValue argument

end Reading

/-- The options of a run from the arguments of a command. -/
def parse (arguments : List String) : Except Error Options := do
  let reading ← arguments.foldlM Reading.take {}
  .ok (← reading.settle).options

end Acceptance.CommandLine
