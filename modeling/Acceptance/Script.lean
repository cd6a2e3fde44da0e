import Acceptance.Feature.Json
import Acceptance.Pool

/-!
# Scripts

Handlers, hooks and strategies that are given as lists of actions, for rehearsing how a run goes
without any code behind its steps. Every scripted scenario has a world with a number and a total, and
what the actions see and do is noted in the events of the run.
-/

namespace Acceptance.Script

/-- The world of a scripted scenario: its number in the order of creation, and a running total. -/
structure World where
  id : Nat
  total : Int64 := 0
deriving DecidableEq, Inhabited

/-- What a script does. -/
inductive Action
  | show
  | log (line : String)
  | fail (message : String)
  | failWithin (outer inner : String)
  | failUntil (attempt : Nat)
  | panic (panic : Panic)
  | pause (times : Nat)
  | sleep (milliseconds : Nat)
  | hang
  | bump
  | add (index : Nat)
  | expect (index : Nat)
  | logFloat (index : Nat)
  | logText (index : Nat)
  | logTable
  | logDocString
deriving DecidableEq, Inhabited

/-- Notes a line. -/
def note {τ : Type} (line : String) : Task τ Event Reply := do
  Task.report (.note line)
  pure (.ok ⟨⟩)

/-- Pauses a number of times. -/
def pauses {τ : Type} : Nat → Task τ Event Reply
  | 0 => .done (.ok ⟨⟩)
  | times + 1 => .pause (pauses times)

/-- Performs an action that needs no world, given the line that shows the surroundings and the number
of the attempt. An action that needs a world does nothing. -/
def perform {τ : Type} (line : String) (attempt : Nat) : Action → Task τ Event Reply
  | .show => note line
  | .log text => note text
  | .fail message => pure (.error message)
  | .failWithin outer inner => pure (.error (outer ++ ": " ++ inner))
  | .failUntil first =>
    if attempt < first then
      pure (.error ("attempt " ++ toString attempt ++ " of " ++ toString first ++ " failed"))
    else pure (.ok ⟨⟩)
  | .panic panic => .crash panic
  | .pause times => pauses times
  | .sleep milliseconds => .sleep (Duration.ofMilliseconds milliseconds).nanoseconds (pure (.ok ⟨⟩))
  | .hang => .hang
  | _ => pure (.ok ⟨⟩)

/-- Performs actions in order up to the first that fails. -/
def performAll {τ α : Type} (act : α → Task τ Event Reply) : List α → Task τ Event Reply
  | [] => pure (.ok ⟨⟩)
  | action :: rest => do
    match ← act action with
    | .ok _ => performAll act rest
    | .error message => pure (.error message)

/-- A world as text, or a dash where there is none. -/
def showWorld : Option World → String
  | some world => toString world.id ++ "/" ++ toString world.total.toInt
  | none => "-"

/-- The end of every line about surroundings. -/
def showAttempt (attempt : Nat) (world : Option World) : String :=
  "|attempt " ++ toString attempt ++ "|world " ++ showWorld world

/-- An argument with its kind. -/
def showArgument (argument : Argument) : String :=
  argument.kind.toText ++ ":" ++ argument.toText

/-- The line about a step that is run. -/
def showStep (context : StepContext) (world : World) : String :=
  "step|" ++ context.keyword ++ "|" ++ context.text ++ "|[" ++
    Text.join "," (context.args.map showArgument) ++ "]" ++ showAttempt context.attempt world

/-- The line about a hook that is called. -/
def showHook (phase : Phase) (context : HookContext) (world : Option World) : String :=
  phase.toText ++ "|" ++ context.feature ++ "|" ++ context.scenario.getD "-" ++ "|" ++
    context.step.getD "-" ++ "|[" ++ Text.join "," context.tags ++ "]|" ++
    (context.status.map Status.toText).getD "-" ++ showAttempt context.attempt world

/-- Goes on with an argument, or fails with the reason why there is none. -/
def withArgument {τ α : Type} (argument : Except ArgumentError α) (next : α → Task τ Event Reply) :
    Task τ Event Reply :=
  match argument with
  | .ok value => next value
  | .error error => pure (.error error.message)

/-- Changes the world. -/
def modifyWorld (f : World → World) : Task (Nat × World) Event Reply := do
  Task.modify fun state => (state.1, f state.2)
  pure (.ok ⟨⟩)

/-- Adds to the total. -/
def addToTotal (amount : Int64) : Task (Nat × World) Event Reply :=
  modifyWorld fun world => { world with total := world.total + amount }

/-- Performs an action of a step. -/
def performStep (context : StepContext) (action : Action) : Task (Nat × World) Event Reply := do
  let world := (← Task.get).2
  match action with
  | .bump => addToTotal 1
  | .add index => withArgument (context.int index) fun amount => addToTotal (.ofInt amount)
  | .expect index =>
    withArgument (context.int index) fun expected =>
      if world.total = .ofInt expected then pure (.ok ⟨⟩)
      else
        pure <| .error <|
          "total is " ++ toString world.total.toInt ++ ", expected " ++ toString expected
  | .logFloat index =>
    withArgument (context.float index) fun value => note ("float " ++ value.toText)
  | .logText index => withArgument (context.str index) fun text => note ("str " ++ text)
  | .logTable =>
    note (context.table?.elim "no table" fun table => (Json.ofRows table.raw).compact)
  | .logDocString => note ("doc " ++ context.docString?.getD "-")
  | action => perform (showStep context world) context.attempt action

/-- A handler that performs actions. -/
def handler (actions : List Action) : Handler Nat World := fun context =>
  .done (performAll (performStep context) actions)

/-- A fallback that takes over the steps whose text starts in a given way. -/
def fallback (start : String) (actions : List Action) : Fallback Nat World := fun context => do
  Task.report (.note ("fallback " ++ context.text))
  let taken := context.text.startsWith start
  pure (if taken then some (performAll (performStep context) actions) else none)

/-- Where an action of a hook is performed. -/
inductive Scope
  | feature (name : String)
  | scenario (name : String)
  | step (text : String)
deriving DecidableEq

/-- Whether a hook is called in a scope. -/
def Scope.includes (context : HookContext) : Scope → Bool
  | feature name => context.feature = name
  | scenario name => context.scenario = some name
  | step text => context.step = some text

/-- An action of a hook, performed where the hook is called in all of some scopes. -/
structure GuardedAction where
  action : Action
  scopes : List Scope := []

/-- Performs an action of a hook with or without a world, given how to count in the world. -/
def performHook {τ : Type} (phase : Phase) (context : HookContext) (world : Option World)
    (bump : Task τ Event Reply) (guarded : GuardedAction) : Task τ Event Reply :=
  if guarded.scopes.all (Scope.includes context) then
    match guarded.action with
    | .bump => bump
    | action => perform (showHook phase context world) context.attempt action
  else pure (.ok ⟨⟩)

/-- A hook that performs actions. -/
def hook (phase : Phase) (actions : List GuardedAction) : HookAction Nat World where
  withWorld context :=
    .done <| performAll
      (fun action => do
        let world := (← Task.get).2
        performHook phase context world (addToTotal 1) action)
      actions
  alone context := .done <| performAll (performHook phase context none (pure (.ok ⟨⟩))) actions

/-- What comes of the creation of a world. -/
inductive Creation
  | created
  | refused (message : String)
  | panicked (message : String)
deriving DecidableEq, Inhabited

/-- Creates the next world as told by a list, which is followed by any number of creations that go
well. -/
def newWorld (creations : List Creation) : Task Nat Event (Task Nat Event (Except String World)) :=
  .done do
    let id := (← Task.get) + 1
    Task.set id
    Task.report (.note ("world " ++ toString id))
    match creations.getD (id - 1) .created with
    | .created => pure (.ok { id })
    | .refused message => pure (.error message)
    | .panicked message => .crash (.text message)

/-- When a scripted strategy retries. -/
inductive Advice
  | always
  | never
  | only (kinds : List StepError.Kind)
  | below (attempt : Nat)
  | crash (message : String)
deriving DecidableEq

/-- The line about a strategy that is consulted. -/
def showConsultation (error : StepError) (context : RetryContext) : String :=
  "strategy|" ++ error.kind.toText ++ "|" ++ context.key.toText ++ "|" ++ context.step ++
    "|attempt " ++ toString context.attempt ++ "|current " ++ toString context.retries.current ++
    " left " ++ toString context.retries.left

/-- A strategy that notes when it is consulted. -/
def strategy (advice : Advice) : Strategy Nat := fun error context => do
  Task.report (.note (showConsultation error context))
  match advice with
  | .always => pure true
  | .never => pure false
  | .only kinds => pure (kinds.contains error.kind)
  | .below attempt => pure (context.attempt < attempt)
  | .crash message => .crash (.text message)

/-- A unit of work for a pool that is given by its records: an attempt number and an outcome for each
one. It may pause first, and crash before it makes them. -/
structure Errand where
  name : String
  records : List (Nat × Status)
  pauses : Nat := 0
  crash : Option String := none
deriving DecidableEq

/-- The record of an attempt at an errand. -/
def Errand.record (instance_ : Instance) (now attempt : Nat) (status : Status) : Record :=
  let error := if status = .failed then some (.world ("record " ++ toString attempt)) else none
  .ofAttempt instance_ attempt [] status error [] now now

/-- Runs an errand as the unit with a number. -/
def Errand.run {τ : Type} (errand : Errand) (instance_ : Instance) (unit : Nat) :
    Task τ Event (List Record) := do
  Task.report (.note ("start " ++ toString unit))
  let _ ← Script.pauses errand.pauses
  match errand.crash with
  | some message => .crash (.text message)
  | none => do
    let now ← Task.now
    Task.report (.note ("end " ++ toString unit))
    pure (errand.records.map fun record => Errand.record instance_ now record.1 record.2)

/-- The work of a pool on errands of a feature. -/
def errandPlan (failFast : Bool) (feature : Feature) (errands : List Errand) :
    Pool.Plan Unit Unit where
  failFast := failFast
  jobs := errands.mapIdx fun unit errand =>
    let instance_ := Instance.plain feature { name := errand.name }
    { instance_, gate := none, body := fun _ => errand.run instance_ unit }

end Acceptance.Script
