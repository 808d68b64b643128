import Resumable.Invocation
import Resumable.Handler
import Resumable.Live.Chronology
import Resumable.Live.Gather

/-!
# Dispatching commands to handlers

A `Dispatch` is one command and what its handler did about it, between the `command` and the
`command_complete` record: the handler's activity is played in virtual time, and the invocations
that it makes are kept. Commands of a batch all start at one moment. The activity has a task of its
own, so that a panic of the handler, or of an invocation that it makes, is only a failure of the
command. A panic of a hook on one of the command's own two records is not contained in this way.

Two things come to a dispatch from outside, and it is played against a `Runtime` that has them.
Counters are shared between tasks: a `Numbering` says what each draw from a counter gives, and the
dispatch keeps its draws. Tasks have numbers, and the text of a command's failure names the task
that has died: the runtime says what it is for each `Death`. Draws and tasks are identified by their
places in the tree.
-/

namespace Resumable

open Json (Value)

/-- A place in the tree of a run: steps, positions in batches and positions in activities, from the
outside in. -/
abbrev Place := List Nat

/-- One number drawn from a counter. -/
structure Draw where
  place : Place
  counter : Nat
  /-- The virtual time, in milliseconds. -/
  time : Nat
deriving DecidableEq

/-- What every draw gives. -/
abbrev Numbering := Place → Nat

/-- A panic ended the task of a handler. -/
structure Death where
  /-- The place of the command, which tells its task from all others. -/
  place : Place
  message : String
deriving DecidableEq

/-- What a run is given from outside. -/
structure Runtime where
  draw : Numbering
  /-- What is said of a task that died. -/
  describe : Death → String

/-- All draws give zero, and the message of its panic is said of a task. -/
instance : Inhabited Runtime :=
  ⟨⟨fun _ => 0, Death.message⟩⟩

/-- One command given to its handler. -/
structure Dispatch where
  command : Command
  step : Nat
  index : Nat
  /-- Where the command is in the tree of the run. -/
  place : Place
  /-- The `command` record. -/
  opened : Emission
  /-- The invocations that the handler made, in order. -/
  calls : List (Invocation (List Dispatch) Empty)
  /-- The numbers that the handler and all that it ran drew, in tree order. -/
  draws : List Draw
  /-- The message of the panic that ended the handler's task, if one did. -/
  died : Option String
  /-- The `command_complete` record. -/
  closed : Option Emission
  finish : Nat
  ending : Ending Empty

/-- An invocation whose commands go to handlers. -/
abbrev LiveInvocation := Invocation (List Dispatch) Empty

/-- The numbers that were drawn in an invocation, in tree order. -/
def LiveInvocation.draws (invocation : LiveInvocation) : List Draw :=
  invocation.stages.flatMap fun stage => stage.evidence.flatMap Dispatch.draws

structure Played where
  calls : List LiveInvocation
  draws : List Draw
  finish : Nat
  /-- The outcome, or the message of a panic. -/
  result : Except String Outcome

/-- How a handler runs a procedure: at a place, with arguments, at a time. -/
abbrev Invoke := Place → Procedure → Value → (now : Nat) → Option LiveInvocation

namespace Activity

/-- Plays an activity whose next part has position `position` in the task at `place`. -/
def play (numbering : Numbering) (invoke : Invoke) (place : Place) :
    Activity → (position now : Nat) → Option Played
  | .settle outcome, _, now => some ⟨[], [], now, .ok outcome⟩
  | .panic message, _, now => some ⟨[], [], now, .error message⟩
  | .sleep ms next, position, now => next.play numbering invoke place position (now + ms)
  | .draw counter next, position, now => do
    let here := place ++ [position]
    let rest ← (next (numbering here)).play numbering invoke place (position + 1) now
    pure { rest with draws := ⟨here, counter, now⟩ :: rest.draws }
  | .call procedure args next, position, now => do
    let invocation ← invoke (place ++ [position]) procedure args now
    match invocation.ending with
    | .settled outcome => do
      let rest ← (next outcome).play numbering invoke place (position + 1) invocation.finish
      pure { rest with calls := invocation :: rest.calls, draws := invocation.draws ++ rest.draws }
    | .unwound message =>
      pure ⟨[invocation], invocation.draws, invocation.finish, .error message⟩

end Activity

/-- The message of the panic that the activity ended with, if it did. -/
def Played.died (played : Played) : Option String :=
  match played.result with
  | .ok _ => none
  | .error message => some message

/-- The failure of a command whose task died. -/
def Runtime.panicked (runtime : Runtime) (death : Death) : Failure :=
  ⟨.panicked, runtime.describe death⟩

namespace Dispatch

/-- How the task of the command at `place` turns out when its handler's activity has been played. -/
def taskOutcome (runtime : Runtime) (place : Place) : Except String Outcome → Outcome
  | .ok outcome => outcome
  | .error message => .error (runtime.panicked ⟨place, message⟩)

/-- Plays the handler of a command, if there is one. -/
def handle (handlers : Handlers) (numbering : Numbering) (invoke : Site → Invoke)
    (site : Site) (place : Place) (command : Command) (now : Nat) : Option Played :=
  match handlers.get? command.type with
  | none => some ⟨[], [], now, .ok (.error (.noHandler command.type))⟩
  | some handler =>
    (handler command ⟨handlers.types, site⟩).play numbering (invoke site) place 0 now

def one (handlers : Handlers) (runtime : Runtime) (invoke : Site → Invoke)
    (site : Site) (place : Place) (command : Command) (step index now : Nat) :
    Option Dispatch :=
  let here := place ++ [step, index]
  let start := Instant.ofMillis now
  let opened := site.emit now
    (.command command (UInt64.ofNat step) (UInt64.ofNat index) start)
  match opened.panic? with
  | some message =>
    some ⟨command, step, index, here, opened, [], [], none, none, now, .unwound message⟩
  | none => do
    let played ← handle handlers runtime.draw invoke site here command now
    let outcome := taskOutcome runtime here played.result
    let closed := site.emit played.finish
      (.commandComplete command (UInt64.ofNat step) (UInt64.ofNat index) start
        (.ofOutcome start (Instant.ofMillis played.finish) outcome))
    let ending :=
      match closed.panic? with
      | some message => .unwound message
      | none => .settled outcome
    pure ⟨command, step, index, here, opened, played.calls, played.draws, played.died, some closed,
      played.finish, ending⟩

/-- How the command's task died, if it did. -/
def death? (dispatch : Dispatch) : Option Death :=
  dispatch.died.map fun message => ⟨dispatch.place, message⟩

/-- The report that the dispatch of a batch's command makes, with its time. -/
def report? (dispatch : Dispatch) : Option (Nat × Report) :=
  dispatch.ending.outcome?.map fun outcome => (dispatch.finish, ⟨dispatch.index, outcome⟩)

/-- The reports of a batch in order of arrival, those of one moment by position. -/
def arrivals (dispatches : List Dispatch) : List (Nat × Report) :=
  chronological Prod.fst (dispatches.filterMap report?)

def batchOutcome (dispatches : List Dispatch) : Outcome :=
  gather dispatches.length ((arrivals dispatches).map Prod.snd)

/-- When a batch that began at `now` settles: with its first failure, or with the last command. -/
def batchFinish (now : Nat) (dispatches : List Dispatch) : Nat :=
  match (arrivals dispatches).find? fun arrival => !arrival.2.outcome.toBool with
  | some arrival => arrival.1
  | none => (dispatches.map Dispatch.finish).foldl max now

/-- Dispatches the commands of a batch, all at one moment. -/
def all (handlers : Handlers) (runtime : Runtime) (invoke : Site → Invoke)
    (site : Site) (place : Place) (commands : List Command) (step now : Nat) :
    Option (List Dispatch) :=
  commands.zipIdx.mapM fun (command, index) =>
    one handlers runtime invoke site place command step index now

def suspension (handlers : Handlers) (runtime : Runtime) (invoke : Site → Invoke)
    (site : Site) (place : Place) (suspension : Suspension) (step index now : Nat) :
    Option (Performance Unit (List Dispatch) Empty) :=
  match suspension with
  | .one command => do
    let dispatch ← one handlers runtime invoke site place command step index now
    pure ⟨(), [dispatch], dispatch.finish, dispatch.ending⟩
  | .all commands => do
    let dispatches ← all handlers runtime invoke site place commands step now
    pure ⟨(), dispatches, batchFinish now dispatches, .settled (batchOutcome dispatches)⟩

end Dispatch

/-- The performer that asks handlers about the commands of an invocation at `place`. -/
def handling (handlers : Handlers) (runtime : Runtime) (invoke : Site → Invoke)
    (place : Place) : Performer Unit (List Dispatch) Empty where
  perform := fun _ site suspension step now =>
    Dispatch.suspension handlers runtime invoke site place suspension step 0 now
  errorText := nofun

/-- Runs a procedure inside `parent`. Both the nesting of runs and the number of suspensions of each
are bounded by `fuel`. -/
def invoke (handlers : Handlers) (runtime : Runtime) :
    (fuel : Nat) → (parent : Site) → Invoke
  | 0, _ => fun _ _ _ _ => none
  | fuel + 1, parent => fun place procedure args now =>
    let site := parent.enter ⟨procedure.name, args, handlers.types⟩
    let performer := handling handlers runtime (invoke handlers runtime fuel) place
    (performer.invoke site procedure args now (fuel + 1) ()).map Prod.fst

end Resumable
