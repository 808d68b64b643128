import Resumable.Live.Dispatch

/-!
# The records of a live run

A run's tree of invocations lists its records in tree order: an invocation's first record, then its
steps with the commands of a batch by position and what each command's handler ran between the
command's two records, and last the invocation's second record. `timeline` puts them in the order of
their times and keeps the tree order within one moment.
-/

namespace Resumable

mutual

/-- The emissions of a command and of all that its handler ran, in tree order. -/
def Dispatch.emissions : Dispatch → List Emission
  | ⟨_, _, _, _, opened, calls, _, _, closed, _, _⟩ =>
    opened :: callEmissions calls ++ closed.toList

def callEmissions : List (Invocation (List Dispatch) Empty) → List Emission
  | [] => []
  | ⟨_, _, _, opened, stages, closed, _, _⟩ :: rest =>
    (opened :: stageEmissions stages ++ closed.toList) ++ callEmissions rest

def stageEmissions : List (Stage (List Dispatch) Empty) → List Emission
  | [] => []
  | ⟨_, _, _, dispatches, _, _⟩ :: rest => dispatchEmissions dispatches ++ stageEmissions rest

def dispatchEmissions : List Dispatch → List Emission
  | [] => []
  | dispatch :: rest => dispatch.emissions ++ dispatchEmissions rest

end

mutual

/-- A command and all that came of it, in tree order. -/
def Dispatch.dispatches : Dispatch → List Dispatch
  | ⟨command, step, index, place, opened, calls, draws, died, closed, finish, ending⟩ =>
    ⟨command, step, index, place, opened, calls, draws, died, closed, finish, ending⟩ ::
      callDispatches calls

def callDispatches : List (Invocation (List Dispatch) Empty) → List Dispatch
  | [] => []
  | ⟨_, _, _, _, stages, _, _, _⟩ :: rest => stageDispatches stages ++ callDispatches rest

def stageDispatches : List (Stage (List Dispatch) Empty) → List Dispatch
  | [] => []
  | ⟨_, _, _, dispatches, _, _⟩ :: rest => allDispatches dispatches ++ stageDispatches rest

def allDispatches : List Dispatch → List Dispatch
  | [] => []
  | dispatch :: rest => dispatch.dispatches ++ allDispatches rest

end

/-- Emissions in the order of their times; those of one moment keep their order. -/
def timeline (emissions : List Emission) : List Emission :=
  chronological Emission.time emissions

namespace Stage

/-- The step as it is left when its caller drops it at `cutoff`: the record of a single command that
is still running is never emitted, while a batch's commands and all handlers go on. -/
def drop (cutoff : Nat) (stage : Stage (List Dispatch) Empty) : Stage (List Dispatch) Empty :=
  match stage.suspension with
  | .all _ => stage
  | .one _ =>
    if stage.finish ≤ cutoff then stage
    else
      { stage with
        evidence := stage.evidence.map fun dispatch => { dispatch with closed := none } }

end Stage

namespace LiveInvocation

def emissions (invocation : LiveInvocation) : List Emission :=
  callEmissions [invocation]

/-- All commands of the run, in tree order. -/
def dispatches (invocation : LiveInvocation) : List Dispatch :=
  callDispatches [invocation]

/-- The tasks of the run that died, in tree order. -/
def deaths (invocation : LiveInvocation) : List Death :=
  invocation.dispatches.filterMap Dispatch.death?

def endedBy (invocation : LiveInvocation) (time : Nat) : Bool :=
  invocation.finish ≤ time

/-- What is left of a run whose caller drops it at `cutoff`, before it has ended: it takes no
further step and emits no last record. -/
def abandon (cutoff : Nat) (invocation : LiveInvocation) : LiveInvocation :=
  { invocation with
    stages := (invocation.stages.filter fun stage => stage.start ≤ cutoff).map (Stage.drop cutoff)
    closed := none
    finish := cutoff }

end LiveInvocation

end Resumable
