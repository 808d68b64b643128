import Resumable.Verify.Replay

/-!
# Verifying a procedure

`Verification.run` runs a procedure against its script and compares how it settles with the
script's terminal. What the script still expects counts before the outcome does: a computation that
settles early mostly settles with the wrong value too, and what is left says more.
-/

namespace Resumable

open Json (Value)

namespace Script

/-- Inserts a text into ascending texts, unless it is among them. -/
def insertType (type : String) : List String → List String
  | [] => [type]
  | first :: rest =>
    if type < first then type :: first :: rest
    else if type = first then first :: rest
    else first :: insertType type rest

/-- The types of all expected commands in ascending order. -/
def types (script : Script) : List String :=
  (script.expectations.flatMap fun expectation =>
    expectation.suspension.commands.map Command.type).foldr insertType []

end Script

namespace Terminal

/-- How an outcome departs from a terminal, if it does. -/
def violation? : Terminal → Outcome → Option Violation
  | returns expected, .ok actual => (Value.difference? expected actual).map .returnMismatch
  | returns expected, .error actual => some (.unexpectedFailure expected actual)
  | throws expected, .ok actual => some (.unexpectedReturn expected actual)
  | throws expected, .error actual =>
    if expected = actual then none else some (.failureMismatch expected actual)

end Terminal

/-- An invocation whose suspensions were answered by a script. -/
abbrev ScriptedInvocation := Invocation (List Emission) Violation

namespace ScriptedInvocation

def emissions (invocation : ScriptedInvocation) : List Emission :=
  invocation.opened :: (invocation.stages.flatMap Stage.evidence ++ invocation.closed.toList)

end ScriptedInvocation

/-- A check of a procedure against a script. -/
structure Verification where
  /-- The run, if the script is one. -/
  invocation : Option ScriptedInvocation
  /-- The violation, or the message of a panic that ended the check. -/
  verdict : Except String (Option Violation)

namespace Verification

/-- What is wrong with a run that has left `replay` and ended in some way. -/
def judge (terminal : Terminal) (replay : Replay) :
    Ending Violation → Except String (Option Violation)
  | .unwound message => .error message
  | .halted violation => .ok (some violation)
  | .settled outcome =>
    match replay.remaining with
    | next :: _ =>
      .ok (some (.unconsumed replay.taken replay.remaining.length next.suspension.toJson))
    | [] => .ok (terminal.violation? outcome)

/-- The site of a check: a root with the procedure's frame. -/
def site (config : Config) (fresh : RunId) (procedure : Procedure) (script : Script) :
    Site :=
  (Site.root config fresh).enter ⟨procedure.name, script.args, script.types⟩

/-- Checks a procedure against a script. -/
def run (config : Config) (fresh : RunId) (procedure : Procedure) (script : Script) :
    Verification :=
  match script.checked with
  | .error violation => ⟨none, .ok (some violation)⟩
  | .ok terminal =>
    let (invocation, replay) :=
      (Replay.ofList script.expectations).run (site config fresh procedure script)
        procedure script.args
    ⟨some invocation, judge terminal replay invocation.ending⟩

def emissions (verification : Verification) : List Emission :=
  (verification.invocation.map ScriptedInvocation.emissions).getD []

end Verification

end Resumable
