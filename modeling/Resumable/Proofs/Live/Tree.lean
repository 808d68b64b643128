import Resumable.Live.Timeline
import Resumable.Proofs.Interleaving

/-! # The invocations of a run and their own records

A run's tree holds the invocation itself and all that its handlers ran. Each
invocation of it has records of its own: one when it begins, one or two for each
command, and one when it settles. The records of the run are those of the
invocations of its tree and no others, interleaved
(`LiveInvocation.interleaves_own`).
-/

namespace Resumable

mutual

/-- All invocations that came of a command, the outer before the inner. -/
def Dispatch.tree : Dispatch → List LiveInvocation
  | ⟨_, _, _, _, _, calls, _, _, _, _, _⟩ => callTree calls

/-- A handler's invocations and all that came of them. -/
def callTree : List (Invocation (List Dispatch) Empty) → List LiveInvocation
  | [] => []
  | ⟨site, procedure, args, opened, stages, closed, finish, ending⟩ :: rest =>
    ⟨site, procedure, args, opened, stages, closed, finish, ending⟩ ::
      (stageTree stages ++ callTree rest)

/-- All invocations that came of an invocation's steps. -/
def stageTree : List (Stage (List Dispatch) Empty) → List LiveInvocation
  | [] => []
  | ⟨_, _, _, dispatches, _, _⟩ :: rest => dispatchTree dispatches ++ stageTree rest

/-- All invocations that came of a step's commands. -/
def dispatchTree : List Dispatch → List LiveInvocation
  | [] => []
  | dispatch :: rest => dispatch.tree ++ dispatchTree rest

end

/-- A command's own records. -/
def Dispatch.own (dispatch : Dispatch) : List Emission :=
  dispatch.opened :: dispatch.closed.toList

/-- The records of a step's commands. -/
def Stage.own (stage : Stage (List Dispatch) Empty) : List Emission :=
  stage.evidence.flatMap Dispatch.own

namespace LiveInvocation

/-- The invocation and all that its handlers ran, the outer before the inner. -/
def tree (invocation : LiveInvocation) : List LiveInvocation :=
  callTree [invocation]

/-- An invocation's own records, command by command. -/
def own (invocation : LiveInvocation) : List Emission :=
  invocation.opened :: (invocation.stages.flatMap Stage.own ++ invocation.closed.toList)

end LiveInvocation

section Members

variable {inner : LiveInvocation}

theorem mem_callTree_iff {calls : List LiveInvocation} :
    inner ∈ callTree calls ↔ ∃ call ∈ calls, inner ∈ call.tree := by
  induction calls with
  | nil => simp only [callTree, List.not_mem_nil, false_and, exists_false]
  | cons call rest ih =>
      have split : callTree (call :: rest) = call.tree ++ callTree rest := by
        obtain ⟨_, _, _, _, stages, _, _, _⟩ := call
        simp only [callTree, LiveInvocation.tree, List.append_nil, List.cons_append]
      rw [split, List.mem_append, ih]
      constructor
      · rintro (here | ⟨other, member, there⟩)
        · exact ⟨call, List.mem_cons_self, here⟩
        · exact ⟨other, List.mem_cons_of_mem _ member, there⟩
      · rintro ⟨other, member, there⟩
        rcases List.mem_cons.mp member with rfl | member
        · exact .inl there
        · exact .inr ⟨other, member, there⟩

theorem mem_dispatchTree_iff {dispatches : List Dispatch} :
    inner ∈ dispatchTree dispatches ↔
      ∃ dispatch ∈ dispatches, ∃ call ∈ dispatch.calls, inner ∈ LiveInvocation.tree call := by
  induction dispatches with
  | nil => simp only [dispatchTree, List.not_mem_nil, false_and, exists_false]
  | cons dispatch rest ih =>
      have made : dispatch.tree = callTree dispatch.calls := by cases dispatch; rfl
      rw [dispatchTree, List.mem_append, ih, made, mem_callTree_iff, List.exists_mem_cons_iff]

theorem mem_stageTree_iff {stages : List (Stage (List Dispatch) Empty)} :
    inner ∈ stageTree stages ↔
      ∃ stage ∈ stages, ∃ dispatch ∈ stage.evidence, ∃ call ∈ dispatch.calls,
        inner ∈ LiveInvocation.tree call := by
  induction stages with
  | nil => simp only [stageTree, List.not_mem_nil, false_and, exists_false]
  | cons stage rest ih =>
      have split : stageTree (stage :: rest) = dispatchTree stage.evidence ++ stageTree rest := by
        cases stage
        rfl
      rw [split, List.mem_append, ih, mem_dispatchTree_iff, List.exists_mem_cons_iff]

theorem LiveInvocation.tree_eq (invocation : LiveInvocation) :
    invocation.tree = invocation :: stageTree invocation.stages := by
  cases invocation
  exact congrArg _ (List.append_nil _)

/-- The tree of an invocation holds it and what came of its commands. -/
theorem LiveInvocation.mem_tree_iff {invocation : LiveInvocation} :
    inner ∈ invocation.tree ↔ inner = invocation ∨
      ∃ stage ∈ invocation.stages, ∃ dispatch ∈ stage.evidence, ∃ call ∈ dispatch.calls,
        inner ∈ tree call := by
  rw [invocation.tree_eq, List.mem_cons, mem_stageTree_iff]

end Members

section Dispatched

variable {dispatch : Dispatch}

theorem mem_callDispatches_iff {calls : List LiveInvocation} :
    dispatch ∈ callDispatches calls ↔
      ∃ call ∈ calls, dispatch ∈ LiveInvocation.dispatches call := by
  induction calls with
  | nil => simp only [callDispatches, List.not_mem_nil, false_and, exists_false]
  | cons call rest ih =>
      have split : callDispatches (call :: rest) =
          LiveInvocation.dispatches call ++ callDispatches rest := by
        obtain ⟨_, _, _, _, stages, _, _, _⟩ := call
        simp only [callDispatches, LiveInvocation.dispatches, List.append_nil]
      rw [split, List.mem_append, ih, List.exists_mem_cons_iff]

theorem mem_allDispatches_iff {dispatches : List Dispatch} :
    dispatch ∈ allDispatches dispatches ↔ ∃ other ∈ dispatches, dispatch ∈ other.dispatches := by
  induction dispatches with
  | nil => simp only [allDispatches, List.not_mem_nil, false_and, exists_false]
  | cons other rest ih => rw [allDispatches, List.mem_append, ih, List.exists_mem_cons_iff]

theorem mem_stageDispatches_iff {stages : List (Stage (List Dispatch) Empty)} :
    dispatch ∈ stageDispatches stages ↔
      ∃ stage ∈ stages, ∃ other ∈ stage.evidence, dispatch ∈ other.dispatches := by
  induction stages with
  | nil => simp only [stageDispatches, List.not_mem_nil, false_and, exists_false]
  | cons stage rest ih =>
      have split : stageDispatches (stage :: rest) =
          allDispatches stage.evidence ++ stageDispatches rest := by
        cases stage
        rfl
      rw [split, List.mem_append, ih, mem_allDispatches_iff, List.exists_mem_cons_iff]

/-- What came of a command is the command and what came of its handler's invocations. -/
theorem Dispatch.mem_dispatches_iff {other : Dispatch} :
    dispatch ∈ other.dispatches ↔ dispatch = other ∨
      ∃ call ∈ other.calls, dispatch ∈ LiveInvocation.dispatches call := by
  cases other
  rw [dispatches, List.mem_cons, mem_callDispatches_iff]

theorem LiveInvocation.mem_dispatches_iff {invocation : LiveInvocation} :
    dispatch ∈ invocation.dispatches ↔
      ∃ stage ∈ invocation.stages, ∃ other ∈ stage.evidence, dispatch ∈ other.dispatches := by
  cases invocation
  rw [dispatches, callDispatches, callDispatches, List.append_nil, mem_stageDispatches_iff]

/-- The deaths of an invocation are those of its commands and those in what their handlers made. -/
theorem LiveInvocation.mem_deaths_iff {invocation : LiveInvocation} {death : Death} :
    death ∈ invocation.deaths ↔ ∃ stage ∈ invocation.stages, ∃ other ∈ stage.evidence,
      other.death? = some death ∨ ∃ call ∈ other.calls, death ∈ deaths call := by
  simp only [deaths, List.mem_filterMap]
  constructor
  · intro ⟨dispatch, among, died⟩
    obtain ⟨stage, staged, other, issued, among⟩ := mem_dispatches_iff.mp among
    refine ⟨stage, staged, other, issued, ?_⟩
    rcases Dispatch.mem_dispatches_iff.mp among with rfl | ⟨call, called, among⟩
    · exact .inl died
    · exact .inr ⟨call, called, dispatch, among, died⟩
  · rintro ⟨stage, staged, other, issued, died | ⟨call, called, dispatch, among, died⟩⟩
    · refine ⟨other, mem_dispatches_iff.mpr ⟨stage, staged, other, issued, ?_⟩, died⟩
      exact Dispatch.mem_dispatches_iff.mpr (.inl rfl)
    · refine ⟨dispatch, mem_dispatches_iff.mpr ⟨stage, staged, other, issued, ?_⟩, died⟩
      exact Dispatch.mem_dispatches_iff.mpr (.inr ⟨call, called, among⟩)

end Dispatched

mutual

/-- A command's records are its own and those of the invocations that came of it. -/
theorem Dispatch.interleaves_own : ∀ dispatch : Dispatch,
    Interleaves (dispatch.own :: dispatch.tree.map LiveInvocation.own) dispatch.emissions
  | ⟨command, step, index, place, opened, calls, draws, died, closed, finish, ending⟩ => by
      have inner := (callEmissions_interleaves_own calls).nil_cons.enclose [opened] closed.toList
      rw [List.append_nil] at inner
      exact inner

theorem callEmissions_interleaves_own : ∀ calls : List LiveInvocation,
    Interleaves ((callTree calls).map LiveInvocation.own) (callEmissions calls)
  | [] => .none_empty
  | ⟨site, procedure, args, opened, stages, closed, finish, ending⟩ :: rest => by
      have first := (stageEmissions_interleaves_own stages).enclose [opened] closed.toList
      have both := first.append_parts (callEmissions_interleaves_own rest)
      rw [← List.map_append] at both
      exact both

theorem stageEmissions_interleaves_own : ∀ stages : List (Stage (List Dispatch) Empty),
    Interleaves (stages.flatMap Stage.own :: (stageTree stages).map LiveInvocation.own)
      (stageEmissions stages)
  | [] => .single []
  | ⟨suspension, step, start, dispatches, finish, ending⟩ :: rest => by
      have both := (dispatchEmissions_interleaves_own dispatches).append
        (stageEmissions_interleaves_own rest)
      rw [← List.map_append] at both
      exact both

theorem dispatchEmissions_interleaves_own : ∀ dispatches : List Dispatch,
    Interleaves
      (dispatches.flatMap Dispatch.own :: (dispatchTree dispatches).map LiveInvocation.own)
      (dispatchEmissions dispatches)
  | [] => .single []
  | dispatch :: rest => by
      have both := dispatch.interleaves_own.append (dispatchEmissions_interleaves_own rest)
      rw [← List.map_append] at both
      exact both

end

/-- **The records of a run are those of the invocations of its tree.** Every
invocation's own records are among them in the order in which it lists them. -/
theorem LiveInvocation.interleaves_own (invocation : LiveInvocation) :
    Interleaves (invocation.tree.map LiveInvocation.own) invocation.emissions :=
  callEmissions_interleaves_own [invocation]

/-- No hook panicked on a record of the invocation or of what its handlers ran. -/
def LiveInvocation.Calm (invocation : LiveInvocation) : Prop :=
  ∀ inner ∈ invocation.tree, ∀ emission ∈ inner.own, emission.panic? = none

/-- No hook panicked on a record of the command or of what its handler ran. -/
structure Dispatch.Calm (dispatch : Dispatch) : Prop where
  own : ∀ emission ∈ dispatch.own, emission.panic? = none
  calls : ∀ call ∈ dispatch.calls, LiveInvocation.Calm call

namespace LiveInvocation

variable {invocation : LiveInvocation}

/-- A run is calm if none of its records made a hook panic. -/
theorem calm_of_emissions
    (calm : ∀ emission ∈ invocation.emissions, emission.panic? = none) : invocation.Calm := by
  intro inner member emission own
  exact calm emission (invocation.interleaves_own.mem_of_mem_part (List.mem_map_of_mem member) own)

theorem Calm.own (calm : invocation.Calm) :
    ∀ emission ∈ invocation.own, emission.panic? = none :=
  calm invocation (mem_tree_iff.mpr (.inl rfl))

/-- The commands of a calm run are calm. -/
theorem Calm.dispatch (calm : invocation.Calm) {stage : Stage (List Dispatch) Empty}
    (staged : stage ∈ invocation.stages) {dispatch : Dispatch}
    (issued : dispatch ∈ stage.evidence) : dispatch.Calm := by
  refine ⟨fun emission member => calm.own emission ?_, ?_⟩
  · refine List.mem_cons_of_mem _ (List.mem_append_left _ ?_)
    exact List.mem_flatMap.mpr ⟨stage, staged, List.mem_flatMap.mpr ⟨dispatch, issued, member⟩⟩
  · intro call called inner member
    apply calm inner
    exact mem_tree_iff.mpr (.inr ⟨stage, staged, dispatch, issued, call, called, member⟩)

end LiveInvocation

end Resumable
