import Resumable.Proofs.Live.Accounts
import Resumable.Proofs.Loop

/-! # Where records come from

An invocation of a run's tree has an address: the step, the command and the call by
which it and each one above it came to be (`LiveInvocation.at?`). An invocation is
rooted at a site if its own place is one frame deeper, its records carry the trace of
this place, and what its handlers invoke is rooted there (`LiveInvocation.Rooted`).

What is invoked at a site is rooted there (`rooted_of_invoke`), and so is what is left of
it when its caller drops it. The stack of every record is therefore the way from the
outermost invocation to the one that owns the record, and what happens in other
branches of a batch does not show in it (`Host.traces_every_record`).
-/

namespace Resumable

open Json (Value)

/-- The procedure and the arguments of the invocation that an event reports. -/
def Event.call? : Event → Option (String × Value)
  | .call procedure args _ => some (procedure, args)
  | .callComplete procedure args _ _ _ => some (procedure, args)
  | _ => none

theorem Handlers.mem_types_iff {handlers : Handlers} {type : String} :
    type ∈ handlers.types ↔ handlers.contains type = true := by
  unfold types contains get?
  generalize handlers.toList = entries
  induction entries with
  | nil => simp
  | cons entry rest ih =>
      rw [List.map_cons, List.mem_cons, ih, List.lookup_cons]
      by_cases same : type = entry.1
      · simp [same]
      · simp [same, beq_false_of_ne same]

/-- A step down the tree of a run, to an invocation that a handler made. -/
structure Branch where
  /-- The position of the step among those of the invocation. -/
  stage : Nat
  /-- The position of the command in the step. -/
  command : Nat
  /-- The position of the call among those that the command's handler made. -/
  call : Nat
deriving DecidableEq

/-- The way from an invocation to one of its tree. -/
abbrev Address := List Branch

namespace LiveInvocation

/-- The invocation that a handler made in one branch. -/
def call? (invocation : LiveInvocation) (branch : Branch) : Option LiveInvocation := do
  let stage ← invocation.stages[branch.stage]?
  let dispatch ← stage.evidence[branch.command]?
  dispatch.calls[branch.call]?

def at? (invocation : LiveInvocation) : Address → Option LiveInvocation
  | [] => some invocation
  | branch :: rest => (invocation.call? branch).bind fun call => call.at? rest

/-- The frames of the invocations on the way to an address, for handlers of given types. -/
def path (types : List String) (invocation : LiveInvocation) : Address → List Frame
  | [] => [⟨invocation.procedure, invocation.args, types⟩]
  | branch :: rest =>
    ⟨invocation.procedure, invocation.args, types⟩ ::
      (invocation.call? branch).elim [] fun call => call.path types rest

/-- The record carries the trace of the invocation's place, and if it says of an invocation that
it begins or has settled, then it says so of this one. -/
structure Writes (invocation : LiveInvocation) (emission : Emission) : Prop where
  trace : emission.record.trace = invocation.site.trace
  call : ∀ call ∈ emission.record.event.call?, call = (invocation.procedure, invocation.args)

/-- A handler of one of the invocation's commands made the call. -/
def Calls (invocation call : LiveInvocation) : Prop :=
  ∃ stage ∈ invocation.stages, ∃ dispatch ∈ stage.evidence, call ∈ dispatch.calls

/-- The tree of the invocation hangs below `parent`: each invocation of it lies one frame, its own,
deeper than the one of which it came, and it writes the records that it owns. -/
inductive Rooted (types : List String) : LiveInvocation → (parent : Site) → Prop
  | intro {invocation : LiveInvocation} {parent : Site}
      (site : invocation.site = parent.enter ⟨invocation.procedure, invocation.args, types⟩)
      (own : ∀ emission ∈ invocation.own, invocation.Writes emission)
      (calls : ∀ call, invocation.Calls call → Rooted types call invocation.site) :
      Rooted types invocation parent

section Addresses

variable {types : List String} {parent : Site} {invocation call inner : LiveInvocation}
  {branch : Branch} {address : Address}

theorem calls_iff : invocation.Calls call ↔ ∃ branch, invocation.call? branch = some call := by
  unfold Calls call?
  simp only [List.mem_iff_getElem?, Option.bind_eq_bind, Option.bind_eq_some_iff]
  constructor
  · rintro ⟨stage, ⟨n, staged⟩, dispatch, ⟨i, issued⟩, c, called⟩
    exact ⟨⟨n, i, c⟩, stage, staged, dispatch, issued, called⟩
  · rintro ⟨⟨n, i, c⟩, stage, staged, dispatch, issued, called⟩
    exact ⟨stage, ⟨n, staged⟩, dispatch, ⟨i, issued⟩, c, called⟩

theorem mem_tree_iff_calls :
    inner ∈ invocation.tree ↔ inner = invocation ∨ ∃ call, invocation.Calls call ∧
      inner ∈ call.tree := by
  rw [mem_tree_iff]
  unfold Calls
  constructor
  · rintro (rfl | ⟨stage, staged, dispatch, issued, call, called, member⟩)
    · exact .inl rfl
    · exact .inr ⟨call, ⟨stage, staged, dispatch, issued, called⟩, member⟩
  · rintro (rfl | ⟨call, ⟨stage, staged, dispatch, issued, called⟩, member⟩)
    · exact .inl rfl
    · exact .inr ⟨stage, staged, dispatch, issued, call, called, member⟩

theorem mem_tree_of_at? (found : invocation.at? address = some inner) :
    inner ∈ invocation.tree := by
  induction address generalizing invocation with
  | nil =>
      cases found
      exact mem_tree_iff.mpr (.inl rfl)
  | cons branch rest ih =>
      obtain ⟨call, called, found⟩ := Option.bind_eq_some_iff.mp found
      exact mem_tree_iff_calls.mpr (.inr ⟨call, calls_iff.mpr ⟨branch, called⟩, ih found⟩)

theorem mem_emissions_iff {emission : Emission} :
    emission ∈ invocation.emissions ↔ ∃ inner ∈ invocation.tree, emission ∈ inner.own := by
  constructor
  · intro member
    obtain ⟨part, among, own⟩ := invocation.interleaves_own.exists_part_of_mem member
    obtain ⟨inner, inside, rfl⟩ := List.mem_map.mp among
    exact ⟨inner, inside, own⟩
  · rintro ⟨inner, inside, own⟩
    exact invocation.interleaves_own.mem_of_mem_part (List.mem_map_of_mem inside) own

/-- Every invocation of a tree has an address. -/
theorem Rooted.exists_at? (rooted : invocation.Rooted types parent)
    (member : inner ∈ invocation.tree) : ∃ address, invocation.at? address = some inner := by
  induction rooted with
  | @intro invocation parent site own calls ih =>
      rcases mem_tree_iff_calls.mp member with rfl | ⟨call, called, member⟩
      · exact ⟨[], rfl⟩
      · obtain ⟨address, found⟩ := ih call called member
        obtain ⟨branch, reached⟩ := calls_iff.mp called
        exact ⟨branch :: address, Option.bind_eq_some_iff.mpr ⟨call, reached, found⟩⟩

theorem path_cons (called : invocation.call? branch = some call) (rest : Address) :
    invocation.path types (branch :: rest) =
      ⟨invocation.procedure, invocation.args, types⟩ :: call.path types rest := by
  rw [path, called]
  rfl

/-- An invocation of a tree lies below its root by the frames on the way to it. -/
theorem Rooted.at? (rooted : invocation.Rooted types parent)
    (found : invocation.at? address = some inner) :
    inner.site = { parent with stack := parent.stack ++ invocation.path types address } ∧
      ∀ emission ∈ inner.own, inner.Writes emission := by
  induction address generalizing parent invocation with
  | nil =>
      cases found
      obtain ⟨site, own, _⟩ := rooted
      exact ⟨site, own⟩
  | cons branch rest ih =>
      obtain ⟨call, called, found⟩ := Option.bind_eq_some_iff.mp found
      obtain ⟨site, _, calls⟩ := rooted
      obtain ⟨below, own⟩ := ih (calls call (calls_iff.mpr ⟨branch, called⟩)) found
      refine ⟨?_, own⟩
      rw [below, site, path_cons called]
      simp only [Site.enter, List.append_assoc, List.cons_append, List.nil_append]

/-- The frames on the way to an address are those of the invocations at its prefixes. -/
theorem getElem?_path (types : List String) (found : invocation.at? address = some inner) :
    (invocation.path types address).length = address.length + 1 ∧
      ∀ k ≤ address.length, ∃ outer, invocation.at? (address.take k) = some outer ∧
        (invocation.path types address)[k]? = some ⟨outer.procedure, outer.args, types⟩ := by
  induction address generalizing invocation with
  | nil =>
      refine ⟨rfl, ?_⟩
      intro k within
      obtain rfl : k = 0 := Nat.le_zero.mp within
      exact ⟨invocation, rfl, rfl⟩
  | cons branch rest ih =>
      obtain ⟨call, called, found⟩ := Option.bind_eq_some_iff.mp found
      obtain ⟨length, each⟩ := ih found
      rw [path_cons called]
      refine ⟨congrArg (· + 1) length, ?_⟩
      intro k within
      cases k with
      | zero => exact ⟨invocation, rfl, rfl⟩
      | succ k =>
          obtain ⟨outer, reached, shown⟩ := each k (Nat.le_of_succ_le_succ within)
          exact ⟨outer, Option.bind_eq_some_iff.mpr ⟨call, called, reached⟩, shown⟩

theorem at?_append {above below : Address} (found : invocation.at? above = some call) :
    invocation.at? (above ++ below) = call.at? below := by
  induction above generalizing invocation with
  | nil =>
      cases found
      rfl
  | cons branch rest ih =>
      obtain ⟨middle, called, found⟩ := Option.bind_eq_some_iff.mp found
      rw [List.cons_append, at?, called, Option.bind_some, ih found]

theorem path_append {outer : LiveInvocation} {above below : Address}
    (found : invocation.at? above = some outer) (called : outer.call? branch = some call) :
    invocation.path types (above ++ branch :: below) =
      invocation.path types above ++ call.path types below := by
  induction above generalizing invocation with
  | nil =>
      cases found
      exact path_cons called below
  | cons first rest ih =>
      obtain ⟨middle, reached, found⟩ := Option.bind_eq_some_iff.mp found
      rw [List.cons_append, path_cons reached, path_cons reached, ih found, List.cons_append]

end Addresses

end LiveInvocation

section Steps

variable {handlers : Handlers} {runtime : Runtime}

/-- The command's own records carry the trace of `site` and report no invocation, and what its
handler invoked hangs below `site`. -/
structure Dispatch.Rooted (types : List String) (site : Site) (dispatch : Dispatch) : Prop where
  own : ∀ emission ∈ dispatch.own,
    emission.record.trace = site.trace ∧ emission.record.event.call? = none
  calls : ∀ call ∈ dispatch.calls, LiveInvocation.Rooted types call site

section Issued

variable {types : List String} {invoke : Site → Invoke} {site : Site} {place : Place}
  {step now : Nat}

theorem Dispatch.rooted_of_one
    (roots : ∀ place procedure args now call,
      invoke site place procedure args now = some call → LiveInvocation.Rooted types call site)
    {command : Command} {index : Nat} {dispatch : Dispatch}
    (issued : one handlers runtime invoke site place command step index now = some dispatch) :
    dispatch.Rooted types site := by
  refine ⟨?_, ?_⟩
  · intro emission member
    rcases one_cases issued with ⟨message, _, rfl⟩ | ⟨played, _, rfl⟩
    · obtain rfl := List.mem_singleton.mp member
      exact ⟨rfl, rfl⟩
    · rcases List.mem_cons.mp member with rfl | closed
      · exact ⟨rfl, rfl⟩
      · obtain rfl := List.mem_singleton.mp closed
        exact ⟨rfl, rfl⟩
  · intro call member
    obtain ⟨_, _, _, _, invoked⟩ := exists_invoke_of_one issued call member
    exact roots _ _ _ _ _ invoked

theorem Dispatch.rooted_of_suspension
    (roots : ∀ place procedure args now call,
      invoke site place procedure args now = some call → LiveInvocation.Rooted types call site)
    {suspension : Suspension} {performed : Performance Unit (List Dispatch) Empty}
    (performs : Dispatch.suspension handlers runtime invoke site place suspension step 0 now =
      some performed) :
    ∀ dispatch ∈ performed.evidence, dispatch.Rooted types site := by
  intro dispatch member
  obtain ⟨command, index, issued⟩ := exists_one_of_suspension performs member
  exact rooted_of_one roots issued

theorem Dispatch.rooted_of_course {τ : Type} {move : τ → Input → Step × τ} {own last : Unit}
    {state : τ} {input : Input} {stages : List (Stage (List Dispatch) Empty)}
    {finale : Finale Empty}
    (roots : ∀ place procedure args now call,
      invoke site place procedure args now = some call → LiveInvocation.Rooted types call site)
    (course : (handling handlers runtime invoke place).Course site move step own state input now
      stages finale last) :
    ∀ stage ∈ stages, ∀ dispatch ∈ stage.evidence, dispatch.Rooted types site := by
  apply course.evidence fun evidence => ∀ dispatch ∈ evidence, dispatch.Rooted types site
  intro own suspension step now performed performs
  exact rooted_of_suspension roots performs

end Issued

/-- An invocation knows its place, its procedure's name and its arguments. -/
theorem place_of_invoke {fuel : Nat} {parent : Site} {place : Place} {procedure : Procedure}
    {args : Value} {now : Nat} {invocation : LiveInvocation}
    (found : invoke handlers runtime fuel parent place procedure args now = some invocation) :
    invocation.site = parent.enter ⟨procedure.name, args, handlers.types⟩ ∧
      invocation.procedure = procedure.name ∧ invocation.args = args := by
  cases fuel with
  | zero => cases found
  | succ fuel =>
      unfold Resumable.invoke at found
      obtain ⟨⟨made, last⟩, invoked, rfl⟩ := Option.map_eq_some_iff.mp found
      exact Performer.place_of_invoke invoked

/-- **What is invoked below a place is rooted there**, whatever the hooks do. -/
theorem rooted_of_invoke {fuel : Nat} {parent : Site} {place : Place} {procedure : Procedure}
    {args : Value} {now : Nat} {invocation : LiveInvocation}
    (found : invoke handlers runtime fuel parent place procedure args now = some invocation) :
    invocation.Rooted handlers.types parent := by
  -- What handlers invoke may nest less deep than the invocation that issued their commands.
  induction fuel generalizing parent place procedure args now invocation with
  | zero => cases found
  | succ fuel ih =>
      unfold Resumable.invoke at found
      obtain ⟨⟨made, last⟩, invoked, rfl⟩ := Option.map_eq_some_iff.mp found
      obtain ⟨site, name, given⟩ := Performer.place_of_invoke invoked
      obtain ⟨opened, ends⟩ := Performer.invoke_cases invoked
      rw [← site, ← name, ← given] at opened ends
      have staged : ∀ stage ∈ made.stages, ∀ dispatch ∈ stage.evidence,
          dispatch.Rooted handlers.types made.site := by
        rcases ends with ⟨_, _, stages, _, _⟩ | ⟨finale, stages, _⟩
        · rw [stages]
          exact List.forall_mem_nil _
        · exact Dispatch.rooted_of_course (fun _ _ _ _ _ called => ih called)
            (Performer.course_of_start stages)
      have closes : ∀ emission ∈ made.closed, LiveInvocation.Writes made emission := by
        intro emission closed
        rcases ends with ⟨_, _, _, unclosed, _⟩ | ⟨finale, _, concludes⟩
        · cases unclosed.symm.trans closed
        · obtain ⟨outcome, rfl⟩ := concludes.exists_completion closed
          exact ⟨rfl, fun call reported => (Option.some.inj reported).symm⟩
      refine .intro (by rw [site, name, given]) ?_ ?_
      · intro emission member
        rcases List.mem_cons.mp member with rfl | member
        · rw [opened]
          exact ⟨rfl, fun call reported => (Option.some.inj reported).symm⟩
        rcases List.mem_append.mp member with member | closed
        · obtain ⟨stage, among, member⟩ := List.mem_flatMap.mp member
          obtain ⟨dispatch, issued, member⟩ := List.mem_flatMap.mp member
          obtain ⟨trace, silent⟩ := (staged stage among dispatch issued).own emission member
          exact ⟨trace, fun call reported => by cases silent.symm.trans reported⟩
        · exact closes emission (Option.mem_toList.mp closed)
      · rintro call ⟨stage, among, dispatch, issued, called⟩
        exact (staged stage among dispatch issued).calls call called

end Steps

section Dropped

variable {cutoff : Nat}

/-- Dropping a step may take the last record of its command and nothing else. -/
theorem Stage.exists_of_mem_drop {stage : Stage (List Dispatch) Empty} {dispatch : Dispatch}
    (member : dispatch ∈ (stage.drop cutoff).evidence) :
    ∃ whole ∈ stage.evidence, dispatch.calls = whole.calls ∧ dispatch.own ⊆ whole.own := by
  have same (kept : dispatch ∈ stage.evidence) :
      ∃ whole ∈ stage.evidence, dispatch.calls = whole.calls ∧ dispatch.own ⊆ whole.own :=
    ⟨dispatch, kept, rfl, List.Subset.refl _⟩
  unfold Stage.drop at member
  split at member
  · exact same member
  · split at member
    · exact same member
    · obtain ⟨whole, issued, rfl⟩ := List.mem_map.mp member
      exact ⟨whole, issued, rfl, List.cons_subset_cons _ (List.nil_subset _)⟩

/-- The commands of a run that was dropped are commands of the whole run. -/
theorem LiveInvocation.exists_of_mem_abandon {invocation : LiveInvocation}
    {stage : Stage (List Dispatch) Empty} (staged : stage ∈ (invocation.abandon cutoff).stages)
    {dispatch : Dispatch} (issued : dispatch ∈ stage.evidence) :
    ∃ stage ∈ invocation.stages, ∃ whole ∈ stage.evidence,
      dispatch.calls = whole.calls ∧ dispatch.own ⊆ whole.own := by
  obtain ⟨stage, kept, rfl⟩ := List.mem_map.mp staged
  exact ⟨stage, (List.mem_filter.mp kept).1, Stage.exists_of_mem_drop issued⟩

/-- What is left of a run that its caller drops is rooted where the run was. -/
theorem LiveInvocation.Rooted.abandon {types : List String} {parent : Site}
    {invocation : LiveInvocation} (rooted : invocation.Rooted types parent) (cutoff : Nat) :
    (invocation.abandon cutoff).Rooted types parent := by
  obtain ⟨site, own, calls⟩ := rooted
  refine .intro site ?_ ?_
  · intro emission member
    have within : emission ∈ invocation.own := by
      rcases List.mem_cons.mp member with rfl | member
      · exact List.mem_cons_self
      refine List.mem_cons_of_mem _ (List.mem_append_left _ ?_)
      rcases List.mem_append.mp member with member | closed
      · obtain ⟨stage, staged, member⟩ := List.mem_flatMap.mp member
        obtain ⟨dispatch, issued, member⟩ := List.mem_flatMap.mp member
        obtain ⟨stage', staged', whole, issued', _, fewer⟩ := exists_of_mem_abandon staged issued
        exact List.mem_flatMap.mpr ⟨stage', staged',
          List.mem_flatMap.mpr ⟨whole, issued', fewer member⟩⟩
      · cases closed
    obtain ⟨trace, call⟩ := own emission within
    exact ⟨trace, call⟩
  · rintro call ⟨stage, staged, dispatch, issued, called⟩
    obtain ⟨stage', staged', whole, issued', same, _⟩ := exists_of_mem_abandon staged issued
    exact calls call ⟨stage', staged', whole, issued', same ▸ called⟩

end Dropped

/-- Every record of the run is traced to its place in the tree of the run's invocations. -/
structure LiveRun.Traced (run : LiveRun) (config : Config) (fresh : RunId) (types : List String) :
    Prop where
  /-- The records of the run are those that the invocations of its tree own. -/
  owned : ∀ emission, emission ∈ run.emissions ↔
    ∃ address inner, run.invocation.at? address = some inner ∧ emission ∈ inner.own
  /-- A record carries the name of the configuration. -/
  named : ∀ emission ∈ run.emissions, emission.record.trace.name = config.name
  /-- A record carries the identity that the configuration gives to every run, or else the run's
  own. -/
  identified : ∀ emission ∈ run.emissions, emission.record.trace.run = config.run.getD fresh
  /-- The stack of a record is the way from the outermost invocation to the one that owns it. -/
  stacked : ∀ address inner, run.invocation.at? address = some inner → ∀ emission ∈ inner.own,
    emission.record.trace.stack.length = address.length + 1 ∧
      ∀ k ≤ address.length, ∃ outer, run.invocation.at? (address.take k) = some outer ∧
        emission.record.trace.stack[k]? = some ⟨outer.procedure, outer.args, types⟩
  /-- A record that reports an invocation has the frame of this invocation last. -/
  current : ∀ emission ∈ run.emissions, ∀ procedure args,
    emission.record.event.call? = some (procedure, args) →
      emission.record.trace.current? = some ⟨procedure, args, types⟩
  /-- In a branch the stack goes on from that of the parent's records, with frames of the branch's
  own tree: no other branch pushes a frame onto it, and no branch onto the parent's. -/
  isolated : ∀ above parent, run.invocation.at? above = some parent →
    ∀ branch call, parent.call? branch = some call →
      ∀ below inner, call.at? below = some inner →
        ∀ outer ∈ parent.own, ∀ emission ∈ inner.own,
          emission.record.trace.stack = outer.record.trace.stack ++ call.path types below

section Runs

variable {host : Host} {config : Config} {fresh : RunId} {procedure : Procedure} {args : Value}
  {cutoff : Option Nat} {run : LiveRun} {types : List String}

theorem LiveInvocation.Rooted.trace {invocation inner : LiveInvocation} {address : Address}
    (rooted : invocation.Rooted types (.root config fresh))
    (found : invocation.at? address = some inner) {emission : Emission}
    (own : emission ∈ inner.own) :
    emission.record.trace =
      ⟨config.name, config.run.getD fresh, invocation.path types address⟩ := by
  obtain ⟨site, writes⟩ := rooted.at? found
  rw [(writes emission own).trace, site]
  rfl

theorem LiveRun.traced_of_rooted (rooted : run.invocation.Rooted types (.root config fresh)) :
    run.Traced config fresh types := by
  have owned (emission : Emission) : emission ∈ run.emissions ↔
      ∃ address inner, run.invocation.at? address = some inner ∧ emission ∈ inner.own := by
    rw [LiveRun.emissions, timeline, (chronological_perm _ _).mem_iff,
      LiveInvocation.mem_emissions_iff]
    constructor
    · rintro ⟨inner, inside, own⟩
      obtain ⟨address, found⟩ := rooted.exists_at? inside
      exact ⟨address, inner, found, own⟩
    · rintro ⟨address, inner, found, own⟩
      exact ⟨inner, LiveInvocation.mem_tree_of_at? found, own⟩
  refine ⟨owned, ?_, ?_, ?_, ?_, ?_⟩
  · intro emission member
    obtain ⟨address, inner, found, own⟩ := (owned emission).mp member
    rw [rooted.trace found own]
  · intro emission member
    obtain ⟨address, inner, found, own⟩ := (owned emission).mp member
    rw [rooted.trace found own]
  · intro address inner found emission own
    rw [rooted.trace found own]
    exact LiveInvocation.getElem?_path types found
  · intro emission member procedure args reports
    obtain ⟨address, inner, found, own⟩ := (owned emission).mp member
    obtain ⟨rfl, rfl⟩ := Prod.mk.inj (((rooted.at? found).2 emission own).call _ reports)
    obtain ⟨length, each⟩ := LiveInvocation.getElem?_path types found
    obtain ⟨last, there, shown⟩ := each address.length (Nat.le_refl _)
    rw [List.take_length] at there
    cases found.symm.trans there
    rw [rooted.trace found own, Trace.current?, List.getLast?_eq_getElem?, length]
    exact shown
  · intro above parent reached branch call called below inner found outer own emission own'
    have whole : run.invocation.at? (above ++ branch :: below) = some inner := by
      rw [LiveInvocation.at?_append reached, LiveInvocation.at?, called, Option.bind_some, found]
    rw [rooted.trace whole own', rooted.trace reached own]
    exact LiveInvocation.path_append reached called

theorem Host.Leaves.rooted (leaves : host.Leaves config fresh procedure args cutoff run) :
    run.invocation.Rooted host.handlers.types (.root config fresh) := by
  obtain ⟨invocation, ⟨runtime, fuel, invoked⟩, rfl⟩ := leaves
  have rooted := rooted_of_invoke invoked
  unfold LiveRun.ofInvocation
  cases cutoff with
  | none => exact rooted
  | some time =>
      by_cases ended : invocation.endedBy time = true
      · simp only [if_pos ended]
        exact rooted
      · simp only [if_neg ended]
        exact rooted.abandon time

theorem Host.Leaves.outermost (leaves : host.Leaves config fresh procedure args cutoff run) :
    run.invocation.procedure = procedure.name ∧ run.invocation.args = args := by
  obtain ⟨invocation, ⟨runtime, fuel, invoked⟩, rfl⟩ := leaves
  obtain ⟨_, name, given⟩ := place_of_invoke invoked
  unfold LiveRun.ofInvocation
  cases cutoff with
  | none => exact ⟨name, given⟩
  | some time =>
      by_cases ended : invocation.endedBy time = true
      · simp only [if_pos ended]
        exact ⟨name, given⟩
      · simp only [if_neg ended]
        exact ⟨name, given⟩

/-- **Every record is traced to its place in the tree of its run**, whatever the handlers and the
hooks do, and whether or not the caller drops the run. Frames show the handled types in ascending
order. If an identity is never generated twice and none is configured, then records of two runs
share their identity exactly if the runs are one. -/
theorem Host.traces_every_record (host : Host) (config : Config) (procedure : Procedure)
    (args : Value) (cutoff : Option Nat) :
    (host.handlers.types.Pairwise (· < ·) ∧
      ∀ type, type ∈ host.handlers.types ↔ host.handlers.contains type = true) ∧
    (∀ fresh run, host.Leaves config fresh procedure args cutoff run →
      (run.invocation.procedure = procedure.name ∧ run.invocation.args = args) ∧
        run.Traced config fresh host.handlers.types) ∧
    ∀ generate : Nat → RunId, generate.Injective → config.run = none →
      ∀ n run, host.Leaves config (generate n) procedure args cutoff run →
      ∀ (host' : Host) (config' : Config) procedure' args' cutoff' n' run', config'.run = none →
        host'.Leaves config' (generate n') procedure' args' cutoff' run' →
        ∀ emission ∈ run.emissions, ∀ emission' ∈ run'.emissions,
          (emission.record.trace.run = emission'.record.trace.run ↔ n = n') := by
  refine ⟨⟨?_, fun type => Handlers.mem_types_iff⟩, ?_, ?_⟩
  · exact List.pairwise_map.mpr host.handlers.ascending
  · intro fresh run leaves
    exact ⟨leaves.outermost, LiveRun.traced_of_rooted leaves.rooted⟩
  · intro generate distinct unfixed n run leaves host' config' procedure' args' cutoff' n' run'
      unfixed' leaves' emission member emission' member'
    rw [(LiveRun.traced_of_rooted leaves.rooted).identified emission member,
      (LiveRun.traced_of_rooted leaves'.rooted).identified emission' member', unfixed, unfixed']
    exact distinct.eq_iff

/-- Two branches of a batch run the same procedure, and a second run is dropped in its batch. -/
theorem Host.traces_every_record_of_branches :
    let config : Config := ⟨some "trial", none, ⟨[.recorder]⟩⟩
    let host : Host := ⟨(Handlers.empty.insert "get" fun _ _ => .settle (.ok .null)).insert "run"
      fun _ _ => .sleep 1 (.call (.errand "inner" (.one (.ofType "get"))) .null .settle)⟩
    let procedure : Procedure := .errand "outer" (.all [.ofType "run", .ofType "run"])
    let generate (n : Nat) : RunId := ⟨String.ofList (List.replicate n 'x')⟩
    ∃ run run' : LiveRun,
      host.Leaves config (generate 0) procedure .null none run ∧
      host.Leaves config (generate 1) procedure .null (some 0) run' ∧
      generate.Injective ∧
      (run.invocation.at? [⟨0, 1, 0⟩]).map Invocation.procedure = some "inner" ∧
      run.Traced config (generate 0) ["get", "run"] ∧
      run'.abandoned = true ∧ run'.Traced config (generate 1) ["get", "run"] ∧
      ∀ emission ∈ run.emissions, ∀ emission' ∈ run'.emissions,
        emission.record.trace.run ≠ emission'.record.trace.run := by
  intro config host procedure generate
  have distinct : generate.Injective := by
    intro n n' same
    have texts := congrArg (fun id => id.text.length) same
    simpa [generate] using texts
  have played : ∀ n ∈ [0, 1],
      (invoke host.handlers default 3 (.root config (generate n)) [] procedure .null 0).map
        (fun invocation : LiveInvocation =>
          ((invocation.at? [⟨0, 1, 0⟩]).map Invocation.procedure, invocation.endedBy 0)) =
        some (some "inner", false) := by
    decide +kernel
  have ran : ∀ n ∈ [0, 1], ∃ invocation, host.Runs config (generate n) procedure .null invocation ∧
      (invocation.at? [⟨0, 1, 0⟩]).map Invocation.procedure = some "inner" ∧
      invocation.endedBy 0 = false := by
    intro n member
    obtain ⟨invocation, invoked, shown⟩ := Option.map_eq_some_iff.mp (played n member)
    obtain ⟨inner, late⟩ := Prod.mk.inj shown
    exact ⟨invocation, ⟨_, _, invoked⟩, inner, late⟩
  obtain ⟨invocation, runs, inner, _⟩ := ran 0 (by decide)
  obtain ⟨invocation', runs', _, late⟩ := ran 1 (by decide)
  have leaves : host.Leaves config (generate 0) procedure .null none ⟨invocation, false⟩ :=
    ⟨invocation, runs, rfl⟩
  have leaves' : host.Leaves config (generate 1) procedure .null (some 0)
      ⟨invocation'.abandon 0, true⟩ := by
    refine ⟨invocation', runs', ?_⟩
    rw [LiveRun.ofInvocation, if_neg (Bool.eq_false_iff.mp late)]
  obtain ⟨_, traced, apart⟩ := Host.traces_every_record host config procedure .null none
  obtain ⟨_, traced', _⟩ := Host.traces_every_record host config procedure .null (some 0)
  refine ⟨_, _, leaves, leaves', distinct, inner, (traced _ _ leaves).2, rfl,
    (traced' _ _ leaves').2, ?_⟩
  intro emission member emission' member' same
  have one := (apart generate distinct rfl 0 _ leaves host config procedure .null (some 0) 1 _ rfl
    leaves' emission member emission' member').mp same
  exact absurd one (by decide)

end Runs

end Resumable
