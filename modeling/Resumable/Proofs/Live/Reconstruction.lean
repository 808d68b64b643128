import Resumable.Proofs.Live.Containment
import Resumable.Proofs.Verify.LiveReplay

/-! # Reading the call tree off the records

The stack of a record is the way to the invocation that owns it, but its frames do not say which
command made a call. So records that are the same apart from the clock belong to trees with as many
invocations at each place. Who made a call is told by them where a place has only one command with
a handler: then the line of each invocation, from the outermost one down by the commands that made
the calls, can be read off (`LiveInvocation.lines_perm_readLines`), and trees with the same records
are the same (`Host.same_tree_of_same_records`). Two commands of a batch are enough to make the
records belong to two trees (`Host.not_same_tree_of_same_records`).
-/

namespace Resumable

open Json (Value)

/-- An invocation on a line of calls, and the step and the position of the command whose handler
made it. The outermost invocation was made by none. -/
structure Hop where
  maker : Option (UInt64 × UInt64)
  procedure : String
  args : Value
deriving DecidableEq

/-- The calls by which an invocation came to be, from the outermost one to its own. -/
abbrev Line := List Hop

section Lines

mutual

/-- The invocations that came of a command, with their lines from the calls of its handler on. -/
def Dispatch.lined : Dispatch → List (Line × LiveInvocation)
  | ⟨_, step, index, _, _, calls, _, _, _, _, _⟩ =>
    linedCalls (some (UInt64.ofNat step, UInt64.ofNat index)) calls

/-- Calls that one command made, and all that came of them. -/
def linedCalls (maker : Option (UInt64 × UInt64)) :
    List (Invocation (List Dispatch) Empty) → List (Line × LiveInvocation)
  | [] => []
  | ⟨site, procedure, args, opened, stages, closed, finish, ending⟩ :: rest =>
    ([⟨maker, procedure, args⟩],
        ⟨site, procedure, args, opened, stages, closed, finish, ending⟩) ::
      ((linedStages stages).map fun entry => (⟨maker, procedure, args⟩ :: entry.1, entry.2)) ++
      linedCalls maker rest

def linedStages : List (Stage (List Dispatch) Empty) → List (Line × LiveInvocation)
  | [] => []
  | ⟨_, _, _, dispatches, _, _⟩ :: rest => linedDispatches dispatches ++ linedStages rest

def linedDispatches : List Dispatch → List (Line × LiveInvocation)
  | [] => []
  | dispatch :: rest => dispatch.lined ++ linedDispatches rest

end

mutual

theorem Dispatch.map_snd_lined : ∀ dispatch : Dispatch,
    dispatch.lined.map Prod.snd = dispatch.tree
  | ⟨_, _, _, _, _, calls, _, _, _, _, _⟩ => map_snd_linedCalls _ calls

theorem map_snd_linedCalls (maker : Option (UInt64 × UInt64)) : ∀ calls : List LiveInvocation,
    (linedCalls maker calls).map Prod.snd = callTree calls
  | [] => rfl
  | ⟨site, procedure, args, opened, stages, closed, finish, ending⟩ :: rest => by
      rw [linedCalls, callTree, List.cons_append, List.map_cons, List.map_append, List.map_map,
        ← map_snd_linedStages stages, ← map_snd_linedCalls maker rest]
      rfl

theorem map_snd_linedStages : ∀ stages : List (Stage (List Dispatch) Empty),
    (linedStages stages).map Prod.snd = stageTree stages
  | [] => rfl
  | ⟨_, _, _, dispatches, _, _⟩ :: rest => by
      rw [linedStages, stageTree, List.map_append, map_snd_linedDispatches dispatches,
        map_snd_linedStages rest]

theorem map_snd_linedDispatches : ∀ dispatches : List Dispatch,
    (linedDispatches dispatches).map Prod.snd = dispatchTree dispatches
  | [] => rfl
  | dispatch :: rest => by
      rw [linedDispatches, dispatchTree, List.map_append, dispatch.map_snd_lined,
        map_snd_linedDispatches rest]

end

section Members

variable {line : Line} {inner : LiveInvocation}

theorem mem_linedDispatches_iff {dispatches : List Dispatch} :
    (line, inner) ∈ linedDispatches dispatches ↔ ∃ dispatch ∈ dispatches,
      (line, inner) ∈ linedCalls (some (UInt64.ofNat dispatch.step, UInt64.ofNat dispatch.index))
        dispatch.calls := by
  induction dispatches with
  | nil => simp only [linedDispatches, List.not_mem_nil, false_and, exists_false]
  | cons dispatch rest ih =>
      have made : dispatch.lined = linedCalls
          (some (UInt64.ofNat dispatch.step, UInt64.ofNat dispatch.index)) dispatch.calls := by
        cases dispatch
        rfl
      rw [linedDispatches, List.mem_append, ih, made, List.exists_mem_cons_iff]

theorem mem_linedStages_iff {stages : List (Stage (List Dispatch) Empty)} :
    (line, inner) ∈ linedStages stages ↔ ∃ stage ∈ stages, ∃ dispatch ∈ stage.evidence,
      (line, inner) ∈ linedCalls (some (UInt64.ofNat dispatch.step, UInt64.ofNat dispatch.index))
        dispatch.calls := by
  induction stages with
  | nil => simp only [linedStages, List.not_mem_nil, false_and, exists_false]
  | cons stage rest ih =>
      have split : linedStages (stage :: rest) =
          linedDispatches stage.evidence ++ linedStages rest := by
        cases stage
        rfl
      rw [split, List.mem_append, ih, mem_linedDispatches_iff, List.exists_mem_cons_iff]

/-- What came of a call is the call, or came of a command that the call issued. -/
theorem mem_linedCalls_iff {maker : Option (UInt64 × UInt64)} {calls : List LiveInvocation} :
    (line, inner) ∈ linedCalls maker calls ↔ ∃ call ∈ calls, ∃ rest,
      line = ⟨maker, call.procedure, call.args⟩ :: rest ∧
        ((rest = [] ∧ inner = call) ∨ (rest, inner) ∈ linedStages call.stages) := by
  induction calls with
  | nil => simp only [linedCalls, List.not_mem_nil, false_and, exists_false]
  | cons call others ih =>
      obtain ⟨site, procedure, args, opened, stages, closed, finish, ending⟩ := call
      rw [linedCalls, List.cons_append, List.mem_cons, List.mem_append, ih,
        List.exists_mem_cons_iff, List.mem_map, Prod.mk.injEq, ← or_assoc]
      refine or_congr ?_ Iff.rfl
      constructor
      · rintro (⟨rfl, rfl⟩ | ⟨⟨rest, inner⟩, member, same⟩)
        · exact ⟨[], rfl, .inl ⟨rfl, rfl⟩⟩
        · obtain ⟨rfl, rfl⟩ := Prod.mk.inj same
          exact ⟨rest, rfl, .inr member⟩
      · rintro ⟨rest, rfl, ⟨rfl, rfl⟩ | member⟩
        · exact .inl ⟨rfl, rfl⟩
        · exact .inr ⟨(rest, inner), member, rfl⟩

end Members

/-- The lines of all invocations of the tree. -/
def LiveInvocation.lines (invocation : LiveInvocation) : List Line :=
  (linedCalls none [invocation]).map Prod.fst

end Lines

namespace Record

/-- The record apart from the clock. -/
def untimed (record : Record) : Record :=
  ⟨record.trace, record.event.plain⟩

/-- The stack of the invocation of which the record says that it begins. -/
def opens? (record : Record) : Option (List Frame) :=
  match record.event with
  | .call .. => some record.trace.stack
  | _ => none

/-- The step and the position of a command of which the record says that it is issued at a place,
if the command has a handler there. -/
def issues? (stack : List Frame) (record : Record) : Option (UInt64 × UInt64) :=
  match record.event with
  | .command command step index _ =>
    if record.trace.stack = stack ∧
        stack.getLast?.any (fun frame => frame.handlers.contains command.type) then
      some (step, index)
    else none
  | _ => none

/-- The one command that can have made calls at a place. -/
def maker? (records : List Record) (stack : List Frame) : Option (UInt64 × UInt64) :=
  match records.filterMap (issues? stack) with
  | [maker] => some maker
  | _ => none

/-- What made the call that a stack goes on with at a place; the outermost one was made by none. -/
def readMaker? (records : List Record) (above : List Frame) : Option (Option (UInt64 × UInt64)) :=
  if above = [] then some none else (maker? records above).map some

/-- The line of calls below a place that a stack goes on with. -/
def readLine? (records : List Record) : (above below : List Frame) → Option Line
  | _, [] => some []
  | above, frame :: rest => do
    let maker ← readMaker? records above
    let line ← readLine? records (above ++ [frame]) rest
    pure (⟨maker, frame.procedure, frame.args⟩ :: line)

/-- The lines of all invocations of which the records say that they begin. -/
def readLines (records : List Record) : List Line :=
  (records.filterMap opens?).filterMap (readLine? records [])

/-- Wherever records lie below a place, one command was issued there that can have made calls. -/
def Unambiguous (records : List Record) : Prop :=
  ∀ record ∈ records, record.trace.stack.dropLast ≠ [] →
    (records.filterMap (issues? record.trace.stack.dropLast)).length = 1

instance (records : List Record) : Decidable (Unambiguous records) :=
  inferInstanceAs (Decidable (∀ record ∈ records, _ → _))

theorem opens?_untimed (record : Record) : record.untimed.opens? = record.opens? := by
  obtain ⟨trace, event⟩ := record
  cases event <;> rfl

theorem stack_of_opens? {record : Record} {stack : List Frame}
    (opens : record.opens? = some stack) : record.trace.stack = stack := by
  obtain ⟨trace, event⟩ := record
  cases event with
  | call procedure args start => exact Option.some.inj opens
  | callComplete => cases opens
  | command => cases opens
  | commandComplete => cases opens

section Order

variable {records records' : List Record}

theorem maker?_perm (perm : records.Perm records') : maker? records = maker? records' := by
  funext stack
  have issued := perm.filterMap (issues? stack)
  unfold maker?
  generalize records.filterMap (issues? stack) = makers at issued
  generalize records'.filterMap (issues? stack) = makers' at issued
  match makers with
  | [] => rw [issued.nil_eq]
  | [maker] => rw [List.singleton_perm.mp issued]
  | first :: second :: rest =>
      match makers' with
      | [] => rfl
      | [maker] => cases issued.eq_singleton
      | _ :: _ :: _ => rfl

/-- What is read off records does not depend on their order. -/
theorem readLines_perm (perm : records.Perm records') :
    (readLines records).Perm (readLines records') := by
  have line (above below : List Frame) :
      readLine? records above below = readLine? records' above below := by
    induction below generalizing above with
    | nil => rfl
    | cons frame rest ih => rw [readLine?, readLine?, readMaker?, maker?_perm perm, ih, readMaker?]
  unfold readLines
  rw [show readLine? records [] = readLine? records' [] from funext fun below => line [] below]
  exact (perm.filterMap opens?).filterMap _

theorem Unambiguous.perm (unambiguous : Unambiguous records) (perm : records.Perm records') :
    Unambiguous records' := by
  intro record member inside
  rw [← (perm.filterMap _).length_eq]
  exact unambiguous record (perm.mem_iff.mpr member) inside

end Order

end Record

/-- What a run records, apart from the clock. -/
def LiveInvocation.records (invocation : LiveInvocation) : List Record :=
  invocation.emissions.map fun emission => emission.record.untimed

section Invoked

variable {handlers : Handlers} {runtime : Runtime}

/-- The first record of the command says that it is issued at the site, no record of it says that
an invocation begins, and only a command that has a handler makes calls. -/
structure Dispatch.Told (types : List String) (site : Site) (dispatch : Dispatch) : Prop where
  opened : ∃ now, dispatch.opened = site.emit now (.command dispatch.command
    (UInt64.ofNat dispatch.step) (UInt64.ofNat dispatch.index) (.ofMillis now))
  silent : ∀ emission ∈ dispatch.own, emission.record.opens? = none
  handled : dispatch.calls ≠ [] → dispatch.command.type ∈ types

/-- One record says that the invocation begins, and its commands are told by their records. -/
structure LiveInvocation.Told (types : List String) (invocation : LiveInvocation) : Prop where
  placed : ∃ above, invocation.site.stack =
    above ++ [⟨invocation.procedure, invocation.args, types⟩]
  begins : invocation.own.filterMap (fun emission => emission.record.opens?) =
    [invocation.site.stack]
  issued : ∀ stage ∈ invocation.stages, ∀ dispatch ∈ stage.evidence,
    dispatch.Told types invocation.site

theorem Dispatch.told_of_one {invoke : Site → Invoke} {site : Site} {place : Place}
    {command : Command} {step index now : Nat} {dispatch : Dispatch}
    (issued : one handlers runtime invoke site place command step index now = some dispatch) :
    dispatch.Told handlers.types site := by
  rcases one_cases issued with ⟨message, _, rfl⟩ | ⟨played, handled, rfl⟩
  · refine ⟨⟨now, rfl⟩, List.forall_mem_singleton.mpr rfl, fun made => absurd rfl made⟩
  · refine ⟨⟨now, rfl⟩, ?_, fun made => ?_⟩
    · exact List.forall_mem_cons.mpr ⟨rfl, List.forall_mem_singleton.mpr rfl⟩
    · rw [Handlers.mem_types_iff, Handlers.contains]
      unfold handle at handled
      split at handled
      · cases handled
        exact absurd rfl made
      · rename_i handler found
        rw [found]
        rfl

theorem told_of_invoke {fuel : Nat} {parent : Site} {place : Place} {procedure : Procedure}
    {args : Value} {now : Nat} {invocation : LiveInvocation}
    (found : invoke handlers runtime fuel parent place procedure args now = some invocation) :
    invocation.Told handlers.types := by
  cases fuel with
  | zero => cases found
  | succ fuel =>
      unfold Resumable.invoke at found
      obtain ⟨⟨made, last⟩, invoked, rfl⟩ := Option.map_eq_some_iff.mp found
      obtain ⟨site, name, given⟩ := Performer.place_of_invoke invoked
      obtain ⟨opened, ends⟩ := Performer.invoke_cases invoked
      rw [← site] at opened ends
      have issued : ∀ stage ∈ made.stages, ∀ dispatch ∈ stage.evidence,
          dispatch.Told handlers.types made.site := by
        rcases ends with ⟨_, _, stages, _, _⟩ | ⟨finale, stages, _⟩
        · rw [stages]
          exact List.forall_mem_nil _
        · apply (Performer.course_of_start stages).evidence fun evidence =>
            ∀ dispatch ∈ evidence, dispatch.Told handlers.types made.site
          intro own suspension step now performed performs dispatch member
          obtain ⟨command, index, issued⟩ := Dispatch.exists_one_of_suspension performs member
          exact Dispatch.told_of_one issued
      have closes : ∀ emission ∈ made.closed.toList, emission.record.opens? = none := by
        intro emission closed
        have closed := Option.mem_toList.mp closed
        rcases ends with ⟨_, _, _, unclosed, _⟩ | ⟨finale, _, concludes⟩
        · cases unclosed.symm.trans closed
        · obtain ⟨outcome, rfl⟩ := concludes.exists_completion closed
          rfl
      refine ⟨⟨parent.stack, by rw [site, name, given]; rfl⟩, ?_, issued⟩
      have others : ∀ emission ∈ made.stages.flatMap Stage.own ++ made.closed.toList,
          emission.record.opens? = none := by
        intro emission member
        rcases List.mem_append.mp member with member | closed
        · obtain ⟨stage, staged, member⟩ := List.mem_flatMap.mp member
          obtain ⟨dispatch, among, member⟩ := List.mem_flatMap.mp member
          exact (issued stage staged dispatch among).silent emission member
        · exact closes emission closed
      have first : made.opened.record.opens? = some made.site.stack := by
        rw [opened]
        rfl
      have rest := List.filterMap_eq_nil_iff.mpr others
      rw [LiveInvocation.own, List.filterMap_cons]
      simp only [first, rest]

end Invoked

section Read

variable {types : List String} {records : List Record}

/-- What records let read off about an invocation: that its place is one in which something is
recorded, and which of its commands have a handler. -/
structure LiveInvocation.Shown (records : List Record) (inner : LiveInvocation) : Prop where
  placed : ∃ record ∈ records, record.trace.stack = inner.site.stack
  makers : ∀ stage ∈ inner.stages, ∀ dispatch ∈ stage.evidence, dispatch.calls ≠ [] →
    (UInt64.ofNat dispatch.step, UInt64.ofNat dispatch.index) ∈
      records.filterMap (Record.issues? inner.site.stack)

/-- The line of an invocation below a place is read off the frames that its stack goes on with. -/
theorem LiveInvocation.readLine?_of_mem_linedCalls (unambiguous : Record.Unambiguous records)
    {outer : LiveInvocation} {parent : Site} (rooted : outer.Rooted types parent)
    (shown : ∀ inner ∈ outer.tree, inner.Shown records) {maker : Option (UInt64 × UInt64)}
    (made : Record.readMaker? records parent.stack = some maker)
    {line : Line} {inner : LiveInvocation} (member : (line, inner) ∈ linedCalls maker [outer]) :
    ∃ below, inner.site.stack = parent.stack ++ below ∧
      Record.readLine? records parent.stack below = some line := by
  induction rooted generalizing maker line inner with
  | @intro outer parent site own calls ih =>
      obtain ⟨call, among, rest, rfl, inside⟩ := mem_linedCalls_iff.mp member
      obtain rfl := List.mem_singleton.mp among
      have stack : call.site.stack = parent.stack ++ [⟨call.procedure, call.args, types⟩] := by
        rw [site]
        rfl
      -- Below the call the line goes on in the same way.
      have onwards : ∃ below, inner.site.stack = call.site.stack ++ below ∧
          Record.readLine? records call.site.stack below = some rest := by
        rcases inside with ⟨rfl, rfl⟩ | inside
        · exact ⟨[], (List.append_nil _).symm, rfl⟩
        · obtain ⟨stage, staged, dispatch, issued, inside⟩ := mem_linedStages_iff.mp inside
          obtain ⟨call', among, _, rfl, further⟩ := mem_linedCalls_iff.mp inside
          have called : call.Calls call' := ⟨stage, staged, dispatch, issued, among⟩
          have below (inner : LiveInvocation) (member : inner ∈ call'.tree) :
              inner.Shown records :=
            shown inner (mem_tree_iff_calls.mpr (.inr ⟨call', called, member⟩))
          refine ih call' called below ?_
            (mem_linedCalls_iff.mpr ⟨call', List.mem_singleton_self _, _, rfl, further⟩)
          -- The place of the call has one command that can have made it, which is the one that did.
          obtain ⟨record, recorded, place⟩ := (below call' (mem_tree_iff.mpr (.inl rfl))).placed
          obtain ⟨site', _, _⟩ := calls call' called
          have inside : call.site.stack ≠ [] := by
            rw [stack]
            exact List.append_ne_nil_of_right_ne_nil _ (List.cons_ne_nil _ _)
          have above : record.trace.stack.dropLast = call.site.stack := by
            rw [place, site']
            exact List.dropLast_concat
          have one := unambiguous record recorded (by rwa [above])
          rw [above] at one
          obtain ⟨only, single⟩ := List.length_eq_one_iff.mp one
          have maker := (shown call (mem_tree_iff.mpr (.inl rfl))).makers stage staged dispatch
            issued (List.ne_nil_of_mem among)
          rw [single] at maker
          rw [Record.readMaker?, if_neg inside, Record.maker?, single, List.mem_singleton.mp maker]
          rfl
      obtain ⟨below, goes, read⟩ := onwards
      refine ⟨⟨call.procedure, call.args, types⟩ :: below, ?_, ?_⟩
      · rw [goes, stack, List.append_assoc]
        rfl
      · rw [stack] at read
        rw [Record.readLine?, made, read]
        rfl

variable {handlers : Handlers} {runtime : Runtime} {fuel : Nat} {parent : Site} {place : Place}
  {procedure : Procedure} {args : Value} {now : Nat} {invocation : LiveInvocation}

/-- The records of a run show every invocation of its tree. -/
theorem shown_of_invoke
    (found : invoke handlers runtime fuel parent place procedure args now = some invocation) :
    ∀ inner ∈ invocation.tree, inner.Shown invocation.records := by
  intro inner member
  obtain ⟨_, _, _, _, _, _, invoked⟩ := exists_invoke_of_mem_tree found member
  obtain ⟨⟨above, stack⟩, begins, issued⟩ := told_of_invoke invoked
  have recorded (emission : Emission) (own : emission ∈ inner.own) :
      emission.record.untimed ∈ invocation.records :=
    List.mem_map_of_mem (LiveInvocation.mem_emissions_iff.mpr ⟨inner, member, own⟩)
  refine ⟨?_, ?_⟩
  · have first : inner.site.stack ∈ inner.own.filterMap fun emission => emission.record.opens? := by
      rw [begins]
      exact List.mem_singleton_self _
    obtain ⟨emission, own, opens⟩ := List.mem_filterMap.mp first
    have place := Record.stack_of_opens? opens
    exact ⟨_, recorded emission own, place⟩
  · intro stage staged dispatch among made
    obtain ⟨⟨time, opened⟩, _, handled⟩ := issued stage staged dispatch among
    have own : dispatch.opened ∈ inner.own := by
      refine List.mem_cons_of_mem _ (List.mem_append_left _ ?_)
      exact List.mem_flatMap.mpr ⟨stage, staged, List.mem_flatMap.mpr ⟨dispatch, among,
        List.mem_cons_self⟩⟩
    refine List.mem_filterMap.mpr ⟨_, recorded _ own, ?_⟩
    have known : (inner.site.stack.getLast?.any fun frame =>
        frame.handlers.contains dispatch.command.type) = true := by
      rw [stack, List.getLast?_concat, Option.any_some, List.contains_iff_mem]
      exact handled made
    rw [opened]
    exact if_pos ⟨rfl, known⟩

/-- The records say of each invocation of the tree once that it begins at its place. -/
theorem opened_perm_of_invoke
    (found : invoke handlers runtime fuel parent place procedure args now = some invocation) :
    (invocation.records.filterMap Record.opens?).Perm
      (invocation.tree.map fun inner => inner.site.stack) := by
  have parts := invocation.interleaves_own.perm_flatten.filterMap
    fun emission => emission.record.opens?
  have each : (invocation.tree.map LiveInvocation.own).map (List.filterMap
      fun emission => emission.record.opens?) = invocation.tree.map fun inner =>
        [inner.site.stack] := by
    rw [List.map_map]
    apply List.map_congr_left
    intro inner member
    obtain ⟨_, _, _, _, _, _, invoked⟩ := exists_invoke_of_mem_tree found member
    exact (told_of_invoke invoked).begins
  rw [List.filterMap_flatten, each, ← List.flatMap_def, ← List.map_eq_flatMap] at parts
  rw [LiveInvocation.records, List.filterMap_map]
  refine cast ?_ parts
  congr 2
  funext emission
  exact (Record.opens?_untimed emission.record).symm

/-- **Lines are read off unambiguous records.** -/
theorem LiveInvocation.lines_perm_readLines
    (found : invoke handlers runtime fuel parent place procedure args now = some invocation)
    (outermost : parent.stack = []) (unambiguous : Record.Unambiguous invocation.records) :
    invocation.lines.Perm (Record.readLines invocation.records) := by
  have read : ∀ entry ∈ linedCalls none [invocation],
      Record.readLine? invocation.records [] entry.2.site.stack = some entry.1 := by
    intro ⟨line, inner⟩ member
    obtain ⟨below, goes, read⟩ := readLine?_of_mem_linedCalls unambiguous (rooted_of_invoke found)
      (shown_of_invoke found) (by rw [outermost]; rfl) member
    rw [outermost] at goes read
    rwa [goes]
  have lines : invocation.lines = (invocation.tree.map fun inner => inner.site.stack).filterMap
      (Record.readLine? invocation.records []) := by
    rw [lines, tree, ← map_snd_linedCalls none [invocation], List.map_map, List.filterMap_map,
      ← List.filterMap_eq_map]
    exact List.filterMap_congr fun entry member => (read entry member).symm
  rw [lines]
  exact ((opened_perm_of_invoke found).symm.filterMap _)

end Read

section Runs

variable {host host' : Host} {config config' : Config} {fresh fresh' : RunId}
  {procedure procedure' : Procedure} {args args' : Value} {invocation invocation' : LiveInvocation}

/-- **What records tell of the tree of calls.** Two runs with the same records apart from the clock,
in any order, have as many invocations at each place. If wherever something lies below a place the
records show only one command that can have made it, the runs have the same lines of calls, and
these are what is read off the records. -/
theorem Host.same_tree_of_same_records
    (runs : host.Runs config fresh procedure args invocation)
    (runs' : host'.Runs config' fresh' procedure' args' invocation')
    (same : invocation.records.Perm invocation'.records) :
    (invocation.tree.map fun inner => inner.site.stack).Perm
        (invocation'.tree.map fun inner => inner.site.stack) ∧
      (Record.Unambiguous invocation.records →
        invocation.lines.Perm (Record.readLines invocation.records) ∧
          invocation.lines.Perm invocation'.lines) := by
  obtain ⟨runtime, fuel, found⟩ := runs
  obtain ⟨runtime', fuel', found'⟩ := runs'
  refine ⟨?_, fun unambiguous => ?_⟩
  · exact (opened_perm_of_invoke found).symm.trans
      ((same.filterMap Record.opens?).trans (opened_perm_of_invoke found'))
  · have read := LiveInvocation.lines_perm_readLines found rfl unambiguous
    have read' := LiveInvocation.lines_perm_readLines found' rfl (unambiguous.perm same)
    exact ⟨read, read.trans ((Record.readLines_perm same).trans read'.symm)⟩

/-- The two commands of a nested run take turns to be the slower one, and the records are the same
apart from the clock. -/
theorem Host.same_tree_of_same_records_nested :
    let config : Config := ⟨none, some ⟨"run"⟩, ⟨[.recorder]⟩⟩
    let inner : Procedure := .errand "inner" (.all [.ofType "get", .ofType "put"])
    let outer : Procedure := .errand "outer" (.one (.ofType "run"))
    let host (delay delay' : Nat) : Host := ⟨((Handlers.empty.insert "get" fun _ _ =>
      .sleep delay (.settle (.ok .null))).insert "put" fun _ _ =>
      .sleep delay' (.settle (.ok .null))).insert "run" fun _ _ => .call inner .null .settle⟩
    ∃ invocation invocation',
      (host 1 2).Runs config ⟨"x"⟩ outer .null invocation ∧
      (host 2 1).Runs config ⟨"y"⟩ outer .null invocation' ∧
      invocation.records.Perm invocation'.records ∧
      Record.Unambiguous invocation.records ∧
      Record.readLines invocation.records =
        [[⟨none, "outer", .null⟩], [⟨none, "outer", .null⟩, ⟨some (0, 0), "inner", .null⟩]] ∧
      invocation.lines.Perm (Record.readLines invocation.records) ∧
      invocation.lines.Perm invocation'.lines := by
  intro config inner outer host
  have shown : ((invoke (host 1 2).handlers default 3 (.root config ⟨"x"⟩) [] outer .null
      0).bind fun invocation =>
        (invoke (host 2 1).handlers default 3 (.root config ⟨"y"⟩) [] outer .null 0).map
          fun invocation' =>
            (decide (invocation.records.Perm invocation'.records),
              decide (Record.Unambiguous invocation.records),
              Record.readLines invocation.records)) =
      some (true, true,
        [[⟨none, "outer", .null⟩], [⟨none, "outer", .null⟩, ⟨some (0, 0), "inner", .null⟩]]) := by
    decide +kernel
  obtain ⟨invocation, found, shown⟩ := Option.bind_eq_some_iff.mp shown
  obtain ⟨invocation', found', shown⟩ := Option.map_eq_some_iff.mp shown
  simp only [Prod.mk.injEq, decide_eq_true_eq] at shown
  obtain ⟨same, unambiguous, read⟩ := shown
  have runs : (host 1 2).Runs config ⟨"x"⟩ outer .null invocation := ⟨_, _, found⟩
  have runs' : (host 2 1).Runs config ⟨"y"⟩ outer .null invocation' := ⟨_, _, found'⟩
  obtain ⟨lines, lines'⟩ := (same_tree_of_same_records runs runs' same).2 unambiguous
  exact ⟨invocation, invocation', runs, runs', same, unambiguous, read, lines, lines'⟩

/-- Of two commands of a batch one makes a nested run and the other one does nothing. If it is the
first, the records are the same as if it is the second. -/
theorem Host.not_same_tree_of_same_records :
    let config : Config := ⟨none, some ⟨"run"⟩, ⟨[.recorder]⟩⟩
    let calls : Handler := fun _ _ =>
      .call ⟨"inner", Unit, fun _ => (), fun _ _ => (.done .null, ())⟩ .null .settle
    let rests : Handler := fun _ _ => .settle (.ok .null)
    let outer : Procedure := .errand "outer" (.all [.ofType "a", .ofType "b"])
    let first : Host := ⟨(Handlers.empty.insert "a" calls).insert "b" rests⟩
    let second : Host := ⟨(Handlers.empty.insert "a" rests).insert "b" calls⟩
    ∃ invocation invocation',
      first.Runs config ⟨"x"⟩ outer .null invocation ∧
      second.Runs config ⟨"x"⟩ outer .null invocation' ∧
      (∀ emission ∈ invocation.emissions ++ invocation'.emissions, emission.panic? = none) ∧
      invocation.records.Perm invocation'.records ∧
      invocation.lines =
        [[⟨none, "outer", .null⟩], [⟨none, "outer", .null⟩, ⟨some (0, 0), "inner", .null⟩]] ∧
      invocation'.lines =
        [[⟨none, "outer", .null⟩], [⟨none, "outer", .null⟩, ⟨some (0, 1), "inner", .null⟩]] ∧
      ¬ invocation.lines.Perm invocation'.lines := by
  intro config calls rests outer first second
  have shown : ((invoke first.handlers default 2 (.root config ⟨"x"⟩) [] outer .null 0).bind
      fun invocation =>
        (invoke second.handlers default 2 (.root config ⟨"x"⟩) [] outer .null 0).map
          fun invocation' =>
            (decide (∀ emission ∈ invocation.emissions ++ invocation'.emissions,
                emission.panic? = none),
              decide (invocation.records.Perm invocation'.records), invocation.lines,
              invocation'.lines)) =
      some (true, true,
        [[⟨none, "outer", .null⟩], [⟨none, "outer", .null⟩, ⟨some (0, 0), "inner", .null⟩]],
        [[⟨none, "outer", .null⟩], [⟨none, "outer", .null⟩, ⟨some (0, 1), "inner", .null⟩]]) := by
    decide +kernel
  obtain ⟨invocation, found, shown⟩ := Option.bind_eq_some_iff.mp shown
  obtain ⟨invocation', found', shown⟩ := Option.map_eq_some_iff.mp shown
  simp only [Prod.mk.injEq, decide_eq_true_eq] at shown
  obtain ⟨calm, same, lines, lines'⟩ := shown
  refine ⟨invocation, invocation', ⟨_, _, found⟩, ⟨_, _, found'⟩, calm, same, lines, lines', ?_⟩
  rw [lines, lines']
  decide +kernel

end Runs

end Resumable
