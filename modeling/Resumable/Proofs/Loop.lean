import Resumable.Proofs.Course

/-! # The loop of a run, act by act

The loop of a run gives its computation an input and has the suspension that it
answers performed, in turn. `Performer.Point` is where the loop stands between two
such acts and `Performer.Moves` what it does there, so that a `Performer.History`
is any finite stretch of a run, of one that ends or of one that goes on for ever. A
run that ends is the history that leads to its end
(`Performer.history_of_course`, `Performer.stages_of_history`).

Whatever the performer does, a history obeys the protocol of resumptions
(`Performer.History.obeys`): the computation is given a start and then the outcomes
that the performer gave, the performer is asked for the suspensions of the
computation as they are, in order and numbered from zero, and the session refuses
nothing. What a run reports and returns is read off the end of its history
(`Performer.invoke_obeys_protocol`).
-/

namespace Resumable

open Json (Value)

namespace Performer

variable {σ δ ε τ : Type}

/-- Where the loop of a run stands between two of its acts. -/
inductive Point (τ σ ε : Type)
  /-- The computation is to be given an input. -/
  | resuming (session : Session τ) (input : Input) (own : σ) (now : Nat)
  /-- The performer is to be asked for the outcome of a suspension. -/
  | performing (session : Session τ) (suspension : Suspension) (own : σ) (now : Nat)
  | ended (finale : Finale ε) (own : σ)

namespace Point

def own : Point τ σ ε → σ
  | resuming _ _ own _ => own
  | performing _ _ own _ => own
  | ended _ own => own

/-- The input that the computation is to be given. -/
def input? : Point τ σ ε → Option Input
  | resuming _ input _ _ => some input
  | _ => none

/-- The suspension that the performer is to be asked for, with its number. -/
def asked? : Point τ σ ε → Option (Suspension × Nat)
  | performing session suspension _ _ => some (suspension, session.steps)
  | _ => none

end Point

/-- One act of the loop of a run. -/
inductive Act (δ ε : Type)
  /-- The session is given an input and answers. -/
  | resumes (input : Input) (answer : Except Session.Refusal Step)
  /-- The performer is asked for the outcome of a suspension. -/
  | performs (stage : Stage δ ε)

namespace Act

def input? : Act δ ε → Option Input
  | resumes input _ => some input
  | performs _ => none

def answer? : Act δ ε → Option (Except Session.Refusal Step)
  | resumes _ answer => some answer
  | performs _ => none

/-- The suspension with which the computation answers. -/
def suspension? : Act δ ε → Option Suspension
  | resumes _ (.ok (.suspend suspension)) => some suspension
  | _ => none

def stage? : Act δ ε → Option (Stage δ ε)
  | resumes _ _ => none
  | performs stage => some stage

/-- The outcome that the performer gives. -/
def outcome? (act : Act δ ε) : Option Outcome :=
  act.stage?.bind fun stage => stage.ending.outcome?

/-- The act after which a run ends in this way: the computation settles, or the performer
gives no outcome. -/
def Ends : Act δ ε → Ending ε → Prop
  | resumes _ answer, ending =>
    ∃ outcome, answer = .ok (.ofOutcome outcome) ∧ ending = .settled outcome
  | performs stage, ending => stage.ending = ending ∧ ∀ outcome, ending ≠ .settled outcome

end Act

section Moves

variable (performer : Performer σ δ ε) (site : Site) (move : τ → Input → Step × τ)

/-- What the loop does at a point, and where it stands then. -/
inductive Moves : Point τ σ ε → Act δ ε → Point τ σ ε → Prop
  | refused {session : Session τ} {input : Input} {own : σ} {now : Nat}
      {refusal : Session.Refusal} (fed : session.feed move input = .error refusal) :
      Moves (.resuming session input own now) (.resumes input (.error refusal))
        (.ended ⟨now, session.steps, .settled (.error ⟨.computation, refusal.message⟩)⟩ own)
  /-- The computation is done or has failed. -/
  | settled {session after : Session τ} {input : Input} {own : σ} {now : Nat} {outcome : Outcome}
      (fed : session.feed move input = .ok (.ofOutcome outcome, after)) :
      Moves (.resuming session input own now) (.resumes input (.ok (.ofOutcome outcome)))
        (.ended ⟨now, after.steps, .settled outcome⟩ own)
  | suspended {session after : Session τ} {input : Input} {own : σ} {now : Nat}
      {suspension : Suspension} (fed : session.feed move input = .ok (.suspend suspension, after)) :
      Moves (.resuming session input own now) (.resumes input (.ok (.suspend suspension)))
        (.performing after suspension own now)
  | resumed {session : Session τ} {suspension : Suspension} {own : σ} {now : Nat}
      {performed : Performance σ δ ε} {outcome : Outcome}
      (performs : performer.perform own site suspension session.steps now = some performed)
      (gives : performed.ending = .settled outcome) :
      Moves (.performing session suspension own now)
        (.performs ⟨suspension, session.steps, now, performed.evidence, performed.finish,
          performed.ending⟩)
        (.resuming session (.ofOutcome outcome) performed.state performed.finish)
  /-- The performer gives no outcome. -/
  | stopped {session : Session τ} {suspension : Suspension} {own : σ} {now : Nat}
      {performed : Performance σ δ ε}
      (performs : performer.perform own site suspension session.steps now = some performed)
      (stops : ∀ outcome, performed.ending ≠ .settled outcome) :
      Moves (.performing session suspension own now)
        (.performs ⟨suspension, session.steps, now, performed.evidence, performed.finish,
          performed.ending⟩)
        (.ended ⟨performed.finish, session.steps, performed.ending⟩ performed.state)

/-- The loop may go from a first point through acts in order to a last one. -/
inductive History (first : Point τ σ ε) : List (Act δ ε) → Point τ σ ε → Prop
  | start : History first [] first
  | step {acts : List (Act δ ε)} {point next : Point τ σ ε} {act : Act δ ε}
      (history : History first acts point) (moves : Moves performer site move point act next) :
      History first (acts ++ [act]) next

/-- Asked in state `own` for the suspensions of stages in order, the performer does what the
stages say and is left in its last state. -/
inductive Performs (own : σ) : List (Stage δ ε) → (last : σ) → Prop
  | start : Performs own [] own
  | step {stages : List (Stage δ ε)} {middle last : σ} {stage : Stage δ ε}
      (performs : Performs own stages middle)
      (asked : performer.perform middle site stage.suspension stage.step stage.start =
        some ⟨last, stage.evidence, stage.finish, stage.ending⟩) :
      Performs own (stages ++ [stage]) last

end Moves

variable {performer : Performer σ δ ε} {site : Site} {move : τ → Input → Step × τ}

section Histories

variable {first point next : Point τ σ ε} {act : Act δ ε} {acts : List (Act δ ε)}

theorem not_moves_ended {finale : Finale ε} {own : σ}
    (moves : performer.Moves site move (.ended finale own) act next) : False := by
  cases moves

/-- The loop has no choice: what it does is the computation's and the performer's doing. -/
theorem Moves.unique {act' : Act δ ε} {next' : Point τ σ ε}
    (moves : performer.Moves site move point act next)
    (moves' : performer.Moves site move point act' next') : act = act' ∧ next = next' := by
  cases moves with
  | refused fed =>
      cases moves' with
      | refused fed' => cases fed.symm.trans fed'; exact ⟨rfl, rfl⟩
      | settled fed' => cases fed.symm.trans fed'
      | suspended fed' => cases fed.symm.trans fed'
  | @settled _ _ _ _ _ outcome fed =>
      cases moves' with
      | refused fed' => cases fed.symm.trans fed'
      | @settled _ _ _ _ _ outcome' fed' =>
          have same := Except.ok.inj (fed.symm.trans fed')
          obtain rfl : outcome = outcome' := by
            cases outcome <;> cases outcome' <;> cases congrArg Prod.fst same <;> rfl
          cases same
          exact ⟨rfl, rfl⟩
      | suspended fed' => cases outcome <;> cases fed.symm.trans fed'
  | suspended fed =>
      cases moves' with
      | refused fed' => cases fed.symm.trans fed'
      | @settled _ _ _ _ _ outcome fed' => cases outcome <;> cases fed.symm.trans fed'
      | suspended fed' => cases fed.symm.trans fed'; exact ⟨rfl, rfl⟩
  | resumed performs gives =>
      cases moves' with
      | resumed performs' gives' =>
          cases performs.symm.trans performs'
          cases gives.symm.trans gives'
          exact ⟨rfl, rfl⟩
      | stopped performs' stops' =>
          cases performs.symm.trans performs'
          exact absurd gives (stops' _)
  | stopped performs stops =>
      cases moves' with
      | resumed performs' gives' =>
          cases performs.symm.trans performs'
          exact absurd gives' (stops _)
      | stopped performs' stops' => cases performs.symm.trans performs'; exact ⟨rfl, rfl⟩

/-- A history may begin one act earlier. -/
theorem History.cons {last : Point τ σ ε} (moves : performer.Moves site move first act next)
    (history : performer.History site move next acts last) :
    performer.History site move first (act :: acts) last := by
  induction history with
  | start => exact .step .start moves
  | step history moves' ih => exact .step ih moves'

theorem History.eq_of_nil (history : performer.History site move first [] point) :
    first = point := by
  generalize none_yet : ([] : List (Act δ ε)) = acts at history
  cases history with
  | start => rfl
  | step => exact absurd none_yet.symm (List.append_ne_nil_of_right_ne_nil _ (List.cons_ne_nil _ _))

theorem History.cons_iff {last : Point τ σ ε} :
    performer.History site move first (act :: acts) last ↔
      ∃ next, performer.Moves site move first act next ∧
        performer.History site move next acts last := by
  constructor
  · intro history
    generalize whole : act :: acts = list at history
    induction history generalizing acts with
    | start => cases whole
    | @step before point next' last' history moves ih =>
        cases before with
        | nil =>
            cases whole
            obtain rfl := history.eq_of_nil
            exact ⟨_, moves, .start⟩
        | cons head rest =>
            cases whole
            obtain ⟨next, moves', others⟩ := ih rfl
            exact ⟨next, moves', .step others moves⟩
  · rintro ⟨next, moves, history⟩
    exact history.cons moves

theorem History.of_ended {finale : Finale ε} {own : σ}
    (history : performer.History site move (.ended finale own) acts point) :
    acts = [] ∧ point = .ended finale own := by
  cases acts with
  | nil => exact ⟨rfl, history.eq_of_nil.symm⟩
  | cons act rest =>
      obtain ⟨next, moves, _⟩ := History.cons_iff.mp history
      exact (not_moves_ended moves).elim

/-- Whatever the loop has done so far is the beginning of what it does up to its end. -/
theorem History.prefix_of_ended {whole : List (Act δ ε)} {finale : Finale ε} {last : σ}
    (history : performer.History site move first acts point)
    (ends : performer.History site move first whole (.ended finale last)) : acts <+: whole := by
  induction acts generalizing first whole with
  | nil => exact List.nil_prefix
  | cons act rest ih =>
      obtain ⟨next, moves, history⟩ := History.cons_iff.mp history
      cases whole with
      | nil =>
          obtain rfl := ends.eq_of_nil
          exact (not_moves_ended moves).elim
      | cons act' rest' =>
          obtain ⟨next', moves', ends⟩ := History.cons_iff.mp ends
          obtain ⟨rfl, rfl⟩ := moves.unique moves'
          exact (List.cons_prefix_cons).mpr ⟨rfl, ih history ends⟩

end Histories

section Runs

variable {step now : Nat} {own last : σ} {state : τ} {session : Session τ} {input : Input}
  {stages : List (Stage δ ε)} {finale : Finale ε}

/-- A computation goes its course act by act. -/
theorem history_of_course
    (course : performer.Course site move step own state input now stages finale last)
    (accepted : session.refusal? input = none) (holds : session.state = state)
    (numbered : session.stepAfter input = step) :
    ∃ acts, performer.History site move (.resuming session input own now) acts
        (.ended finale last) ∧ acts.filterMap Act.stage? = stages := by
  subst holds numbered
  generalize stepped : session.stepAfter input = step at course
  generalize holds : session.state = state at course
  induction course generalizing session with
  | @done step now own state after input value answer =>
      subst holds stepped
      have fed : session.feed move input = .ok (.ofOutcome (.ok value), _) :=
        Session.feed_of_answer accepted answer
      exact ⟨_, History.start.step (.settled fed), rfl⟩
  | @failed step now own state after input failure answer =>
      subst holds stepped
      have fed : session.feed move input = .ok (.ofOutcome (.error failure), _) :=
        Session.feed_of_answer accepted answer
      exact ⟨_, History.start.step (.settled fed), rfl⟩
  | stopped answer performs stops =>
      subst holds stepped
      have fed := Session.feed_of_answer accepted answer
      exact ⟨_, (History.start.step (.suspended fed)).step (.stopped performs stops), rfl⟩
  | resumed answer performs settles rest ih =>
      subst holds stepped
      have fed := Session.feed_of_answer accepted answer
      obtain ⟨acts, history, staged⟩ := ih (Session.refusal?_suspended _ _ _)
        (Session.stepAfter_suspended _ _ _) rfl
      refine ⟨_, (history.cons (.resumed performs settles)).cons (.suspended fed), ?_⟩
      exact congrArg (_ :: ·) staged

/-- The stages of a run that ends are those of the history that leads to its end. -/
theorem stages_of_history {acts : List (Act δ ε)}
    (history : performer.History site move (.resuming session input own now) acts
      (.ended finale last)) :
    ∃ fuel, performer.stages site move fuel own session input now =
      some (acts.filterMap Act.stage?, finale, last) := by
  generalize size : acts.length = count
  induction count using Nat.strongRecOn generalizing acts session input own now with
  | ind count ih =>
      cases acts with
      | nil => cases history.eq_of_nil
      | cons act rest =>
          obtain ⟨next, moves, history⟩ := History.cons_iff.mp history
          cases moves with
          | refused fed =>
              obtain ⟨rfl, ends⟩ := history.of_ended
              cases ends
              refine ⟨1, ?_⟩
              rw [Performer.stages, fed]
              rfl
          | @settled _ _ _ _ _ outcome fed =>
              obtain ⟨rfl, ends⟩ := history.of_ended
              cases ends
              refine ⟨1, ?_⟩
              rw [Performer.stages, fed]
              cases outcome <;> rfl
          | suspended fed =>
              cases rest with
              | nil => cases history.eq_of_nil
              | cons act rest =>
                  obtain ⟨next, moves, history⟩ := History.cons_iff.mp history
                  cases moves with
                  | resumed performs gives =>
                      have shorter : rest.length < count := by
                        rw [← size, List.length_cons, List.length_cons]
                        omega
                      obtain ⟨fuel, staged⟩ := ih rest.length shorter history rfl
                      refine ⟨fuel + 1, ?_⟩
                      rw [Performer.stages, fed]
                      simp only [performs, gives, staged, Option.bind_eq_bind, Option.bind_some]
                      rfl
                  | stopped performs stops =>
                      obtain ⟨rfl, ends⟩ := history.of_ended
                      cases ends
                      refine ⟨1, ?_⟩
                      rw [Performer.stages, fed]
                      simp only [performs, Option.bind_eq_bind, Option.bind_some]
                      rfl

end Runs

section Obeys

/-- What the guard of the computation knows at a point to which the performer's answers to
`count` suspensions have led, and inputs that left the computation in `state`: it will accept
what comes next, and it has counted the answers. -/
def Point.Guarded (state : τ) (count : Nat) : Point τ σ ε → Prop
  | .resuming session input _ _ =>
    session.refusal? input = none ∧ session.state = state ∧ session.stepAfter input = count
  | .performing session _ _ _ =>
    session.phase = .suspended ∧ session.state = state ∧ session.steps = count
  | .ended _ _ => True

variable (performer site move) in
/-- The acts that led to a point obey the protocol of resumptions, when the computation began in
state `initial` and the performer in state `own`. -/
structure Obeys (initial : τ) (own : σ) (acts : List (Act δ ε)) (point : Point τ σ ε) :
    Prop where
  /-- The computation is given a start and then the outcomes that the performer gave, each once
  and in order. -/
  given : acts.filterMap Act.input? ++ point.input?.toList =
    .start :: (acts.filterMap Act.outcome?).map .ofOutcome
  /-- The session refuses nothing: the answers are the computation's own. -/
  answered : acts.filterMap Act.answer? =
    (answers move initial (acts.filterMap Act.input?)).map .ok
  /-- The performer is asked for the suspensions of the computation, numbered from zero. -/
  asked : (acts.filterMap Act.stage?).map (fun stage => (stage.suspension, stage.step)) ++
    point.asked?.toList = (acts.filterMap Act.suspension?).zipIdx
  performs : performer.Performs site own (acts.filterMap Act.stage?) point.own
  guarded : point.Guarded (stateAfter move initial (acts.filterMap Act.input?))
    (acts.filterMap Act.stage?).length
  /-- A run ends as its computation settles, or as the performer says that gives no outcome. -/
  ends : ∀ finale last, point = .ended finale last →
    ∃ act, acts.getLast? = some act ∧ act.Ends finale.ending
  /-- Nothing is done after the performer gave no outcome. -/
  stops : ∀ before stage after, acts = before ++ .performs stage :: after →
    (∀ outcome, stage.ending ≠ .settled outcome) →
    after = [] ∧ ∃ finale last, point = .ended finale last ∧ finale.ending = stage.ending

variable {initial : τ} {own : σ} {acts : List (Act δ ε)} {point next : Point τ σ ε}
  {act : Act δ ε}

theorem obeys_start (initial : τ) (own : σ) (now : Nat) :
    performer.Obeys site move initial own [] (.resuming (.fresh initial) .start own now) where
  given := rfl
  answered := rfl
  asked := rfl
  performs := .start
  guarded := ⟨rfl, rfl, rfl⟩
  ends := nofun
  stops := by
    intro before stage after none_yet
    exact absurd none_yet.symm (List.append_ne_nil_of_right_ne_nil _ (List.cons_ne_nil _ _))

/-- An act that follows acts among which the performer always gave an outcome keeps it so that
nothing follows a stage without one. -/
theorem Obeys.stops_append (obeys : performer.Obeys site move initial own acts point)
    (moves : performer.Moves site move point act next) :
    ∀ before stage after, acts ++ [act] = before ++ .performs stage :: after →
      (∀ outcome, stage.ending ≠ .settled outcome) →
      after = [] ∧ ∃ finale last, next = .ended finale last ∧ finale.ending = stage.ending := by
  intro before stage after whole unsettled
  rcases List.eq_nil_or_concat after with rfl | ⟨others, last, rfl⟩
  · obtain ⟨rfl, same⟩ := List.append_inj' whole rfl
    cases same
    refine ⟨rfl, ?_⟩
    cases moves with
    | resumed performs gives => exact absurd gives (unsettled _)
    | stopped performs stops => exact ⟨_, _, rfl, rfl⟩
  · rw [List.concat_eq_append, ← List.cons_append, ← List.append_assoc] at whole
    obtain ⟨earlier, _⟩ := List.append_inj' whole rfl
    obtain ⟨_, finale, ended, rfl, _⟩ := obeys.stops before stage others earlier unsettled
    exact (not_moves_ended moves).elim

theorem stages_concat (acts : List (Act δ ε)) (stage : Stage δ ε) :
    (acts ++ [Act.performs stage]).filterMap Act.stage? = acts.filterMap Act.stage? ++ [stage] := by
  simp [Act.stage?]

/-- **One act obeys.** -/
theorem Obeys.moves (obeys : performer.Obeys site move initial own acts point)
    (moves : performer.Moves site move point act next) :
    performer.Obeys site move initial own (acts ++ [act]) next := by
  have stops := obeys.stops_append moves
  obtain ⟨given, answered, asked, performs, guarded, _, _⟩ := obeys
  cases moves with
  | refused fed =>
      rw [Session.feed_of_accepted guarded.1] at fed
      cases fed
  | @settled session after input own' now outcome fed =>
      obtain ⟨accepted, holds, numbered⟩ := guarded
      rw [Session.feed_of_accepted accepted, holds] at fed
      obtain ⟨answer, rfl⟩ := Prod.mk.inj (Except.ok.inj fed)
      have unsuspended : (Act.resumes input (.ok (.ofOutcome outcome)) : Act δ ε).suspension? =
          none := by cases outcome <;> rfl
      constructor
      case given =>
        simpa [List.filterMap_cons, Act.input?, Act.outcome?, Act.stage?, Point.input?] using given
      case answered => simp [Act.answer?, Act.input?, answered, answers_concat, answer]
      case asked => simpa [List.filterMap_cons, Act.stage?, unsuspended, Point.asked?] using asked
      case performs => simpa [List.filterMap_cons, Act.stage?, Point.own] using performs
      case guarded => trivial
      case ends =>
        rintro finale last same
        cases same
        exact ⟨_, List.getLast?_concat, outcome, rfl, rfl⟩
      case stops => exact stops
  | @suspended session after input own' now suspension fed =>
      obtain ⟨accepted, holds, numbered⟩ := guarded
      rw [Session.feed_of_accepted accepted, holds] at fed
      obtain ⟨answer, rfl⟩ := Prod.mk.inj (Except.ok.inj fed)
      constructor
      case given =>
        simpa [List.filterMap_cons, Act.input?, Act.outcome?, Act.stage?, Point.input?] using given
      case answered => simp [Act.answer?, Act.input?, answered, answers_concat, answer]
      case asked =>
        -- The number of the suspension is that of the suspensions before it.
        simp only [Point.asked?, Option.toList_none, List.append_nil] at asked
        have count : (acts.filterMap Act.stage?).length =
            (acts.filterMap Act.suspension?).length := by
          simpa using congrArg List.length asked
        simp [List.filterMap_cons, Act.stage?, Act.suspension?, Point.asked?, List.zipIdx_append,
          asked, numbered, count]
      case performs => simpa [List.filterMap_cons, Act.stage?, Point.own] using performs
      case guarded =>
        refine ⟨?_, ?_, ?_⟩
        · rw [answer]; rfl
        · simp [Act.input?, stateAfter_concat]
        · simpa [List.filterMap_cons, Act.stage?] using numbered
      case ends => exact nofun
      case stops => exact stops
  | @resumed session suspension own' now performed outcome performs' gives =>
      obtain ⟨phase, holds, numbered⟩ := guarded
      obtain ⟨_, steps, state⟩ := session
      obtain rfl : _ = Phase.suspended := phase
      simp only [Point.input?, Option.toList_none, List.append_nil] at given
      constructor
      case given =>
        simp [List.filterMap_cons, Act.input?, Act.outcome?, Act.stage?, Point.input?, gives,
          Ending.outcome?, given]
      case answered => simpa [List.filterMap_cons, Act.answer?, Act.input?] using answered
      case asked =>
        simpa [List.filterMap_cons, Act.stage?, Act.suspension?, Point.asked?] using asked
      case performs =>
        rw [stages_concat]
        exact performs.step performs'
      case guarded =>
        refine ⟨Session.refusal?_suspended .., ?_, ?_⟩
        · simpa [List.filterMap_cons, Act.input?] using holds
        · rw [Session.stepAfter_suspended]
          simpa [Act.stage?] using numbered
      case ends => exact nofun
      case stops => exact stops
  | @stopped session suspension own' now performed performs' unsettled =>
      have silent := Ending.outcome?_eq_none unsettled
      constructor
      case given =>
        simpa [List.filterMap_cons, Act.input?, Act.outcome?, Act.stage?, Point.input?, silent]
          using given
      case answered => simpa [List.filterMap_cons, Act.answer?, Act.input?] using answered
      case asked =>
        simpa [List.filterMap_cons, Act.stage?, Act.suspension?, Point.asked?] using asked
      case performs =>
        rw [stages_concat]
        exact performs.step performs'
      case guarded => trivial
      case ends =>
        rintro finale last same
        cases same
        exact ⟨_, List.getLast?_concat, rfl, unsettled⟩
      case stops => exact stops

/-- **Every history obeys the protocol of resumptions.** -/
theorem History.obeys {now : Nat}
    (history : performer.History site move (.resuming (.fresh initial) .start own now) acts
      point) : performer.Obeys site move initial own acts point := by
  induction history with
  | start => exact obeys_start initial own now
  | step _ moves ih => exact ih.moves moves

end Obeys

section Invoked

variable {procedure : Procedure} {args : Value} {now fuel : Nat} {own last : σ}
  {invocation : Invocation δ ε}

/-- Where the loop of a run begins. -/
def Point.begin (procedure : Procedure) (args : Value) (own : σ) (now : Nat) :
    Point procedure.State σ ε :=
  .resuming (procedure.session args) .start own now

/-- The last record of a run that began at `start`, when its loop has ended. -/
def completion (site : Site) (procedure : String) (args : Value) (start : Nat)
    (finale : Finale ε) (outcome : Outcome) : Emission :=
  site.emit finale.finish
    (.callComplete procedure args (.ofMillis start) (UInt64.ofNat finale.steps)
      (.ofOutcome (.ofMillis start) (.ofMillis finale.finish) outcome))

variable (performer site) in
/-- What a run reports and returns when its loop has ended: the outcome with which its
computation settled, or the performer's error, which the last record shows as an abortion. A
hook that panics on the last record unwinds the run. -/
def Concludes (procedure : String) (args : Value) (start : Nat) (finale : Finale ε)
    (invocation : Invocation δ ε) : Prop :=
  let complete := completion site procedure args start finale
  match finale.ending with
  | .settled outcome =>
    invocation.closed = some (complete outcome) ∧
      invocation.ending = (complete outcome).panic?.elim (.settled outcome) .unwound
  | .halted error =>
    let aborted := complete (.error ⟨.aborted, performer.errorText error⟩)
    invocation.closed = some aborted ∧
      invocation.ending = aborted.panic?.elim (.halted error) .unwound
  | .unwound message => invocation.closed = none ∧ invocation.ending = .unwound message

/-- A run on whose first record no hook panics concludes as its loop ends. -/
theorem exists_invoke_of_stages {stages : List (Stage δ ε)} {finale : Finale ε}
    (calm : (site.emit now (.call procedure.name args (.ofMillis now))).panic? = none)
    (staged : performer.stages site procedure.move fuel own (procedure.session args) .start now =
      some (stages, finale, last)) :
    ∃ invocation, performer.invoke site procedure args now fuel own = some (invocation, last) ∧
      invocation.opened = site.emit now (.call procedure.name args (.ofMillis now)) ∧
      invocation.stages = stages ∧
      performer.Concludes site procedure.name args now finale invocation := by
  unfold invoke
  simp only [calm, staged, Option.bind_eq_bind, Option.bind_some, Option.pure_def]
  refine ⟨_, rfl, rfl, rfl, ?_⟩
  unfold Concludes completion
  cases finale.ending with
  | settled outcome =>
      refine ⟨rfl, ?_⟩
      simp only [reported?, Option.map_some, Option.bind_some]
      cases Emission.panic? _ <;> rfl
  | halted error =>
      refine ⟨rfl, ?_⟩
      simp only [reported?, Option.map_some, Option.bind_some]
      cases Emission.panic? _ <;> rfl
  | unwound message => exact ⟨rfl, rfl⟩

/-- A run either is unwound by its first record or concludes as its loop ends. -/
theorem invoke_cases
    (found : performer.invoke site procedure args now fuel own = some (invocation, last)) :
    invocation.opened = site.emit now (.call procedure.name args (.ofMillis now)) ∧
      ((∃ message, invocation.opened.panic? = some message ∧ invocation.stages = [] ∧
          invocation.closed = none ∧ invocation.ending = .unwound message) ∨
        ∃ finale,
          performer.stages site procedure.move fuel own (procedure.session args) .start now =
            some (invocation.stages, finale, last) ∧
          performer.Concludes site procedure.name args now finale invocation) := by
  cases opens : (site.emit now (.call procedure.name args (.ofMillis now))).panic? with
  | some message =>
      unfold invoke at found
      simp only [opens] at found
      cases found
      exact ⟨rfl, .inl ⟨message, opens, rfl, rfl, rfl⟩⟩
  | none =>
      cases staged : performer.stages site procedure.move fuel own (procedure.session args) .start
          now with
      | none =>
          unfold invoke at found
          simp only [opens, staged, Option.bind_eq_bind, Option.bind_none] at found
          cases found
      | some result =>
          obtain ⟨stages, finale, after⟩ := result
          obtain ⟨invocation', found', opened, rfl, concludes⟩ :=
            exists_invoke_of_stages opens staged
          cases found.symm.trans found'
          exact ⟨opened, .inr ⟨finale, rfl, concludes⟩⟩

/-- The last record of a run is its completion. -/
theorem Concludes.exists_completion {procedure : String} {start : Nat} {finale : Finale ε}
    (concludes : performer.Concludes site procedure args start finale invocation)
    {emission : Emission} (closed : invocation.closed = some emission) :
    ∃ outcome, emission = completion site procedure args start finale outcome := by
  unfold Concludes at concludes
  cases ending : finale.ending with
  | settled outcome =>
      rw [ending] at concludes
      exact ⟨outcome, Option.some.inj (closed.symm.trans concludes.1)⟩
  | halted error =>
      rw [ending] at concludes
      exact ⟨_, Option.some.inj (closed.symm.trans concludes.1)⟩
  | unwound message =>
      rw [ending] at concludes
      cases closed.symm.trans concludes.1

/-- A run knows its place, its procedure's name and its arguments. -/
theorem place_of_invoke
    (found : performer.invoke site procedure args now fuel own = some (invocation, last)) :
    invocation.site = site ∧ invocation.procedure = procedure.name ∧ invocation.args = args := by
  unfold invoke at found
  dsimp only at found
  split at found
  · cases found
    exact ⟨rfl, rfl, rfl⟩
  · simp only [Option.bind_eq_bind, Option.bind_eq_some_iff, Option.pure_def,
      Option.some.injEq, Prod.mk.injEq] at found
    obtain ⟨_, _, rfl, _⟩ := found
    exact ⟨rfl, rfl, rfl⟩

/-- **Every run obeys the protocol of resumptions**, whatever its performer, its procedure and
its hooks. Any stretch of its loop does. A run that returns has done the acts of a history up to
its end, and it reports and returns that end; only a hook that panics on one of its two records
keeps it from this. A history that leads to an end is such a run. -/
theorem invoke_obeys_protocol (performer : Performer σ δ ε) (site : Site) (procedure : Procedure)
    (args : Value) (own : σ) (now : Nat) :
    (∀ acts point,
      performer.History site procedure.move (.begin procedure args own now) acts point →
      performer.Obeys site procedure.move (procedure.initial args) own acts point) ∧
    (∀ fuel invocation last,
      performer.invoke site procedure args now fuel own = some (invocation, last) →
      invocation.opened = site.emit now (.call procedure.name args (.ofMillis now)) ∧
      ((∃ message, invocation.opened.panic? = some message ∧ invocation.stages = [] ∧
          invocation.closed = none ∧ invocation.ending = .unwound message) ∨
        ∃ acts finale,
          performer.History site procedure.move (.begin procedure args own now) acts
            (.ended finale last) ∧
          invocation.stages = acts.filterMap Act.stage? ∧
          performer.Concludes site procedure.name args now finale invocation)) ∧
    (∀ acts finale last,
      performer.History site procedure.move (.begin procedure args own now) acts
        (.ended finale last) →
      (site.emit now (.call procedure.name args (.ofMillis now))).panic? = none →
      ∃ fuel invocation,
        performer.invoke site procedure args now fuel own = some (invocation, last) ∧
        invocation.stages = acts.filterMap Act.stage?) := by
  refine ⟨?_, ?_, ?_⟩
  · intro acts point history
    exact history.obeys
  · intro fuel invocation last found
    obtain ⟨opened, unwound | ⟨finale, staged, concludes⟩⟩ := invoke_cases found
    · exact ⟨opened, .inl unwound⟩
    · obtain ⟨acts, history, stages⟩ := history_of_course (course_of_start staged)
        (Session.refusal?_fresh _) rfl rfl
      exact ⟨opened, .inr ⟨acts, finale, history, stages.symm, concludes⟩⟩
  · intro acts finale last history calm
    obtain ⟨fuel, staged⟩ := stages_of_history history
    obtain ⟨invocation, found, _, stages, _⟩ := exists_invoke_of_stages calm staged
    exact ⟨fuel, invocation, found, stages⟩

/-- A performer answers once and then gives up: the computation is given a start and the one
answer, and the run reports and returns the performer's error. -/
theorem invoke_of_quitter :
    let performer : Performer Nat Unit Unit :=
      { perform := fun asked _ _ _ now => some ⟨asked + 1, (), now,
          if asked = 0 then .settled (.ok (.bool true)) else .halted ()⟩
        errorText := fun _ => "gone" }
    let procedure : Procedure :=
      ⟨"poll", Unit, fun _ => (), fun _ _ => (.suspend (.one (.ofType "get")), ())⟩
    let site : Site := .root ⟨none, none, ⟨[.recorder]⟩⟩ ⟨"run"⟩
    ∃ invocation acts finale,
      performer.invoke site procedure .null 0 2 0 = some (invocation, 2) ∧
      performer.History site procedure.move (.begin procedure .null 0 0) acts
        (.ended finale 2) ∧
      performer.Obeys site procedure.move () 0 acts (.ended finale 2) ∧
      acts.filterMap Act.input? = [.start, .value (.bool true)] ∧
      invocation.ending = .halted () := by
  intro performer procedure site
  obtain ⟨obeys, returns, _⟩ := invoke_obeys_protocol performer site procedure .null 0 0
  have found : performer.invoke site procedure .null 0 2 0 = some _ := rfl
  obtain ⟨_, ⟨message, panics, _⟩ | ⟨acts, finale, history, staged, concludes⟩⟩ :=
    returns _ _ _ found
  · cases panics
  · have obeyed := obeys _ _ history
    have outcomes : acts.filterMap Act.outcome? = [.ok (.bool true)] := by
      have same : acts.filterMap Act.outcome? =
          (acts.filterMap Act.stage?).filterMap fun stage => stage.ending.outcome? := by
        rw [List.filterMap_filterMap]
        rfl
      rw [same, ← staged]
      rfl
    have given := obeyed.given
    rw [outcomes] at given
    refine ⟨_, acts, finale, found, history, obeyed, ?_, rfl⟩
    simpa [Point.input?, Input.ofOutcome] using given

end Invoked

end Performer

end Resumable
