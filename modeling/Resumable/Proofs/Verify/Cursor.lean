import Resumable.Proofs.Verify.Deviation

/-! # A replay takes its expectations in order

A verification asks its replay for nothing more once a violation is found; others may go on. What
is left of a replay depends on the number of requests alone, not on what they ask for
(`Replay.Advanced.answer`): each takes the next expectation, be it the expected one or not, until
none is left. So a request is compared with the expectation at its own position and with no other
(`Replay.Compared`), and one that comes after the last expectation changes nothing
(`Replay.answers_in_turn`).
-/

namespace Resumable

open Json (Value)

/-- Two items for each of a list stand at twice its position and right after that. -/
theorem getElem?_flatMap_pair {α β : Type} (first second : α → β) (items : List α) (i : Nat) :
    (items.flatMap fun item => [first item, second item])[2 * i]? = items[i]?.map first ∧
      (items.flatMap fun item => [first item, second item])[2 * i + 1]? =
        items[i]?.map second := by
  induction items generalizing i with
  | nil => exact ⟨rfl, rfl⟩
  | cons item rest ih =>
      cases i with
      | zero => exact ⟨rfl, rfl⟩
      | succ i => exact ih i

namespace Replay

section Records

variable {request : Request} {now : Nat} {given : Outcome} {told : List Emission}

/-- The records of a request whose suspension is given an outcome: for each of its commands one that
it was issued and then one that it settled, with the request's step and the command's position. -/
structure Pairs (request : Request) (now : Nat) (given : Outcome) (told : List Emission) :
    Prop where
  length : told.length = 2 * request.suspension.size
  issued : ∀ (index : Nat) (command : Command),
    request.suspension.commands[index]? = some command →
      told[2 * index]? = some (request.site.emit now
        (.command command (UInt64.ofNat request.step) (UInt64.ofNat index) (.ofMillis now)))
  settled : ∀ (index : Nat) (command : Command),
    request.suspension.commands[index]? = some command →
      told[2 * index + 1]? = some (request.site.emit now
        (.commandComplete command (UInt64.ofNat request.step) (UInt64.ofNat index) (.ofMillis now)
          (.ofOutcome (.ofMillis now) (.ofMillis now) (request.suspension.shown given index))))

theorem pairs_emissions (request : Request) (now : Nat) (given : Outcome) :
    Pairs request now given
      (emissions request.site request.suspension request.step now given) := by
  rw [emissions_eq]
  refine ⟨?_, ?_, ?_⟩
  · simp [pair, Suspension.size, List.map_const', Nat.mul_comm]
  · intro index command found
    refine (getElem?_flatMap_pair _ _ _ index).1.trans ?_
    rw [List.getElem?_zipIdx, found, Option.map_some, Option.map_some, Nat.zero_add]
  · intro index command found
    refine (getElem?_flatMap_pair _ _ _ index).2.trans ?_
    rw [List.getElem?_zipIdx, found, Option.map_some, Option.map_some, Nat.zero_add]

end Records

section Requests

variable {expectations : List Expectation} {expectation : Expectation} {rest : List Expectation}
  {count now : Nat} {replay : Replay} {request : Request}

/-- What a replay does about a request that it compares with the expectation at a position. The
request is given the outcome if it is the expected one, after all of its records are emitted; only
a hook that panics on one of them keeps it from being answered. -/
inductive Compared (expectation : Expectation) (position : Nat) (request : Request) (now : Nat) :
    List Emission → Ending Violation → Prop
  | gives {told : List Emission} (same : expectation.Describes request.suspension)
      (pairs : Pairs request now expectation.outcome told)
      (calm : ∀ emission ∈ told, emission.panic? = none) :
      Compared expectation position request now told (.settled expectation.outcome)
  | unwinds {told others : List Emission} {emission : Emission} {message : String}
      (same : expectation.Describes request.suspension)
      (pairs : Pairs request now expectation.outcome (told ++ emission :: others))
      (calm : ∀ earlier ∈ told, earlier.panic? = none)
      (panics : emission.panic? = some message) :
      Compared expectation position request now (told ++ [emission]) (.unwound message)
  | differs {difference : Json.Difference}
      (found : Value.difference? expectation.suspension.toJson request.suspension.toJson =
        some difference) :
      Compared expectation position request now []
        (.halted (.commandMismatch position difference))

theorem compared_of_answer (left : replay.remaining = expectation :: rest) :
    Compared expectation replay.taken request now (replay.answer request now).evidence
      (replay.answer request now).ending := by
  have performs := replay.performs request.site request.suspension request.step now
  have pairs := pairs_emissions request now expectation.outcome
  unfold answer
  generalize replay.perform request.site request.suspension request.step now = performed
    at performs ⊢
  cases performs with
  | overruns => cases left
  | differs found =>
      cases left
      exact .differs found
  | gives same calm =>
      cases left
      exact .gives same pairs calm
  | unwinds same whole calm panics =>
      cases left
      rw [whole] at pairs
      exact .unwinds same pairs calm panics

theorem answer_of_nil (left : replay.remaining = []) :
    replay.answer request now =
      ⟨replay, [], now, .halted (.overrun replay.taken request.suspension.toJson)⟩ := by
  obtain ⟨remaining, taken⟩ := replay
  obtain rfl : remaining = [] := left
  rfl

/-- What a replay of `expectations` is like after `count` requests. -/
structure Advanced (expectations : List Expectation) (count : Nat) (replay : Replay) : Prop where
  accounted : replay.taken + replay.remaining.length = expectations.length
  taken : replay.taken = min expectations.length count
  remaining : replay.remaining = expectations.drop replay.taken

namespace Advanced

theorem start (expectations : List Expectation) :
    Advanced expectations 0 (.ofList expectations) :=
  ⟨Nat.zero_add _, (Nat.min_zero _).symm, rfl⟩

/-- The next expectation is the one whose position is the number of requests so far. -/
theorem next (advanced : Advanced expectations count replay)
    (expected : expectations[count]? = some expectation) :
    replay.taken = count ∧ replay.remaining = expectation :: expectations.drop (count + 1) := by
  obtain ⟨inside, rfl⟩ := List.getElem?_eq_some_iff.mp expected
  have taken : replay.taken = count := by
    rw [advanced.taken]
    omega
  refine ⟨taken, ?_⟩
  rw [advanced.remaining, taken]
  exact List.drop_eq_getElem_cons inside

theorem spent (advanced : Advanced expectations count replay)
    (beyond : expectations.length ≤ count) :
    replay.taken = expectations.length ∧ replay.remaining = [] := by
  have taken : replay.taken = expectations.length := by
    rw [advanced.taken]
    omega
  refine ⟨taken, ?_⟩
  rw [advanced.remaining, taken]
  exact List.drop_length

/-- **A request moves a replay on by one expectation**, whatever it asks for, and leaves it as it
is if none is left. -/
theorem answer (advanced : Advanced expectations count replay) (request : Request) (now : Nat) :
    Advanced expectations (count + 1) (replay.answer request now).state := by
  cases expected : expectations[count]? with
  | some expectation =>
      obtain ⟨inside, _⟩ := List.getElem?_eq_some_iff.mp expected
      obtain ⟨rfl, left⟩ := advanced.next expected
      have moved : (replay.answer request now).state =
          ⟨expectations.drop (replay.taken + 1), replay.taken + 1⟩ := state_perform left
      rw [moved]
      refine ⟨?_, (Nat.min_eq_right inside).symm, rfl⟩
      rw [List.length_drop]
      exact Nat.add_sub_of_le inside
  | none =>
      have beyond := List.getElem?_eq_none_iff.mp expected
      rw [answer_of_nil (advanced.spent beyond).2]
      refine ⟨advanced.accounted, ?_, advanced.remaining⟩
      rw [advanced.taken]
      omega

end Advanced

/-- What is done about the request at a position of those that are made of a replay of
`expectations`; `before` is what the earlier ones have left of it. -/
structure InTurn (expectations : List Expectation) (position : Nat) (request : Request) (now : Nat)
    (before : Replay) (performed : Performance Replay (List Emission) Violation) : Prop where
  answered : performed = before.answer request now
  advanced : Advanced expectations (position + 1) performed.state
  compared : ∀ expectation, expectations[position]? = some expectation →
    Compared expectation position request now performed.evidence performed.ending
  overrun : expectations.length ≤ position → performed =
    ⟨before, [], now, .halted (.overrun expectations.length request.suspension.toJson)⟩
  quiet : request.site.config.hooks.Quiet → ∀ message, performed.ending ≠ .unwound message

theorem Advanced.inTurn (advanced : Advanced expectations count replay) (request : Request)
    (now : Nat) : InTurn expectations count request now replay (replay.answer request now) := by
  refine ⟨rfl, advanced.answer request now, ?_, ?_, ?_⟩
  · intro expectation expected
    obtain ⟨rfl, left⟩ := advanced.next expected
    exact compared_of_answer left
  · intro beyond
    obtain ⟨taken, left⟩ := advanced.spent beyond
    rw [answer_of_nil left, taken]
  · exact (replay.performs ..).not_unwound

/-- What one request after another leaves of a replay, the replay itself first. -/
def states (replay : Replay) (requests : List (Request × Nat)) : List Replay :=
  replay :: (replay.performEach requests).map Performance.state

theorem Advanced.inTurn_of_performEach (advanced : Advanced expectations count replay)
    (requests : List (Request × Nat)) (j : Nat) (request : Request) (now : Nat)
    (made : requests[j]? = some (request, now)) :
    ∃ before performed, (replay.states requests)[j]? = some before ∧
      (replay.performEach requests)[j]? = some performed ∧
      InTurn expectations (count + j) request now before performed := by
  -- Each request adds one to the count that the later ones start from.
  induction requests generalizing count replay j with
  | nil => cases made
  | cons first rest ih =>
      cases j with
      | zero =>
          cases made
          exact ⟨replay, _, rfl, rfl, advanced.inTurn request now⟩
      | succ j =>
          obtain ⟨before, performed, left, found, turn⟩ :=
            ih (advanced.answer first.1 first.2) j made
          refine ⟨before, performed, left, found, ?_⟩
          rwa [show count + (j + 1) = count + 1 + j by omega]

theorem length_performEach (replay : Replay) (requests : List (Request × Nat)) :
    (replay.performEach requests).length = requests.length := by
  induction requests generalizing replay with
  | nil => rfl
  | cons request rest ih => exact congrArg (· + 1) (ih _)

/-- **A replay neither skips nor repeats an expectation.** It does something about every request
of any sequence, also of one that goes on after a violation or a panic, and each request is met by
the expectation at its position as long as there are any. -/
theorem answers_in_turn (expectations : List Expectation) (requests : List (Request × Nat)) :
    ((ofList expectations).performEach requests).length = requests.length ∧
      ∀ (j : Nat) (request : Request) (now : Nat), requests[j]? = some (request, now) →
        ∃ before performed, ((ofList expectations).states requests)[j]? = some before ∧
          ((ofList expectations).performEach requests)[j]? = some performed ∧
          InTurn expectations j request now before performed := by
  refine ⟨length_performEach _ _, ?_⟩
  intro j request now made
  obtain ⟨before, performed, left, found, turn⟩ :=
    (Advanced.start expectations).inTurn_of_performEach requests j request now made
  refine ⟨before, performed, left, found, ?_⟩
  rwa [Nat.zero_add] at turn

/-- A batch is asked for out of its turn and again in turn. The first request uses up the
expectation of `get`, so that `get` is beyond the last expectation whenever it comes. -/
theorem answers_in_turn_after_mismatch :
    let place : Site := .root ⟨none, none, ⟨[.recorder]⟩⟩ ⟨"run"⟩
    let get : Suspension := .one (.ofType "get")
    let batch : Suspension := .all [.ofType "put", .ofType "post"]
    let given : Outcome := .ok (.array [.bool true])
    let expectations : List Expectation := [⟨get, .ok .null⟩, ⟨batch, given⟩]
    let requests : List (Request × Nat) :=
      [(⟨place, batch, 7⟩, 0), (⟨place, batch, 7⟩, 5), (⟨place, get, 3⟩, 5), (⟨place, get, 0⟩, 9)]
    let served := (ofList expectations).performEach requests
    served.map Performance.ending =
        [.halted (.commandMismatch 0 ⟨[], some get.toJson, some batch.toJson⟩), .settled given,
          .halted (.overrun 2 get.toJson), .halted (.overrun 2 get.toJson)] ∧
      served.map (fun performed => performed.state.taken) = [1, 2, 2, 2] ∧
      ∃ performed, served[1]? = some performed ∧ performed.ending = .settled given ∧
        Pairs ⟨place, batch, 7⟩ 5 given performed.evidence := by
  intro place get batch given expectations requests served
  refine ⟨rfl, rfl, ?_⟩
  obtain ⟨_, performed, _, found, turn⟩ :=
    (answers_in_turn expectations requests).2 1 ⟨place, batch, 7⟩ 5 rfl
  have second : served[1]?.map Performance.ending = some (.settled given) := rfl
  have ending : performed.ending = .settled given := by
    rw [found] at second
    exact Option.some.inj second
  refine ⟨performed, found, ending, ?_⟩
  have compared := turn.compared ⟨batch, given⟩ rfl
  rw [ending] at compared
  generalize performed.evidence = told at compared ⊢
  cases compared with
  | gives same pairs calm => exact pairs

end Requests

end Replay

end Resumable
