import Resumable.Proofs.Course

/-! # The guard of a session

A session may be given any inputs in any order. `Session.after` is the session that
they leave and `Session.given` what the computation behind it has been given,
found out by a computation that keeps its inputs.

Whatever the computation is, the guard lets a start through to a fresh one and
anything else to a suspended one, and an input that it refuses leaves no mark
(`Session.Guarded`). So refused inputs may as well not have been there, the count is
that of the inputs let through after the start, and a computation that has settled is
left alone for good (`Session.guarded_of_inputs`).
-/

namespace Resumable

/-- The phase of a computation that answered last with a step, if it has answered. -/
def Phase.ofAnswer : Option Step → Phase
  | none => .fresh
  | some step => if step.isTerminal then .finished else .suspended

namespace Session

variable {σ : Type}

section Inputs

variable (move : σ → Input → Step × σ)

/-- What a session answers to an input, and the session after it. -/
def reply (session : Session σ) (input : Input) : Except Refusal Step × Session σ :=
  match session.feed move input with
  | .error refusal => (.error refusal, session)
  | .ok (step, after) => (.ok step, after)

/-- The session that inputs leave. -/
def after (session : Session σ) (inputs : List Input) : Session σ :=
  inputs.foldl (fun session input => (session.reply move input).2) session

/-- The computation that also keeps what it is given. -/
def keeping : σ × List Input → Input → Step × (σ × List Input) :=
  fun (state, kept) input =>
    ((move state input).1, (move state input).2, kept ++ [input])

/-- What a fresh computation is given when inputs are fed to its session. -/
def given (initial : σ) (inputs : List Input) : List Input :=
  ((fresh (initial, [])).after (keeping move) inputs).state.2

/-- The inputs that a session does not refuse. -/
def passed (session : Session σ) (inputs : List Input) : List Input :=
  ((inputs.zip (session.feedAll move inputs)).filter fun entry => entry.2.1.toBool).map Prod.fst

end Inputs

/-- A session lets a start through to a fresh computation, and anything else to a suspended one. -/
def Accepts (session : Session σ) (input : Input) : Prop :=
  session.phase = .fresh ∧ input = .start ∨ session.phase = .suspended ∧ input ≠ .start

/-- Why a session refuses what it does not let through. -/
def reason (session : Session σ) : Refusal :=
  match session.phase with
  | .fresh => .notStarted
  | .suspended => .alreadyStarted
  | .finished => .finished session.steps

/-- What the guard of a computation makes of inputs, and of one more after them. -/
structure Guarded (move : σ → Input → Step × σ) (initial : σ) (inputs : List Input) : Prop where
  /-- An input that is let through reaches the computation, which answers it. -/
  accepted : ∀ input, ((fresh initial).after move inputs).Accepts input →
    given move initial (inputs ++ [input]) = given move initial inputs ++ [input] ∧
      ∃ step, move ((fresh initial).after move inputs).state input =
          (step, ((fresh initial).after move (inputs ++ [input])).state) ∧
        (fresh initial).feedAll move (inputs ++ [input]) =
          (fresh initial).feedAll move inputs ++
            [(.ok step, (fresh initial).after move (inputs ++ [input]))]
  /-- Any other input is refused for the phase of the computation, which is not given it, and
  leaves the session as it is. -/
  refused : ∀ input, ¬ ((fresh initial).after move inputs).Accepts input →
    given move initial (inputs ++ [input]) = given move initial inputs ∧
      (fresh initial).after move (inputs ++ [input]) = (fresh initial).after move inputs ∧
      (fresh initial).feedAll move (inputs ++ [input]) =
        (fresh initial).feedAll move inputs ++
          [(.error ((fresh initial).after move inputs).reason, (fresh initial).after move inputs)]
  /-- The phase says what the computation answered last. -/
  phase : ((fresh initial).after move inputs).phase =
    .ofAnswer (((fresh initial).feedAll move inputs).filterMap fun reply =>
      reply.1.toOption).getLast?
  /-- The computation is given the inputs that are not refused. -/
  given : given move initial inputs = (fresh initial).passed move inputs
  /-- Without the refused inputs the replies to the others are the same. -/
  erased : (fresh initial).feedAll move ((fresh initial).passed move inputs) =
    ((fresh initial).feedAll move inputs).filter fun reply => reply.1.toBool
  /-- The count is that of the inputs let through, but for the start. -/
  counted : ((fresh initial).after move inputs).steps =
    ((fresh initial).passed move inputs).countP fun input => !input.isStart
  /-- The count never goes down. -/
  rises : ∀ later, ((fresh initial).after move inputs).steps ≤
    ((fresh initial).after move (inputs ++ later)).steps
  /-- When the computation has answered with its last step, all inputs are refused with the count
  that it has then. -/
  settled : ∀ step session, ((fresh initial).feedAll move inputs).getLast? =
      some (.ok step, session) → step.isTerminal = true →
    ∀ later, (fresh initial).feedAll move (inputs ++ later) =
      (fresh initial).feedAll move inputs ++
        later.map fun _ => (.error (.finished session.steps), session)

section Replies

variable {move : σ → Input → Step × σ} {session : Session σ} {input : Input}

theorem refusal?_eq_none_iff : session.refusal? input = none ↔ session.Accepts input := by
  unfold refusal? Accepts
  cases session.phase <;> cases input <;> simp [Input.isStart]

theorem refusal?_of_not_accepts (refuses : ¬ session.Accepts input) :
    session.refusal? input = some session.reason := by
  unfold Accepts at refuses
  unfold refusal? reason
  cases phase : session.phase with
  | fresh =>
      cases input with
      | start => exact absurd (.inl ⟨phase, rfl⟩) refuses
      | value given => rfl
      | throw failure => rfl
  | suspended =>
      cases input with
      | start => rfl
      | value given => exact absurd (.inr ⟨phase, nofun⟩) refuses
      | throw failure => exact absurd (.inr ⟨phase, nofun⟩) refuses
  | finished => rfl

/-- The reply to an input that is let through is the computation's. -/
theorem reply_of_accepts (accepts : session.Accepts input) :
    session.reply move input =
      (.ok (move session.state input).1,
        ⟨.ofAnswer (some (move session.state input).1), session.stepAfter input,
          (move session.state input).2⟩) := by
  rw [reply, feed_of_accepted (refusal?_eq_none_iff.mpr accepts)]
  rfl

/-- An input that is refused leaves the session as it is. -/
theorem reply_of_not_accepts (refuses : ¬ session.Accepts input) :
    session.reply move input = (.error session.reason, session) := by
  rw [reply, feed, refusal?_of_not_accepts refuses]

theorem feedAll_cons (rest : List Input) :
    session.feedAll move (input :: rest) =
      session.reply move input :: (session.reply move input).2.feedAll move rest := by
  rw [feedAll, reply]
  cases session.feed move input <;> rfl

theorem feedAll_append (inputs later : List Input) :
    session.feedAll move (inputs ++ later) =
      session.feedAll move inputs ++ (session.after move inputs).feedAll move later := by
  induction inputs generalizing session with
  | nil => rfl
  | cons input rest ih =>
      rw [List.cons_append, feedAll_cons, feedAll_cons, ih]
      rfl

theorem after_append (inputs later : List Input) :
    session.after move (inputs ++ later) = (session.after move inputs).after move later :=
  List.foldl_append

theorem passed_cons_of_accepts (accepts : session.Accepts input) (rest : List Input) :
    session.passed move (input :: rest) =
      input :: (session.reply move input).2.passed move rest := by
  have answered : (session.reply move input).1.toBool = true := by
    rw [reply_of_accepts accepts]
    rfl
  rw [passed, feedAll_cons, List.zip_cons_cons, List.filter_cons, if_pos answered, List.map_cons]
  rfl

theorem passed_cons_of_not_accepts (refuses : ¬ session.Accepts input) (rest : List Input) :
    session.passed move (input :: rest) = session.passed move rest := by
  have refused : (session.reply move input).1.toBool ≠ true := by
    rw [reply_of_not_accepts refuses]
    exact Bool.false_ne_true
  rw [passed, feedAll_cons, List.zip_cons_cons, List.filter_cons, if_neg refused,
    reply_of_not_accepts refuses]
  rfl

end Replies

section Runs

variable {move : σ → Input → Step × σ} {session : Session σ} {input : Input}

theorem after_cons (rest : List Input) :
    session.after move (input :: rest) = (session.reply move input).2.after move rest := rfl

theorem passed_append (inputs later : List Input) :
    session.passed move (inputs ++ later) =
      session.passed move inputs ++ (session.after move inputs).passed move later := by
  induction inputs generalizing session with
  | nil => rfl
  | cons input rest ih =>
      rw [List.cons_append, after_cons]
      by_cases accepts : session.Accepts input
      · rw [passed_cons_of_accepts accepts, passed_cons_of_accepts accepts, ih]
        rfl
      · rw [passed_cons_of_not_accepts accepts, passed_cons_of_not_accepts accepts,
          reply_of_not_accepts accepts, ih]

/-- The session of the computation that keeps its inputs, of which it has been given some. -/
def withKept (session : Session σ) (kept : List Input) : Session (σ × List Input) :=
  ⟨session.phase, session.steps, (session.state, kept)⟩

/-- The computation that keeps its inputs goes as the other does, and is given what is not
refused. -/
theorem after_keeping (kept inputs : List Input) :
    (session.withKept kept).after (keeping move) inputs =
      (session.after move inputs).withKept (kept ++ session.passed move inputs) := by
  induction inputs generalizing session kept with
  | nil => exact congrArg session.withKept (List.append_nil kept).symm
  | cons input rest ih =>
      rw [after_cons, after_cons]
      by_cases accepts : session.Accepts input
      · have accepts' : (session.withKept kept).Accepts input := accepts
        have same : ((session.withKept kept).reply (keeping move) input).2 =
            (session.reply move input).2.withKept (kept ++ [input]) := by
          rw [reply_of_accepts accepts', reply_of_accepts accepts]
          rfl
        rw [same, ih, passed_cons_of_accepts accepts, List.append_assoc]
        rfl
      · have refuses' : ¬ (session.withKept kept).Accepts input := accepts
        rw [reply_of_not_accepts refuses', reply_of_not_accepts accepts, ih,
          passed_cons_of_not_accepts accepts]

theorem given_eq_passed (initial : σ) (inputs : List Input) :
    given move initial inputs = (fresh initial).passed move inputs := by
  have kept : ((fresh initial).withKept []).after (keeping move) inputs = _ :=
    after_keeping [] inputs
  exact congrArg (fun session => session.state.2) kept

/-- Without the inputs that a session refuses its replies to the others are the same. -/
theorem feedAll_passed (inputs : List Input) :
    session.feedAll move (session.passed move inputs) =
      (session.feedAll move inputs).filter fun reply => reply.1.toBool := by
  induction inputs generalizing session with
  | nil => rfl
  | cons input rest ih =>
      rw [feedAll_cons, List.filter_cons]
      by_cases accepts : session.Accepts input
      · rw [passed_cons_of_accepts accepts, feedAll_cons, ih, reply_of_accepts accepts]
        rfl
      · rw [passed_cons_of_not_accepts accepts, ih, reply_of_not_accepts accepts]
        rfl

/-- The count goes up by one with every input but a start that is let through. -/
theorem steps_after (inputs : List Input) :
    (session.after move inputs).steps =
      session.steps + (session.passed move inputs).countP fun input => !input.isStart := by
  induction inputs generalizing session with
  | nil => rfl
  | cons input rest ih =>
      rw [after_cons, ih]
      by_cases accepts : session.Accepts input
      · rw [passed_cons_of_accepts accepts, List.countP_cons, reply_of_accepts accepts, stepAfter]
        cases input.isStart with
        | true => simp
        | false =>
            simp only [Bool.false_eq_true, ↓reduceIte, Bool.not_false]
            omega
      · rw [passed_cons_of_not_accepts accepts, reply_of_not_accepts accepts]

/-- A counter of 64 bits shows the count as long as a fresh session is given fewer inputs than it
has numbers. -/
theorem toNat_ofNat_steps_after {initial : σ} {inputs : List Input}
    (few : inputs.length < UInt64.size) :
    (UInt64.ofNat ((fresh initial).after move inputs).steps).toNat =
      ((fresh initial).after move inputs).steps := by
  have passes : ((fresh initial).passed move inputs).length ≤ inputs.length := by
    rw [passed, List.length_map]
    refine Nat.le_trans (List.length_filter_le ..) ?_
    rw [List.length_zip]
    exact Nat.min_le_left ..
  have counted : ((fresh initial).after move inputs).steps ≤ inputs.length := by
    rw [steps_after, show (fresh initial).steps = 0 from rfl, Nat.zero_add]
    exact Nat.le_trans List.countP_le_length passes
  exact UInt64.toNat_ofNat_of_lt' (Nat.lt_of_le_of_lt counted few)

/-- The phase after inputs says what the computation answered last, if it answered to any. -/
theorem phase_after (inputs : List Input) (step? : Option Step)
    (phase : session.phase = .ofAnswer step?) :
    (session.after move inputs).phase =
      .ofAnswer ((((session.feedAll move inputs).filterMap fun reply =>
        reply.1.toOption).getLast?).or step?) := by
  induction inputs generalizing session step? with
  | nil => exact phase
  | cons input rest ih =>
      rw [after_cons, feedAll_cons, List.filterMap_cons]
      by_cases accepts : session.Accepts input
      · rw [ih (some (move session.state input).1) (by rw [reply_of_accepts accepts]),
          reply_of_accepts accepts]
        simp only [Except.toOption, List.getLast?_cons, Option.some_or]
        cases List.getLast? _ <;> rfl
      · rw [reply_of_not_accepts accepts]
        exact ih step? phase

/-- A session whose computation has settled refuses everything. -/
theorem feedAll_of_finished (finished : session.phase = .finished) (inputs : List Input) :
    session.feedAll move inputs =
      inputs.map fun _ => (.error (.finished session.steps), session) := by
  induction inputs with
  | nil => rfl
  | cons input rest ih =>
      have refuses : ¬ session.Accepts input := by
        simp [Accepts, finished]
      have told : session.reason = .finished session.steps := by
        rw [reason, finished]
      rw [feedAll_cons, reply_of_not_accepts refuses, told, ih, List.map_cons]

/-- The last reply is that to the last input. -/
theorem exists_reply_of_getLast? {inputs : List Input} {answer : Except Refusal Step}
    {later : Session σ} (last : (session.feedAll move inputs).getLast? = some (answer, later)) :
    ∃ before input, inputs = before ++ [input] ∧
      (session.after move before).reply move input = (answer, later) := by
  rcases List.eq_nil_or_concat inputs with rfl | ⟨before, input, rfl⟩
  · cases last
  · rw [List.concat_eq_append, feedAll_append, feedAll_cons, feedAll,
      List.getLast?_concat] at last
    exact ⟨before, input, List.concat_eq_append, Option.some.inj last⟩

theorem phase_of_reply {step : Step} {later : Session σ}
    (replies : session.reply move input = (.ok step, later)) :
    later.phase = .ofAnswer (some step) := by
  by_cases accepts : session.Accepts input
  · rw [reply_of_accepts accepts] at replies
    cases replies
    rfl
  · rw [reply_of_not_accepts accepts] at replies
    cases replies

/-- **The guard of a session, whatever it is given.** For every computation and after inputs of any
kind in any order the session lets through what it should, refuses the rest without a trace, and
counts right. -/
theorem guarded_of_inputs (move : σ → Input → Step × σ) (initial : σ) (inputs : List Input) :
    Guarded move initial inputs := by
  have onward (input : Input) : (fresh initial).feedAll move (inputs ++ [input]) =
      (fresh initial).feedAll move inputs ++
        [((fresh initial).after move inputs).reply move input] := by
    rw [feedAll_append, feedAll_cons]
    rfl
  have afterward (input : Input) : (fresh initial).after move (inputs ++ [input]) =
      (((fresh initial).after move inputs).reply move input).2 := after_append _ _
  constructor
  case accepted =>
    intro input accepts
    rw [given_eq_passed, given_eq_passed, passed_append, passed_cons_of_accepts accepts, onward,
      afterward, reply_of_accepts accepts]
    exact ⟨rfl, _, rfl, rfl⟩
  case refused =>
    intro input refuses
    rw [given_eq_passed, given_eq_passed, passed_append, passed_cons_of_not_accepts refuses, onward,
      afterward, reply_of_not_accepts refuses]
    exact ⟨List.append_nil _, rfl, rfl⟩
  case phase =>
    have phase : ((fresh initial).after move inputs).phase = _ := phase_after inputs none rfl
    rwa [Option.or_none] at phase
  case given => exact given_eq_passed initial inputs
  case erased => exact feedAll_passed inputs
  case counted =>
    have count : ((fresh initial).after move inputs).steps = _ := steps_after inputs
    rwa [show (fresh initial).steps = 0 from rfl, Nat.zero_add] at count
  case rises =>
    intro later
    rw [after_append, steps_after later]
    exact Nat.le_add_right _ _
  case settled =>
    intro step session last terminal later
    obtain ⟨before, input, rfl, replies⟩ := exists_reply_of_getLast? last
    have left : (fresh initial).after move (before ++ [input]) = session := by
      rw [after_append, after_cons, replies]
      rfl
    have finished : session.phase = .finished := by
      rw [phase_of_reply replies, Phase.ofAnswer, if_pos terminal]
    rw [feedAll_append, left, feedAll_of_finished finished]

end Runs

end Session

end Resumable
