import Mathlib.Computability.RegularExpressions
import Resumable.Proofs.Verify.Transcript

/-! # The grammar of scripts

A script declares suspensions with their outcomes, perhaps one more suspension, and how the
computation settles. This is a regular language of kinds of clauses (`Script.grammar`), and a
script passes its check exactly if its clauses are in the language (`Script.checked_iff_grammar`).
The clauses then determine the expectations and the terminal. A list of clauses that cannot be
continued to one of the language has a first clause that does not fit; the fault that it and the
clause before it determine (`Clause.misfit?`) is reported whatever follows.

A `Draft` is a list of clauses that follows the grammar so far, by where it stands in it.
-/

namespace Resumable

open Json (Value)

namespace Clause

/-- What a clause does, apart from what it declares. -/
inductive Kind
  | suspends
  | gives
  | ends
deriving DecidableEq

def kind : Clause → Kind
  | suspends _ => .suspends
  | gives _ => .gives
  | ends _ => .ends

/-- The fault of a clause after a given one, or at the beginning. -/
def misfit? : (last : Option Clause) → (clause : Clause) → Option Script.Fault
  | some (ends _), suspends suspension => some (.afterTerminal suspension)
  | some (suspends earlier), suspends suspension => some (.beforeOutcome suspension earlier)
  | _, suspends _ => none
  | some (suspends _), gives _ => none
  | _, gives outcome => some (.nothingPending outcome)
  | some (ends _), ends _ => some .secondTerminal
  | _, ends _ => none

theorem eq_suspends_of_kind {clause : Clause} (kind : clause.kind = .suspends) :
    ∃ suspension, clause = .suspends suspension := by
  cases clause with
  | suspends suspension => exact ⟨suspension, rfl⟩
  | gives outcome => cases kind
  | ends terminal => cases kind

theorem eq_gives_of_kind {clause : Clause} (kind : clause.kind = .gives) :
    ∃ outcome, clause = .gives outcome := by
  cases clause with
  | suspends suspension => cases kind
  | gives outcome => exact ⟨outcome, rfl⟩
  | ends terminal => cases kind

theorem eq_ends_of_kind {clause : Clause} (kind : clause.kind = .ends) :
    ∃ terminal, clause = .ends terminal := by
  cases clause with
  | suspends suspension => cases kind
  | gives outcome => cases kind
  | ends terminal => exact ⟨terminal, rfl⟩

end Clause

/-- A list of clauses that follows the grammar so far. -/
inductive Draft
  /-- Every suspension has its outcome, and nothing is said of the end. -/
  | ready (met : List Expectation)
  /-- The last suspension waits for an outcome. -/
  | waiting (met : List Expectation) (last : Suspension)
  /-- The end is declared, perhaps with a last suspension that has no outcome of its own. -/
  | closed (met : List Expectation) (last : Option Suspension) (terminal : Terminal)

namespace Draft

def clauses : Draft → List Clause
  | ready met => met.flatMap Expectation.clauses
  | waiting met last => met.flatMap Expectation.clauses ++ [.suspends last]
  | closed met last terminal =>
    met.flatMap Expectation.clauses ++ (last.toList.map .suspends ++ [.ends terminal])

/-- What a draft declares. -/
def script (args : Value) : Draft → Script
  | ready met => ⟨args, met, none, none, none⟩
  | waiting met last => ⟨args, met, some last, none, none⟩
  | closed met last terminal =>
    ⟨args, met ++ last.toList.map (⟨·, terminal.outcome⟩), none, some terminal, none⟩

/-- The draft with one clause more, if the clause fits. -/
def append : Draft → Clause → Except Script.Fault Draft
  | ready met, .suspends suspension => .ok (waiting met suspension)
  | ready _, .gives outcome => .error (.nothingPending outcome)
  | ready met, .ends terminal => .ok (closed met none terminal)
  | waiting _ last, .suspends suspension => .error (.beforeOutcome suspension last)
  | waiting met last, .gives outcome => .ok (ready (met ++ [⟨last, outcome⟩]))
  | waiting met last, .ends terminal => .ok (closed met (some last) terminal)
  | closed _ _ _, .suspends suspension => .error (.afterTerminal suspension)
  | closed _ _ _, .gives outcome => .error (.nothingPending outcome)
  | closed _ _ _, .ends _ => .error .secondTerminal

variable {draft next : Draft} {clause : Clause} {fault : Script.Fault} {args : Value}

theorem ofClauses_clauses (args : Value) (draft : Draft) :
    Script.ofClauses args draft.clauses = draft.script args := by
  have met := Script.foldl_clauses args []
  cases draft with
  | ready expectations => exact met expectations
  | waiting expectations last =>
      rw [clauses, Script.ofClauses, Script.ofArgs, List.foldl_append, met]
      rfl
  | closed expectations last terminal =>
      rw [clauses, Script.ofClauses, Script.ofArgs, List.foldl_append, met]
      cases last with
      | none => simp [script, Script.append, Script.ends]
      | some last => rfl

theorem clauses_of_append (fits : draft.append clause = .ok next) :
    next.clauses = draft.clauses ++ [clause] := by
  cases draft <;> cases clause <;> cases fits <;>
    simp [clauses, Expectation.clauses]

/-- A clause that does not fit is the script's fault. -/
theorem fault_of_append (misfits : draft.append clause = .error fault) :
    ((draft.script args).append clause).fault = some fault := by
  cases draft <;> cases clause <;> cases misfits <;> rfl

/-- Whether a clause fits can be told from the last one before it. -/
theorem append_eq_error_iff :
    draft.append clause = .error fault ↔
      Clause.misfit? draft.clauses.getLast? clause = some fault := by
  cases draft with
  | ready met =>
      rcases met.eq_nil_or_concat with rfl | ⟨front, expectation, rfl⟩
      · cases clause <;> simp [append, clauses, Clause.misfit?]
      · cases clause <;> simp [append, clauses, Expectation.clauses, Clause.misfit?]
  | waiting met last => cases clause <;> simp [append, clauses, Clause.misfit?]
  | closed met last terminal =>
      cases clause <;> simp [append, clauses, Clause.misfit?, ← List.append_assoc]

end Draft

namespace Script

open Clause (Kind)
open RegularExpression (char)

/-- A suspension and its outcome. -/
def pairGrammar : RegularExpression Kind :=
  char Kind.suspends * char Kind.gives

/-- A terminal, perhaps after a suspension that is given what the terminal declares. -/
def endGrammar : RegularExpression Kind :=
  (1 + char Kind.suspends) * char Kind.ends

def grammar : RegularExpression Kind :=
  pairGrammar.star * endGrammar

/-- The clauses can be continued to a list that the grammar allows. -/
def Viable (clauses : List Clause) : Prop :=
  ∃ rest, (clauses ++ rest).map Clause.kind ∈ grammar.matches'

theorem mem_pairGrammar_iff {clauses : List Clause} :
    clauses.map Clause.kind ∈ pairGrammar.matches' ↔
      ∃ expectation : Expectation, clauses = expectation.clauses := by
  rw [pairGrammar, RegularExpression.matches'_mul, Language.mem_mul]
  constructor
  · rintro ⟨_, rfl, _, rfl, kinds⟩
    obtain ⟨first, rest, rfl, kind, kinds⟩ := List.map_eq_cons_iff.mp kinds.symm
    obtain ⟨second, rfl, kind'⟩ := List.map_eq_singleton_iff.mp kinds
    obtain ⟨suspension, rfl⟩ := Clause.eq_suspends_of_kind kind
    obtain ⟨outcome, rfl⟩ := Clause.eq_gives_of_kind kind'
    exact ⟨⟨suspension, outcome⟩, rfl⟩
  · rintro ⟨expectation, rfl⟩
    exact ⟨_, rfl, _, rfl, rfl⟩

theorem mem_endGrammar_iff {clauses : List Clause} :
    clauses.map Clause.kind ∈ endGrammar.matches' ↔
      ∃ (last : Option Suspension) (terminal : Terminal),
        clauses = last.toList.map .suspends ++ [.ends terminal] := by
  rw [endGrammar, RegularExpression.matches'_mul, Language.mem_mul]
  constructor
  · rintro ⟨_, rfl | rfl, _, rfl, kinds⟩
    · obtain ⟨clause, rfl, kind⟩ := List.map_eq_singleton_iff.mp kinds.symm
      obtain ⟨terminal, rfl⟩ := Clause.eq_ends_of_kind kind
      exact ⟨none, terminal, rfl⟩
    · obtain ⟨first, rest, rfl, kind, kinds⟩ := List.map_eq_cons_iff.mp kinds.symm
      obtain ⟨second, rfl, kind'⟩ := List.map_eq_singleton_iff.mp kinds
      obtain ⟨suspension, rfl⟩ := Clause.eq_suspends_of_kind kind
      obtain ⟨terminal, rfl⟩ := Clause.eq_ends_of_kind kind'
      exact ⟨some suspension, terminal, rfl⟩
  · rintro ⟨last, terminal, rfl⟩
    cases last with
    | none => exact ⟨_, .inl rfl, _, rfl, rfl⟩
    | some last => exact ⟨_, .inr rfl, _, rfl, rfl⟩

/-- Repeated pairs are the clauses of expectations. -/
theorem mem_star_pairGrammar_iff {clauses : List Clause} :
    clauses.map Clause.kind ∈ pairGrammar.star.matches' ↔
      ∃ met : List Expectation, clauses = met.flatMap Expectation.clauses := by
  rw [RegularExpression.matches'_star, Language.mem_kstar]
  constructor
  · rintro ⟨words, kinds, pairs⟩
    induction words generalizing clauses with
    | nil => exact ⟨[], List.map_eq_nil_iff.mp kinds⟩
    | cons word words ih =>
        rw [List.flatten_cons] at kinds
        obtain ⟨front, back, rfl, rfl, others⟩ := List.map_eq_append_iff.mp kinds
        obtain ⟨expectation, rfl⟩ := mem_pairGrammar_iff.mp (pairs _ List.mem_cons_self)
        obtain ⟨met, rfl⟩ := ih others fun word member => pairs word (List.mem_cons_of_mem _ member)
        exact ⟨expectation :: met, rfl⟩
  · rintro ⟨met, rfl⟩
    refine ⟨met.map fun expectation => expectation.clauses.map Clause.kind, ?_, ?_⟩
    · rw [List.map_flatMap]
      rfl
    · intro word member
      obtain ⟨expectation, _, rfl⟩ := List.mem_map.mp member
      exact mem_pairGrammar_iff.mpr ⟨expectation, rfl⟩

/-- The grammar allows the closed drafts. -/
theorem mem_grammar_iff {clauses : List Clause} :
    clauses.map Clause.kind ∈ grammar.matches' ↔
      ∃ met last terminal, clauses = (Draft.closed met last terminal).clauses := by
  rw [grammar, RegularExpression.matches'_mul, Language.mem_mul]
  constructor
  · rintro ⟨front, inFront, back, inBack, kinds⟩
    obtain ⟨first, others, rfl, rfl, rfl⟩ := List.map_eq_append_iff.mp kinds.symm
    obtain ⟨met, rfl⟩ := mem_star_pairGrammar_iff.mp inFront
    obtain ⟨last, terminal, rfl⟩ := mem_endGrammar_iff.mp inBack
    exact ⟨met, last, terminal, rfl⟩
  · rintro ⟨met, last, terminal, rfl⟩
    exact ⟨_, mem_star_pairGrammar_iff.mpr ⟨met, rfl⟩, _,
      mem_endGrammar_iff.mpr ⟨last, terminal, rfl⟩, List.map_append.symm⟩

section Faults

variable {script : Script} {fault : Fault}

theorem fault_append (faulty : script.fault = some fault) (clause : Clause) :
    (script.append clause).fault = some fault := by
  cases clause with
  | suspends suspension => simp [append, suspends, faulty]
  | gives outcome =>
      cases waiting : script.pending <;> simp [append, gives, waiting, blame, faulty]
  | ends terminal =>
      cases closed : script.terminal <;> cases waiting : script.pending <;>
        simp [append, ends, closed, waiting, blame, faulty]

/-- The first fault stays. -/
theorem fault_foldl_append (faulty : script.fault = some fault) (clauses : List Clause) :
    (clauses.foldl append script).fault = some fault := by
  induction clauses generalizing script with
  | nil => exact faulty
  | cons clause rest ih => exact ih (fault_append faulty clause)

theorem checked_of_fault (faulty : script.fault = some fault) :
    script.checked = .error (.malformedScript fault.message) := by
  rw [checked, faulty]

/-- A clause that does not fit after a draft is the fault of every script that goes on from it. -/
theorem fault_of_misfit (args : Value) {draft : Draft} {clause : Clause}
    (misfits : draft.append clause = .error fault) (later : List Clause) :
    (ofClauses args (draft.clauses ++ clause :: later)).fault = some fault := by
  rw [ofClauses, List.foldl_append, ← ofClauses, Draft.ofClauses_clauses, List.foldl_cons]
  exact fault_foldl_append (Draft.fault_of_append misfits) later

/-- Clauses are a draft, or one of them is the first that does not fit. -/
theorem draft_or_misfit (clauses : List Clause) :
    (∃ draft : Draft, clauses = draft.clauses) ∨
      ∃ (draft : Draft) (clause : Clause) (later : List Clause) (fault : Fault),
        clauses = draft.clauses ++ clause :: later ∧ draft.append clause = .error fault := by
  -- A draft says where its last clause leaves it, so clauses are added at the end.
  induction clauses using List.reverseRecOn with
  | nil => exact .inl ⟨.ready [], rfl⟩
  | append_singleton clauses clause ih =>
      rcases ih with ⟨draft, rfl⟩ | ⟨draft, first, later, fault, rfl, misfits⟩
      · cases fits : draft.append clause with
        | ok next => exact .inl ⟨next, (Draft.clauses_of_append fits).symm⟩
        | error fault => exact .inr ⟨draft, clause, [], fault, rfl, fits⟩
      · exact .inr ⟨draft, first, later ++ [clause], fault, List.append_assoc _ _ _, misfits⟩

/-- A script with a fault could not have been declared by a list that the grammar allows. -/
theorem not_viable_of_misfit {draft : Draft} {clause : Clause}
    (misfits : draft.append clause = .error fault) (later : List Clause) :
    ¬ Viable (draft.clauses ++ clause :: later) := by
  rintro ⟨rest, allowed⟩
  obtain ⟨met, last, terminal, closed⟩ := mem_grammar_iff.mp allowed
  have faulty := fault_of_misfit .null misfits (later ++ rest)
  rw [← List.cons_append, ← List.append_assoc, closed, Draft.ofClauses_clauses] at faulty
  cases faulty

/-- The viable lists of clauses are the drafts. -/
theorem viable_iff {clauses : List Clause} :
    Viable clauses ↔ ∃ draft : Draft, clauses = draft.clauses := by
  constructor
  · intro viable
    rcases draft_or_misfit clauses with draft | ⟨draft, clause, later, fault, rfl, misfits⟩
    · exact draft
    · exact absurd viable (not_viable_of_misfit misfits later)
  · rintro ⟨draft, rfl⟩
    cases draft with
    | ready met =>
        exact ⟨[.ends (.returns .null)], mem_grammar_iff.mpr ⟨met, none, .returns .null, rfl⟩⟩
    | waiting met last =>
        refine ⟨[.ends (.returns .null)], mem_grammar_iff.mpr ⟨met, last, .returns .null, ?_⟩⟩
        rw [Draft.clauses, List.append_assoc]
        rfl
    | closed met last terminal =>
        refine ⟨[], mem_grammar_iff.mpr ⟨met, last, terminal, ?_⟩⟩
        rw [List.append_nil]

/-- A list of clauses that the grammar does not allow is no script. -/
theorem exists_reason_of_not_mem (args : Value) {clauses : List Clause}
    (refused : clauses.map Clause.kind ∉ grammar.matches') :
    ∃ reason, (ofClauses args clauses).checked = .error (.malformedScript reason) := by
  rcases draft_or_misfit clauses with ⟨draft, rfl⟩ | ⟨draft, clause, later, fault, rfl, misfits⟩
  · rw [Draft.ofClauses_clauses]
    cases draft with
    | ready met => exact ⟨_, rfl⟩
    | waiting met last => exact ⟨_, rfl⟩
    | closed met last terminal =>
        exact absurd (mem_grammar_iff.mpr ⟨met, last, terminal, rfl⟩) refused
  · exact ⟨_, checked_of_fault (fault_of_misfit args misfits later)⟩

/-- The first clause that leaves the grammar is reported whatever follows it. -/
theorem checked_of_not_viable (args : Value) {before : List Clause} {clause : Clause}
    (viable : Viable before) (leaves : ¬ Viable (before ++ [clause])) (later : List Clause) :
    ∃ fault, Clause.misfit? before.getLast? clause = some fault ∧
      (ofClauses args (before ++ clause :: later)).checked =
        .error (.malformedScript fault.message) := by
  obtain ⟨draft, rfl⟩ := viable_iff.mp viable
  cases fits : draft.append clause with
  | ok next => exact absurd (viable_iff.mpr ⟨next, (Draft.clauses_of_append fits).symm⟩) leaves
  | error fault =>
      exact ⟨fault, Draft.append_eq_error_iff.mp fits,
        checked_of_fault (fault_of_misfit args fits later)⟩

end Faults

/-- **A script passes its check exactly if its clauses are in the grammar.** The terminal is then
the one that is declared last, and the expectations are the suspensions in order, each with the
outcome that follows it, the last one perhaps with the outcome of the terminal. Every other list of
clauses is refused as malformed; once a clause has left the grammar, the reason is the fault of this
clause, whatever is declared later. -/
theorem checked_iff_grammar (args : Value) (clauses : List Clause) :
    let script := ofClauses args clauses
    ((∃ terminal, script.checked = .ok terminal) ↔
      clauses.map Clause.kind ∈ grammar.matches') ∧
    (∀ terminal, script.checked = .ok terminal →
      ∃ (met : List Expectation) (last : Option Suspension),
        clauses = met.flatMap Expectation.clauses ++
          (last.toList.map .suspends ++ [.ends terminal]) ∧
        script.expectations = met ++ last.toList.map (⟨·, terminal.outcome⟩)) ∧
    (clauses.map Clause.kind ∉ grammar.matches' →
      ∃ reason, script.checked = .error (.malformedScript reason)) ∧
    ∀ before clause later, clauses = before ++ clause :: later →
      Viable before → ¬ Viable (before ++ [clause]) →
        ∃ fault, Clause.misfit? before.getLast? clause = some fault ∧
          script.checked = .error (.malformedScript fault.message) := by
  intro script
  have allowed (terminal : Terminal) (passes : script.checked = .ok terminal) :
      clauses.map Clause.kind ∈ grammar.matches' := by
    by_contra refused
    obtain ⟨reason, fails⟩ := exists_reason_of_not_mem args refused
    cases passes.symm.trans fails
  refine ⟨⟨?_, ?_⟩, ?_, exists_reason_of_not_mem args, ?_⟩
  · rintro ⟨terminal, passes⟩
    exact allowed terminal passes
  · intro member
    obtain ⟨met, last, terminal, rfl⟩ := mem_grammar_iff.mp member
    refine ⟨terminal, ?_⟩
    simp only [script, Draft.ofClauses_clauses]
    rfl
  · intro terminal passes
    obtain ⟨met, last, declared, rfl⟩ := mem_grammar_iff.mp (allowed terminal passes)
    simp only [script, Draft.ofClauses_clauses] at passes ⊢
    cases passes
    exact ⟨met, last, rfl, rfl⟩
  · rintro before clause later rfl viable leaves
    exact checked_of_not_viable args viable leaves later

/-- A script whose last suspension is given the outcome of the terminal, and one with a second
terminal. -/
theorem checked_iff_grammar_of_short_scripts :
    let get : Suspension := .one (.ofType "get")
    let passing : List Clause :=
      [.suspends get, .gives (.ok .null), .suspends get, .ends (.returns .null)]
    let failing : List Clause := [.ends (.returns .null), .ends (.returns .null), .suspends get]
    (passing.map Clause.kind ∈ grammar.matches' ∧
      ∃ (met : List Expectation) (last : Option Suspension),
        passing = met.flatMap Expectation.clauses ++
          (last.toList.map .suspends ++ [.ends (.returns .null)]) ∧
        (ofClauses .null passing).expectations =
          met ++ last.toList.map (⟨·, Terminal.outcome (.returns .null)⟩)) ∧
    failing.map Clause.kind ∉ grammar.matches' ∧
      (∃ reason, (ofClauses .null failing).checked = .error (.malformedScript reason)) ∧
      Viable (failing.take 1) ∧ ¬ Viable (failing.take 2) ∧
      ∃ fault, Clause.misfit? (failing.take 1).getLast? (.ends (.returns .null)) = some fault ∧
        (ofClauses .null failing).checked = .error (.malformedScript fault.message) := by
  intro get passing failing
  have passes : (ofClauses .null passing).checked = .ok (.returns .null) := rfl
  obtain ⟨accepts, declares, -⟩ := checked_iff_grammar .null passing
  have refused : failing.map Clause.kind ∉ grammar.matches' := by
    rw [← RegularExpression.rmatch_iff_matches']
    decide
  let ended : Draft := .closed [] none (.returns .null)
  have viable : Viable (failing.take 1) := viable_iff.mpr ⟨ended, rfl⟩
  have misfits : ended.append (.ends (.returns .null)) = .error .secondTerminal := rfl
  have leaves : ¬ Viable (failing.take 2) := not_viable_of_misfit misfits []
  obtain ⟨-, -, refuses, reports⟩ := checked_iff_grammar .null failing
  exact ⟨⟨accepts.mp ⟨_, passes⟩, declares _ passes⟩, refused, refuses refused, viable, leaves,
    reports _ _ _ rfl viable leaves⟩

end Script

end Resumable
