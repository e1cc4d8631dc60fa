import RuleGrammar.Grammar.Validity
import RuleGrammar.Matcher.Apply
import RuleGrammar.Matcher.Failure

/-! Matching a text against a rule of a grammar. -/

namespace RuleGrammar

/-- A match, or the report of the furthest failure. -/
inductive Outcome
  | matched (root : Match)
  | failed (failure : Failure)

/-- A fault as the match as a whole meets it: when there is no room left, the start is to
blame. -/
def Fault.atStart (start : Name) (pos : Int) : Fault → Fault
  | outOfRoom _ _ => outOfRoom start pos
  | fault => fault

/-- The checks before a match: the grammar, if the configuration asks for it, and the start. -/
def checkStart (env : MatchEnv) (start : Name) : Except GrammarError Unit := do
  if env.config.validate then env.grammar.validate
  let _ ← env.grammar.resolve start
  return ()

/-- Whether a match counts: an anchored one has to end where the subject does. -/
def isComplete (env : MatchEnv) (anchored : Bool) (m : Match) : Bool :=
  !anchored || m.stop = env.subject.size

/-- Matches the start rule and judges the answer. -/
def matchFrom (env : MatchEnv) (start : Name) (pos : Int) (anchored : Bool)
    : MatchM Outcome := do
  match ← env.call start pos with
  | some m =>
      if isComplete env anchored m then return .matched m
      else do
        MatchM.expect {} m.stop "end of input"
        return .failed (.ofFurthest start pos (← get).furthest)
  | none => return .failed (.ofFurthest start pos (← get).furthest)

/-- The end of a run: an outcome or a fault, and what the matcher kept. -/
structure RunResult where
  outcome : Except Fault Outcome
  state : MatcherState

/-- Runs a match from a fresh state. -/
def run (env : MatchEnv) (start : Name) (pos : Int) (anchored : Bool) : RunResult :=
  match checkStart env start with
  | .error error => ⟨.error (.grammar error), {}⟩
  | .ok () =>
      match matchFrom env start pos anchored {} with
      | .ok outcome state => ⟨.ok outcome, state⟩
      | .error fault state => ⟨.error (fault.atStart start pos), state⟩

/-- A run ends in an outcome exactly if its start passes the checks and its match ends in it. -/
theorem run_outcome_eq_ok {env : MatchEnv} {start : Name} {pos : Int} {anchored : Bool}
    {outcome : Outcome} : (run env start pos anchored).outcome = .ok outcome
      ↔ checkStart env start = .ok ()
        ∧ ∃ t, matchFrom env start pos anchored {} = .ok outcome t := by
  unfold run
  cases checkStart env start with
  | error error => simp
  | ok _ => cases matchFrom env start pos anchored {} <;> simp

/-- Matches a rule at the start of a text, which an anchored match consumes whole. -/
def parse (env : MatchEnv) (start : Name) (anchored : Bool) : Except Fault Outcome :=
  (run env start 0 anchored).outcome

/-- Matches a rule at an offset of a text without asking for the rest. -/
def subparse (env : MatchEnv) (start : Name) (pos : Int) : Except Fault Outcome :=
  (run env start pos false).outcome

end RuleGrammar
