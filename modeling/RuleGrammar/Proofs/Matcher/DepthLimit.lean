import RuleGrammar.Proofs.Matcher.Limits
import RuleGrammar.Proofs.Matcher.Memoization

/-! The limit on depth alone. It turns results into faults and nothing else: a run that does not
stop at its limit ends the same, down to the state that it leaves, under every looser one.
-/

namespace RuleGrammar

/-- Whether a fault says that the limit on depth is reached. -/
def Fault.isTooDeep : Fault → Bool
  | tooDeep _ _ _ => true
  | _ => false

theorem Fault.isTooDeep_atStart (start : Name) (pos : Int) (fault : Fault)
    : (fault.atStart start pos).isTooDeep = fault.isTooDeep := by
  cases fault <;> rfl

/-- A run has stopped at its limit on depth. -/
def RunResult.StoppedTooDeep (result : RunResult) : Prop :=
  ∃ fault, result.outcome = .error fault ∧ fault.isTooDeep = true

namespace MatchEnv

/-- The same matcher under another limit on depth, or under none. -/
def withDepth (env : MatchEnv) (limit : Option Int) : MatchEnv :=
  env.withLimits limit env.config.ceiling

/-- A limit on depth that is no stricter than that of a matcher: where there is one, the matcher
has one as well, and it is no higher.
-/
def Allows (env : MatchEnv) (limit : Option Int) : Prop :=
  ∀ eased ∈ limit, ∃ own ∈ env.config.maxDepth, own ≤ eased

variable {env : MatchEnv} {limit : Option Int}

theorem Allows.eases (looser : env.Allows limit)
    : env.Eases limit env.config.ceiling fun fault => fault.isTooDeep = true where
  depth := looser
  tooDeep _ _ _ := rfl
  ceiling := Or.inl rfl

/-- A run that does not stop at its limit on depth is the same run under every looser limit: it
finds the same match, the same failure or the same other fault, and leaves the same state.
-/
theorem run_withDepth (looser : env.Allows limit) {start : Name} {pos : Int} {anchored : Bool}
    (within : ¬ (run env start pos anchored).StoppedTooDeep)
    : run (env.withDepth limit) start pos anchored = run env start pos anchored := by
  rcases looser.eases.run start pos anchored with same | ⟨fault, stopped, deep⟩
  · exact same
  · exact absurd ⟨_, stopped, (Fault.isTooDeep_atStart start pos fault).trans deep⟩ within

/-- The two nested applications of a chain over two letters stay within a limit of three, and so
the chain ends the same under a limit of five.
-/
theorem run_withDepth_chain
    : (chain.withDepth (some 3)).Allows (some 5)
      ∧ ¬ (run (chain.withDepth (some 3)) "a" 0 true).StoppedTooDeep
      ∧ run ((chain.withDepth (some 3)).withDepth (some 5)) "a" 0 true
        = run (chain.withDepth (some 3)) "a" 0 true := by
  have looser : (chain.withDepth (some 3)).Allows (some 5) := by
    rintro eased ⟨⟩
    exact ⟨3, rfl, by decide⟩
  have within : ¬ (run (chain.withDepth (some 3)) "a" 0 true).StoppedTooDeep := by
    have matched : ∃ root, (run (chain.withDepth (some 3)) "a" 0 true).outcome
        = .ok (.matched root) := ⟨_, rfl⟩
    rintro ⟨fault, stopped, -⟩
    obtain ⟨root, ended⟩ := matched
    rw [ended] at stopped
    cases stopped
  exact ⟨looser, within, run_withDepth looser within⟩

/-- Under a limit of one the same chain stops. -/
example : (run (chain.withDepth (some 1)) "a" 0 true).StoppedTooDeep := ⟨_, rfl, rfl⟩

end MatchEnv

end RuleGrammar
