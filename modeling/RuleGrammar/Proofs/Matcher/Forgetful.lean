import RuleGrammar.Proofs.Matcher.Halting

/-! The matcher without a memo. It either answers as evaluation does that nothing guards, or its
guard finds a rule that is applied inside itself.
-/

namespace RuleGrammar

/-- Whether a fault says that a rule was applied inside itself, or that there was no room. -/
def Fault.isGuard : Fault → Bool
  | reentered _ _ | outOfRoom _ _ => true
  | _ => false

theorem guarded_forgetful {env : MatchEnv} (forgetful : env.config.memoize = false)
    (unlimited : env.config.maxDepth = none) (scope : Scope) (rule : Rule) (pos : Int)
    (fresh : MatchM (Option Match))
    : guarded env scope rule pos fresh
      = if scope.isActive ⟨rule.name, rule.tag, pos⟩ then
          throw (.reentered rule.qualified pos)
        else fresh := by
  simp only [guarded, knownAnswer, forgetful, MatchConfig.depthReached, unlimited,
    Option.filter_none, Bool.false_eq_true, if_false, pure_bind]

theorem evaluateRule_forgetful {env : MatchEnv} (forgetful : env.config.memoize = false)
    (scope : Scope) (rule : Rule) (pos : Int)
    (call : Scope → Name → Int → MatchM (Option Match))
    : evaluateRule env scope rule pos call = answerRule env scope rule pos call := by
  simp only [evaluateRule, remember, forgetful, Bool.false_and, Bool.false_eq_true, if_false,
    pure_bind, bind_pure]

namespace MatchEnv

variable {env : MatchEnv}

-----------------------------------------------------------------------------------------
-- What the matcher answers, evaluation answers
-----------------------------------------------------------------------------------------

/-- A run without memory beside the matcher, which may be stopped by its guard. -/
abbrev besideGuarded (env : MatchEnv) : Coupling :=
  Coupling.bare env.grammar (fun _ _ _ _ => True) fun fault => fault.isGuard = true

theorem besideGuarded_carries (env : MatchEnv) : env.besideGuarded.Carries env env Eq :=
  (Coupling.bare_carries (fun _ _ _ _ => True) _ rfl rfl).diagonal
    fun _ _ _ _ _ _ kept => kept

/-- A rule that the matcher answers without a memo, evaluation with one more fuel answers, if its
applications with less room do so.
-/
theorem answerRule_besideGuarded {room : Nat}
    (apply
      : ∀ scope rule pos,
          env.besideGuarded.Lockstep (env.besideGuarded.SameMatch env.subject pos True)
            (unguarded env room scope rule pos) (applyRule env room scope rule pos))
    (scope : Scope) (rule : Rule) (pos : Int)
    : env.besideGuarded.Lockstep (env.besideGuarded.SameMatch env.subject pos True)
        (unguarded env (room + 1) scope rule pos)
        (answerRule env scope rule pos fun inner => callName env (applyRule env room inner)) := by
  refine env.besideGuarded_carries.answerRule rfl ?_
  rintro inner _ rfl - - other - q -
  exact apply inner other q

/-- Where the matcher without a memo answers, so does evaluation with as much fuel as there was
room, by induction on the room.
-/
theorem unguarded_lockstep_applyRule (forgetful : env.config.memoize = false)
    (unlimited : env.config.maxDepth = none) (room : Nat) (scope : Scope) (rule : Rule) (pos : Int)
    : env.besideGuarded.Lockstep (env.besideGuarded.SameMatch env.subject pos True)
        (unguarded env room scope rule pos) (applyRule env room scope rule pos) := by
  induction room generalizing scope rule pos with
  | zero =>
      rw [applyRule_eq_guarded, guarded_forgetful forgetful unlimited]
      split
      · exact .throw_excused rfl
      · exact .throw_excused rfl
  | succ room ih =>
      rw [applyRule_eq_guarded, guarded_forgetful forgetful unlimited]
      split
      · exact .throw_excused rfl
      · rw [applyFresh, evaluateRule_forgetful forgetful]
        exact answerRule_besideGuarded ih scope rule pos

/-- A rule that the matcher answers without a memo halts. -/
theorem Halts.of_answered (forgetful : env.config.memoize = false)
    (unlimited : env.config.maxDepth = none) {room : Nat} {scope : Scope} {rule : Rule}
    {pos : Int} {s t : MatcherState} {answer : Option Match}
    (resolves : s.Resolves env.grammar)
    (ran
      : answerRule env scope rule pos (fun inner => callName env (applyRule env room inner)) s
        = .ok answer t)
    : env.Halts (room + 1) rule pos := by
  have answered := answerRule_besideGuarded
    (unguarded_lockstep_applyRule forgetful unlimited room) scope rule pos
  have paired := answered s s ⟨resolves, resolves, trivial⟩
  rw [ran] at paired
  have ended : ¬ OutOfRoom (unguarded env (room + 1) scope rule pos s) := by
    generalize unguarded env (room + 1) scope rule pos s = left at paired
    cases paired with
    | ok _ _ => exact id
  exact .of_run resolves ended (Nat.le_refl _)

end MatchEnv

end RuleGrammar
