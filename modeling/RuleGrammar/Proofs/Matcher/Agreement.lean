import RuleGrammar.Proofs.Matcher.Limits
import RuleGrammar.Proofs.Matcher.Memoization
import RuleGrammar.Proofs.Matcher.Placement
import RuleGrammar.Proofs.Matcher.Reentry

/-! Runs agree with derivations. Whatever a run matches can be derived, with or without a memo and
under any limits; what can be derived is matched, unless a limit stops the run.
-/

namespace RuleGrammar.MatchEnv

variable {env : MatchEnv} {name : Name} {pos : Int}

/-- What can be derived of a call, a matcher without limits answers. Without a memo evaluation
halts and the matcher goes with it; with one it answers as without.
-/
theorem exists_call_of_derives (built : env.grammar.Built)
    (unlimited : env.config.maxDepth = none) (unbounded : env.config.ceiling = none)
    {answer : Option Match} (derived : Derives env.grammar env.subject (.call name pos answer))
    : ∃ m t, env.call name pos {} = .ok m t ∧ m.map Match.bare = answer := by
  have builtSame : (env.withMemo false).grammar.Built := built
  obtain ⟨n, t, ran, same⟩ :=
    call_of_derives builtSame rfl unlimited unbounded (.initial env.grammar) derived
  rw [← env.withMemo_eq]
  cases env.config.memoize with
  | false => exact ⟨n, t, ran, same⟩
  | true =>
      have paired := call_lockstep_memo built unlimited unbounded name pos
      rw [ran] at paired
      generalize (env.withMemo true).call name pos {} = left at paired
      cases paired with
      | @ok m _ s _ value _ => exact ⟨m, s, rfl, (answers_of_sameMatch value).1.trans same⟩

/-- What a matcher without limits answers can be derived, with a memo because it answers so
without.
-/
theorem derives_of_answer (built : env.grammar.Built) (faultless : env.grammar.Faultless)
    (unlimited : env.config.maxDepth = none) (unbounded : env.config.ceiling = none)
    (stands : ∃ entry, env.grammar.lookup name = some entry) {answer : Option Match}
    {t : MatcherState} (ran : env.call name pos {} = .ok answer t)
    : Derives env.grammar env.subject (.call name pos (answer.map Match.bare)) := by
  have faultlessSame : (env.withMemo false).grammar.Faultless := faultless
  have ends := derives_of_call faultlessSame rfl unlimited (.initial env.grammar) stands pos
  obtain ⟨m, u, ran', same⟩
      : ∃ m u,
          (env.withMemo false).call name pos {} = .ok m u
          ∧ m.map Match.bare = answer.map Match.bare := by
    rw [← env.withMemo_eq] at ran
    cases memoize : env.config.memoize with
    | false =>
        rw [memoize] at ran
        exact ⟨answer, t, ran, rfl⟩
    | true =>
        have paired := call_lockstep_memo built unlimited unbounded name pos
        rw [memoize] at ran
        rw [ran] at paired
        generalize (env.withMemo false).call name pos {} = right at paired
        cases paired with
        | @ok _ n _ s value _ => exact ⟨n, s, rfl, (answers_of_sameMatch value).1.symm⟩
        | excused excuse => cases excuse
  rcases ends with ⟨n, v, again, derived⟩ | ⟨fault, v, again, -⟩
  · rw [ran'] at again
    cases again
    exact same ▸ derived
  · rw [ran'] at again
    cases again

variable {start : Name} {anchored : Bool}

/-- What a run matches can be derived, bare, and an anchored run has come to the end. -/
theorem derives_of_run (built : env.grammar.Built) (faultless : env.grammar.Faultless)
    (stands : ∃ entry, env.grammar.lookup start = some entry) {root : Match}
    (ended : (run env start pos anchored).outcome = .ok (.matched root))
    : Derives env.grammar env.subject (.call start pos (some root.bare))
      ∧ isComplete env anchored root = true := by
  have ended : (run env.lifted start pos anchored).outcome = .ok (.matched root) := by
    rcases env.run_lifted start pos anchored with same | ⟨fault, stopped, -⟩
    · exact same ▸ ended
    · rw [ended] at stopped
      cases stopped
  obtain ⟨⟨t, called⟩, complete⟩ := call_of_run ended
  have builtLifted : env.lifted.grammar.Built := built
  exact ⟨derives_of_answer builtLifted faultless rfl rfl stands called, complete⟩

/-- A run matches what can be derived, if it reaches as far as it has to, or a limit stops it. -/
theorem run_of_derives (built : env.grammar.Built) (checked : checkStart env start = .ok ())
    {m : Match} (derived : Derives env.grammar env.subject (.call start pos (some m)))
    (complete : isComplete env anchored m = true)
    : (∃ root,
        (run env start pos anchored).outcome = .ok (.matched root)
        ∧ root.bare = m)
      ∨ ∃ fault,
          (run env start pos anchored).outcome = .error fault
          ∧ fault.isLimit = true
          ∧ env.config.isLimited = true := by
  refine (env.run_lifted start pos anchored).imp_left fun same => ?_
  have builtLifted : env.lifted.grammar.Built := built
  obtain ⟨answer, t, ran, bare⟩ := exists_call_of_derives builtLifted rfl rfl derived
  obtain ⟨root, rfl, rfl⟩ := Option.map_eq_some_iff.mp bare
  have whole : isComplete env.lifted anchored root = true := by
    rw [isComplete, Match.bare_stop] at complete
    exact complete
  have matched : matchFrom env.lifted start pos anchored {} = .ok (.matched root) t := by
    simp only [matchFrom, bind, EStateM.bind, ran, whole, if_true]
    rfl
  refine ⟨root, same.trans ?_, rfl⟩
  have checked' : checkStart env.lifted start = .ok () := checked
  simp only [run, checked', matched]

end RuleGrammar.MatchEnv
