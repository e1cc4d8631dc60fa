import RuleGrammar.Proofs.Matcher.Completeness
import RuleGrammar.Proofs.Matcher.Forgetful
import RuleGrammar.Proofs.Matcher.Soundness
import RuleGrammar.Proofs.Matcher.Termination

/-! The guard against re-entry is exact. The matcher without a memo answers just what can be
derived, and it finds a rule applied inside itself just where nothing can.
-/

namespace RuleGrammar.MatchEnv

variable {env : MatchEnv} {s : MatcherState} {name : Name} {pos : Int}

/-- What can be derived of a call, the matcher answers: evaluation halts, and the matcher goes
with it.
-/
theorem call_of_derives (built : env.grammar.Built)
    (forgetful : env.config.memoize = false) (unlimited : env.config.maxDepth = none)
    (unbounded : env.config.ceiling = none) (resolves : s.Resolves env.grammar)
    {answer : Option Match} (derived : Derives env.grammar env.subject (.call name pos answer))
    : ∃ m t, env.call name pos s = .ok m t ∧ m.map Match.bare = answer := by
  obtain ⟨fuel, evaluated⟩ := derived.evaluated.exists
  have forgets (memoize : env.config.memoize = true)
      : Memo.Sound env s.memo s.furthest := by
    rw [forgetful] at memoize
    cases memoize
  have paired := call_halting built unlimited unbounded fuel name pos resolves forgets
  rcases evaluated {} s resolves trivial with ⟨n, t, ran, -, -, same⟩ | ⟨_, _, -, impossible⟩
  · rw [ran] at paired
    generalize env.call name pos s = left at paired
    cases paired with
    | @ok m _ s' _ value _ =>
        exact ⟨m, s', rfl, (answers_of_sameMatch value).1.trans same⟩
  · cases impossible

/-- What the matcher answers can be derived; if it does not answer, its guard or a lack of room
has stopped it. Evaluation would end in any other fault as well, which it does not.
-/
theorem derives_of_call (faultless : env.grammar.Faultless)
    (forgetful : env.config.memoize = false) (unlimited : env.config.maxDepth = none)
    (resolves : s.Resolves env.grammar)
    (stands : ∃ entry, env.grammar.lookup name = some entry) (pos : Int)
    : (∃ m t,
        env.call name pos s = .ok m t
        ∧ Derives env.grammar env.subject (.call name pos (m.map Match.bare)))
      ∨ ∃ fault t, env.call name pos s = .error fault t ∧ fault.isGuard = true := by
  have called := Coupling.callName_lockstep_of_visible (env.besideGuarded_carries.resolve name)
    fun rule _ =>
      unguarded_lockstep_applyRule forgetful unlimited (env.room s.resolved pos) {} rule pos
  have paired := called s s ⟨resolves, resolves, trivial⟩
  have derived := unguardedCall_derives faultless (env.room s.resolved pos) stands pos s resolves
    trivial
  change _ ∨ ∃ fault t,
    callName env (applyRule env (env.room s.resolved pos) {}) name pos s = .error fault t ∧ _
  generalize callName env (unguarded env (env.room s.resolved pos) {}) name pos s = left
    at paired derived
  generalize ran : callName env (applyRule env (env.room s.resolved pos) {}) name pos s = right
    at paired
  cases paired with
  | excused excuse => exact Or.inr ⟨_, _, rfl, excuse⟩
  | @ok m n s' t' value _ =>
      refine Or.inl ⟨n, t', ran, ?_⟩
      rcases derived with ⟨_, _, same, -, -, derived⟩ | ⟨_, _, stopped, -⟩
      · cases same
        rwa [(answers_of_sameMatch value).1] at derived
      · cases stopped
  | error fault _ =>
      rcases derived with ⟨_, _, same, -⟩ | ⟨_, _, stopped, out⟩
      · cases same
      · cases stopped
        exact absurd (fault.2.symm.trans out) (by simp)

/-- A call without ceiling is not out of room. -/
theorem call_not_outOfRoom (unbounded : env.config.ceiling = none) (sane : s.Sane env)
    {fault : Fault} {t : MatcherState} (ended : env.call name pos s = .error fault t)
    : fault.isOutOfRoom = false := by
  have paired := call_paired _ (fun _ ordinary => ordinary) name pos sane
    (Or.inl (enough_of_unbounded unbounded s.resolved pos))
  rw [ended] at paired
  cases paired with
  | error allowed _ => exact allowed.2
  | excused excuse => cases excuse

/-- The matcher without a memo gives an answer exactly when it can be derived, and it stops with a
rule applied inside itself exactly when nothing can be derived.
-/
theorem call_iff_derives (built : env.grammar.Built)
    (checked : env.grammar.checkRules = .ok ())
    (compiles
      : ∀ rule ∈ env.grammar.visibleRules, ∀ cls ∈ rule.expr.classes, cls.fault? = none)
    (forgetful : env.config.memoize = false) (unlimited : env.config.maxDepth = none)
    (unbounded : env.config.ceiling = none) (used : env.Used s)
    (stands : ∃ entry, env.grammar.lookup name = some entry) (pos : Int)
    : (∀ answer,
        Derives env.grammar env.subject (.call name pos answer)
        ↔ ∃ m t, env.call name pos s = .ok m t ∧ m.map Match.bare = answer)
      ∧ ((∀ answer, ¬ Derives env.grammar env.subject (.call name pos answer))
        ↔ ∃ rule q t, env.call name pos s = .error (.reentered rule q) t) := by
  have sane := used.sane
  have faultless := Grammar.faultless_of_checkRules checked compiles
  have answers {answer} (derived : Derives env.grammar env.subject (.call name pos answer)) :=
    call_of_derives built forgetful unlimited unbounded sane.resolves derived
  have ends := derives_of_call faultless forgetful unlimited sane.resolves stands pos
  refine ⟨fun answer => ⟨answers, ?_⟩, ?_, ?_⟩
  · rintro ⟨m, t, ran, rfl⟩
    rcases ends with ⟨n, u, ran', derived⟩ | ⟨fault, u, ran', -⟩
    · rw [ran] at ran'
      cases ran'
      exact derived
    · rw [ran] at ran'
      cases ran'
  · intro none
    rcases ends with ⟨m, t, -, derived⟩ | ⟨fault, t, ran, guards⟩
    · exact absurd derived (none _)
    · have inRoom := call_not_outOfRoom unbounded sane ran
      cases fault with
      | reentered rule q => exact ⟨rule, q, t, ran⟩
      | outOfRoom rule q => cases inRoom
      | tooDeep limit rule q => cases guards
      | grammar error => cases guards
      | charClass fault => cases guards
  · rintro ⟨rule, q, t, ran⟩ answer derived
    obtain ⟨m, u, ran', -⟩ := answers derived
    rw [ran] at ran'
    cases ran'

theorem selfCalling_built : selfCalling.grammar.Built := by
  intro layer member
  obtain rfl := List.mem_singleton.mp member
  have done : Layer.register { name := "loop" } "a" selfCallingRule
      = .ok (selfCallingRule, selfCalling.grammar.own) := rfl
  exact .registered (.empty "loop") done

/-- In a checked grammar, a rule that calls itself first can have no answer. -/
theorem call_iff_derives_selfCalling
    : selfCalling.grammar.Built
      ∧ selfCalling.grammar.checkRules = .ok ()
      ∧ (∀ rule ∈ selfCalling.grammar.visibleRules, ∀ cls ∈ rule.expr.classes,
          cls.fault? = none)
      ∧ selfCalling.Used {}
      ∧ ((∀ answer,
            ¬ Derives selfCalling.grammar selfCalling.subject (.call "a" 0 answer))
          ↔ ∃ rule q t, selfCalling.call "a" 0 {} = .error (.reentered rule q) t) := by
  have checked : selfCalling.grammar.checkRules = .ok () := by decide +kernel
  have compiles : ∀ rule ∈ selfCalling.grammar.visibleRules, ∀ cls ∈ rule.expr.classes,
      cls.fault? = none := by decide +kernel
  exact ⟨selfCalling_built, checked, compiles, .fresh,
    (call_iff_derives selfCalling_built checked compiles rfl rfl rfl .fresh ⟨_, rfl⟩ 0).2⟩

end RuleGrammar.MatchEnv
