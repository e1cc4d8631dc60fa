import RuleGrammar.Proofs.Grammar.Built
import RuleGrammar.Proofs.Matcher.Termination
import RuleGrammar.Proofs.Matcher.Unguarded

/-! Rules that halt. Where none of the applications in progress would end in the fuel at hand, a
rule that ends in it is applied by the matcher as it is without memory: no application is started
again inside itself, and known answers are those that evaluation would give.
-/

namespace RuleGrammar

-----------------------------------------------------------------------------------------
-- Single steps of the matcher
-----------------------------------------------------------------------------------------

/-- What the matcher does behind the guard of an application. -/
def applyFresh (env : MatchEnv) (room : Nat) (scope : Scope) (rule : Rule) (pos : Int)
    : MatchM (Option Match) :=
  match room with
  | 0 => throw (.outOfRoom rule.name pos)
  | room + 1 =>
      evaluateRule env scope rule pos fun inner => callName env (applyRule env room inner)

theorem applyRule_eq_guarded (env : MatchEnv) (room : Nat) (scope : Scope) (rule : Rule)
    (pos : Int)
    : applyRule env room scope rule pos
      = guarded env scope rule pos (applyFresh env room scope rule pos) := by
  cases room <;> rfl

/-- Something is known for a key, or nothing is. -/
theorem knownAnswer_cases (env : MatchEnv) (key : Key) (s : MatcherState)
    : (∃ answer,
        env.config.memoize = true
        ∧ s.memo.find? key = some answer
        ∧ knownAnswer env key s = .ok (some answer) s)
      ∨ knownAnswer env key s = .ok none s := by
  by_cases memoize : env.config.memoize = true
  · cases found : s.memo.find? key with
    | some answer =>
        refine Or.inl ⟨answer, memoize, rfl, ?_⟩
        simp only [knownAnswer, memoize, if_true, MatchM.get_bind, found]
        rfl
    | none =>
        refine Or.inr ?_
        simp only [knownAnswer, memoize, if_true, MatchM.get_bind, found]
        rfl
  · refine Or.inr ?_
    simp only [knownAnswer, memoize, if_false, Bool.false_eq_true]
    rfl

/-- A guard gives a known answer, stops, or lets the evaluation through. -/
theorem guarded_ends (env : MatchEnv) (scope : Scope) (rule : Rule) (pos : Int)
    (fresh : MatchM (Option Match)) (s : MatcherState)
    : (∃ answer,
        env.config.memoize = true
        ∧ s.memo.find? ⟨rule.name, rule.tag, pos⟩ = some answer
        ∧ guarded env scope rule pos fresh s = .ok answer s)
      ∨ (∃ fault, guarded env scope rule pos fresh s = .error fault s)
      ∨ guarded env scope rule pos fresh s = fresh s := by
  rcases knownAnswer_cases env ⟨rule.name, rule.tag, pos⟩ s with
    ⟨answer, memoize, found, known⟩ | unknown
  · refine Or.inl ⟨answer, memoize, found, ?_⟩
    simp only [guarded, bind, EStateM.bind, known]
    rfl
  · refine Or.inr ?_
    simp only [guarded, bind, EStateM.bind, unknown]
    split
    · exact Or.inl ⟨_, rfl⟩
    · cases env.config.depthReached scope with
      | some limit => exact Or.inl ⟨_, rfl⟩
      | none => exact Or.inr rfl

/-- A guard without a limit on depth gives a known answer, stops where the rule is in progress, or
lets the evaluation through.
-/
theorem guarded_cases {env : MatchEnv} (unlimited : env.config.maxDepth = none)
    (scope : Scope) (rule : Rule) (pos : Int) (fresh : MatchM (Option Match))
    (s : MatcherState)
    : (∃ answer,
        env.config.memoize = true
        ∧ s.memo.find? ⟨rule.name, rule.tag, pos⟩ = some answer
        ∧ guarded env scope rule pos fresh s = .ok answer s)
      ∨ (scope.isActive ⟨rule.name, rule.tag, pos⟩ = true
        ∧ guarded env scope rule pos fresh s = .error (.reentered rule.qualified pos) s)
      ∨ (¬ scope.isActive ⟨rule.name, rule.tag, pos⟩ = true
        ∧ guarded env scope rule pos fresh s = fresh s) := by
  rcases knownAnswer_cases env ⟨rule.name, rule.tag, pos⟩ s with
    ⟨answer, memoize, found, known⟩ | unknown
  · refine Or.inl ⟨answer, memoize, found, ?_⟩
    simp only [guarded, bind, EStateM.bind, known]
    rfl
  · refine Or.inr ?_
    simp only [guarded, bind, EStateM.bind, unknown, MatchConfig.depthReached, unlimited,
      Option.filter_none]
    by_cases active : scope.isActive ⟨rule.name, rule.tag, pos⟩ = true
    · exact Or.inl ⟨active, by simp only [active, if_true]; rfl⟩
    · exact Or.inr ⟨active, by simp only [active, if_false, Bool.false_eq_true]⟩

/-- What is kept of an answer: nothing in a quiet scope or without memory. -/
theorem remember_spec (env : MatchEnv) (scope : Scope) (key : Key) (answer : Option Match)
    (s : MatcherState)
    : (env.config.memoize = true ∧ scope.quiet = false
        ∧ remember env scope key answer s
          = .ok () { s with memo := s.memo.insert key answer })
      ∨ ((env.config.memoize = false ∨ scope.quiet = true)
        ∧ remember env scope key answer s = .ok () s) := by
  unfold remember
  cases memoize : env.config.memoize with
  | false => exact Or.inr ⟨Or.inl rfl, rfl⟩
  | true =>
      cases quiet : scope.quiet with
      | false => exact Or.inl ⟨rfl, rfl, rfl⟩
      | true => exact Or.inr ⟨Or.inr rfl, rfl⟩

-----------------------------------------------------------------------------------------
-- Sound memos
-----------------------------------------------------------------------------------------

/-- All that a memo knows of visible rules is settled at a record. -/
def Memo.Sound (env : MatchEnv) (memo : Memo) (reach : Furthest) : Prop :=
  ∀ rule ∈ env.grammar.visibleRules, ∀ pos answer,
    memo.find? ⟨rule.name, rule.tag, pos⟩ = some answer
    → env.Settled rule pos answer reach

namespace Memo.Sound

variable {env : MatchEnv} {memo : Memo} {reach : Furthest}

theorem empty (env : MatchEnv) (reach : Furthest) : Memo.Sound env {} reach := by
  intro rule _ pos answer found
  rw [Memo.find?_empty] at found
  cases found

theorem mono {reach' : Furthest} (sound : memo.Sound env reach) (within : reach.Within reach')
    : memo.Sound env reach' :=
  fun rule visible pos answer found => (sound rule visible pos answer found).mono within

/-- A settled answer may be kept: its key belongs to no other visible rule. -/
theorem insert (built : env.grammar.Built) (sound : memo.Sound env reach) {rule : Rule}
    (visible : rule ∈ env.grammar.visibleRules) {pos : Int} {answer : Option Match}
    (settled : env.Settled rule pos answer reach)
    : (memo.insert ⟨rule.name, rule.tag, pos⟩ answer).Sound env reach := by
  intro other otherVisible at_ known found
  rcases Memo.find?_insert_cases found with ⟨same, rfl⟩ | before
  · obtain ⟨sameName, sameTag, rfl⟩ := Key.mk.inj same
    rwa [built.eq_of_key otherVisible visible sameName sameTag]
  · exact sound other otherVisible at_ known before

end Memo.Sound

-----------------------------------------------------------------------------------------
-- Applications of rules that halt
-----------------------------------------------------------------------------------------

/-- An evaluation that keeps its answer goes with a run that its answer goes with, if what is
kept leaves the states coupled.
-/
theorem Coupling.Paired.evaluateRule {c : Coupling} {env : MatchEnv} {scope : Scope}
    {rule : Rule} {pos : Int} {call : Scope → Name → Int → MatchM (Option Match)}
    {values : Option Match → Option Match → Prop} {s : MatcherState} {right}
    (paired : c.Paired values (answerRule env scope rule pos call s) right)
    (keeps
      : ∀ m n s' t',
          right = .ok n t'
          → values m n
          → c.states s' t'
          → env.config.memoize = true
          → scope.quiet = false
          → c.states
              { s' with memo := s'.memo.insert ⟨rule.name, rule.tag, pos⟩ m } t')
    : c.Paired values (evaluateRule env scope rule pos call s) right := by
  simp only [RuleGrammar.evaluateRule, Bind.bind, EStateM.bind]
  generalize answerRule env scope rule pos call s = left at paired
  cases paired with
  | error fault kept => exact .error fault kept
  | excused excuse => exact .excused excuse
  | @ok m n s' t' value kept =>
      rcases remember_spec env scope ⟨rule.name, rule.tag, pos⟩ m s' with
        ⟨memoize, loud, ran⟩ | ⟨-, ran⟩
      · simp only [ran]
        exact .ok value (keeps m n s' t' rfl value kept memoize loud)
      · simp only [ran]
        exact .ok value kept

namespace MatchEnv

variable {env : MatchEnv}

/-- The application that a key says is in progress is one of the rule itself. -/
theorem InOrder.mem_of_isActive (built : env.grammar.Built) {start : Int} {scope : Scope}
    (order : env.InOrder start scope.frames) {rule : Rule}
    (visible : rule ∈ env.grammar.visibleRules) {pos : Int}
    (active : scope.isActive ⟨rule.name, rule.tag, pos⟩ = true)
    : (⟨rule, pos⟩ : Frame) ∈ scope.frames := by
  obtain ⟨frame, member, same⟩ := List.any_eq_true.mp active
  obtain ⟨sameName, sameTag, rfl⟩ := Key.mk.inj (of_decide_eq_true same)
  have sameRule := built.eq_of_key (order.visible frame member) visible sameName sameTag
  rw [← sameRule]
  exact member

/-- What a run of the matcher and one without memory keep: the matcher's memo is sound if it is
used at all, and the records of both agree.
-/
def Faithful (env : MatchEnv) (memo : Memo) (f : Furthest) (_ : Memo) (f' : Furthest) : Prop :=
  (env.config.memoize = true → Memo.Sound env memo f) ∧ f.Agrees f'

theorem bumps_faithful (env : MatchEnv) (quiet : Bool)
    : Coupling.Bumps env.Faithful quiet quiet := by
  rintro memo f memo' f' note ⟨sound, agrees⟩
  cases quiet with
  | true => exact ⟨sound, agrees⟩
  | false => exact ⟨fun memoize => (sound memoize).mono (.note f note), agrees.note note⟩

/-- No application in progress would end in so much fuel. -/
def Stuck (env : MatchEnv) (fuel : Nat) (frames : List Frame) : Prop :=
  ∀ frame ∈ frames, ¬ env.Halts fuel frame.rule frame.pos

/-- A matcher beside a run without memory that may run out of fuel. -/
abbrev besideUnguarded (env : MatchEnv) : Coupling :=
  Coupling.fueled env.grammar env.Faithful

theorem besideUnguarded_carries (env : MatchEnv) : env.besideUnguarded.Carries env env Eq :=
  (Coupling.bare_carries env.Faithful _ rfl rfl).diagonal
    fun scope => bumps_faithful env scope.quiet

/-- A settled answer goes with what evaluation gives, or that runs out of fuel. -/
theorem Settled.paired {rule : Rule} {pos : Int} {answer : Option Match} {s t : MatcherState}
    (settled : env.Settled rule pos answer s.furthest) (fuel : Nat) (scope : Scope)
    (coupled : env.besideUnguarded.states s t)
    : env.besideUnguarded.Paired (env.besideUnguarded.SameMatch env.subject pos True)
        (.ok answer s) (unguarded env fuel scope rule pos t) := by
  obtain ⟨resolves, resolves', sound, agrees⟩ := coupled
  rcases settled.answers fuel scope resolves' (Or.inr (.of_agrees agrees)) with
    out | ⟨found, t', ran, alike, ahead, after, stood⟩
  · exact out.paired
  · rw [ran]
    exact .ok (sameMatch_of_answers alike ahead)
      ⟨resolves, after, sound, agrees.trans stood.symm⟩

/-- Where no application in progress would end in the fuel at hand, the matcher applies a rule as
it is applied without memory, or that runs out of fuel. Induction on the fuel: a rule that ends in
less is applied with less, any other joins those in progress; a rule that is found in progress
runs out of fuel.
-/
theorem applyRule_halting (built : env.grammar.Built) (unlimited : env.config.maxDepth = none)
    {start : Int} (fuel : Nat) {room : Nat} {scope : Scope}
    (order : env.InOrder start scope.frames) (enough : scope.Enough env start room)
    (stuck : env.Stuck fuel scope.frames) {rule : Rule}
    (visible : rule ∈ env.grammar.visibleRules) {pos : Int}
    (ahead : env.subject.Ahead start pos)
    : env.besideUnguarded.Lockstep (env.besideUnguarded.SameMatch env.subject pos True)
        (applyRule env room scope rule pos) (unguarded env fuel scope rule pos) := by
  induction fuel generalizing room scope rule pos with
  | zero => exact .throw_excused rfl
  | succ fuel ih =>
      intro s t coupled
      obtain ⟨resolves, resolves', sound, agrees⟩ := coupled
      by_cases halts : env.Halts fuel rule pos
      · rw [halts.unguarded_eq (Nat.le_succ fuel) scope resolves']
        refine ih order enough (fun frame member frameHalts => ?_) visible ahead s t
          ⟨resolves, resolves', sound, agrees⟩
        exact stuck frame member (frameHalts.mono (Nat.le_succ fuel))
      · rw [applyRule_eq_guarded]
        rcases guarded_cases unlimited scope rule pos (applyFresh env room scope rule pos) s with
          ⟨answer, memoize, known, ran⟩ | ⟨active, -⟩ | ⟨inactive, ran⟩
        · rw [ran]
          have settled := sound memoize rule visible pos answer known
          exact settled.paired (fuel + 1) scope ⟨resolves, resolves', sound, agrees⟩
        · -- the rule is in progress, and no rule in progress ends in the fuel at hand
          have endless := stuck _ (order.mem_of_isActive built visible active)
          exact (outOfRoom_of_not_halts endless scope resolves').paired
        · rw [ran]
          cases room with
          | zero => exact absurd (order.isActive_of_enough enough visible ahead) inactive
          | succ room =>
              have innerOrder : env.InOrder start (scope.enter rule pos).frames :=
                order.cons inactive visible ahead
              have innerStuck : env.Stuck fuel (scope.enter rule pos).frames := by
                refine List.forall_mem_cons.mpr ⟨halts, fun frame member frameHalts => ?_⟩
                exact stuck frame member (frameHalts.mono (Nat.le_succ fuel))
              have answered : env.besideUnguarded.Lockstep
                  (env.besideUnguarded.SameMatch env.subject pos True)
                  (answerRule env scope rule pos fun inner =>
                    callName env (applyRule env room inner))
                  (unguarded env (fuel + 1) scope rule pos) := by
                refine env.besideUnguarded_carries.answerRule rfl ?_
                rintro inner _ rfl frames - other otherVisible q further
                refine ih (frames ▸ innerOrder) ?_ (frames ▸ innerStuck) otherVisible
                  (ahead.trans further)
                simpa only [Scope.Enough, frames] using enough.enter rule pos
              refine (answered s t ⟨resolves, resolves', sound, agrees⟩).evaluateRule
                fun m n s' t' ran' value kept memoize loud => ?_
              obtain ⟨after, after', sound', agrees'⟩ := kept
              have alike := answers_of_sameMatch value
              have settled := (Settled.of_run loud resolves' ran' alike.1 alike.2).mono
                (.of_agrees agrees'.symm)
              exact ⟨after, after', fun _ => (sound' memoize).insert built visible settled,
                agrees'⟩

/-- Without limits a call goes with the same call of evaluation that nothing guards, or that runs
out of fuel.
-/
theorem call_halting (built : env.grammar.Built) (unlimited : env.config.maxDepth = none)
    (unbounded : env.config.ceiling = none) (fuel : Nat) (name : Name) (pos : Int)
    {s : MatcherState} (resolves : s.Resolves env.grammar)
    (sound : env.config.memoize = true → Memo.Sound env s.memo s.furthest)
    : env.besideUnguarded.Paired (env.besideUnguarded.SameMatch env.subject pos True)
        (env.call name pos s) (callName env (unguarded env fuel {}) name pos s) := by
  have called := Coupling.callName_lockstep_of_visible (env.besideUnguarded_carries.resolve name)
    fun rule visible => applyRule_halting built unlimited fuel .empty
      (enough_of_unbounded unbounded s.resolved pos) (by simp [Stuck]) visible
      (Subject.Ahead.refl env.subject pos)
  exact called s s ⟨resolves, resolves, sound, .refl _⟩

end MatchEnv

end RuleGrammar
