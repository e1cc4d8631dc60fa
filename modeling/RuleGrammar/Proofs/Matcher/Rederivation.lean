import RuleGrammar.Proofs.Grammar.Built
import RuleGrammar.Proofs.MatchTree.Views
import RuleGrammar.Proofs.Matcher.Capturing
import RuleGrammar.Proofs.Matcher.Forgetful
import RuleGrammar.Proofs.Matcher.Limits
import RuleGrammar.Proofs.Matcher.Placement

/-! Every node of a match tree that a rule made can be derived again on its own: matching the rule
that it names from where it starts finds the node again, whatever was in progress, known, or around
when it was captured.
-/

namespace RuleGrammar.MatchEnv

variable {env : MatchEnv} {name : Name} {pos : Int}

-----------------------------------------------------------------------------------------
-- Nodes that evaluation derives again
-----------------------------------------------------------------------------------------

/-- A call of the rule that a node names, where the node starts, answers with it: with some fuel,
from some state, in some scope.
-/
def Derivable (env : MatchEnv) (n : Match) : Prop :=
  ∃ fuel scope s t,
    s.Resolves env.grammar
    ∧ callName env (unguarded env fuel scope) n.rule n.start s = .ok (some n) t

/-- All nodes of a tree that rules made are derivable. -/
def TreeDerivable (env : MatchEnv) (m : Match) : Prop :=
  ∀ n ∈ m.walk, n.rule ≠ [] → env.Derivable n

/-- A node that calls of a name at an offset may answer with: it names the rule, starts there, and
is over derivable trees.
-/
structure MadeBy (env : MatchEnv) (name : Name) (pos : Int) (m : Match) : Prop where
  rule : m.rule = name
  start : m.start = pos
  below : ∀ child ∈ m.captured, env.TreeDerivable child

/-- A node that no rule made need not be derivable itself. -/
theorem passesUp_treeDerivable (env : MatchEnv) : PassesUp env.TreeDerivable := by
  intro id start stop log all n inTree named
  rcases Match.mem_walk inTree with rfl | ⟨child, isChild, inChild⟩
  · exact absurd rfl named
  · have captured := Match.mem_logNodes_of_captured (Match.mem_children.mp isChild)
    exact all child captured n inChild named

/-- From right states, a computation answers with nodes made by a name, if any. -/
abbrev AnswersMadeBy (env : MatchEnv) (name : Name) (pos : Int) (m : MatchM (Option Match))
    : Prop :=
  env.Ensures (fun _ => True) m fun answer => ∀ m ∈ answer, env.MadeBy name pos m

namespace AnswersMadeBy

theorem ruleMatch {rule : Rule} {reached : Option Reached}
    (caught : ∀ r ∈ reached, LogOf env.TreeDerivable r.caught)
    : env.AnswersMadeBy rule.name pos (RuleGrammar.ruleMatch rule pos reached) := by
  cases reached with
  | none => exact .pure (by simp)
  | some r =>
      rintro s resolves kept _ _ ⟨⟩
      refine ⟨resolves, kept, fun m made => ?_⟩
      cases made
      exact ⟨rfl, rfl, fun child isCaptured =>
        caught r rfl child (Match.mem_logNodes_of_captured isCaptured)⟩

theorem dispatch {apply : Rule → Int → MatchM (Option Match)} {rules : List Rule}
    (applied : ∀ rule ∈ rules, env.AnswersMadeBy name pos (apply rule pos)) {best : Option Match}
    (bests : ∀ m ∈ best, env.MadeBy name pos m)
    : env.AnswersMadeBy name pos (dispatch apply pos rules best) := by
  induction rules generalizing best with
  | nil => exact .pure bests
  | cons rule rest ih =>
      obtain ⟨here, later⟩ := List.forall_mem_cons.mp applied
      exact .bind here fun next nexts => ih later (Match.forall_mem_further bests nexts)

/-- In a grammar that was built, the rules that a name stands for all have that name. -/
theorem callName (built : env.grammar.Built) {apply : Rule → Int → MatchM (Option Match)}
    (applied : ∀ rule pos, env.AnswersMadeBy rule.name pos (apply rule pos)) (name : Name)
    (pos : Int)
    : env.AnswersMadeBy name pos (callName env apply name pos) := by
  intro s resolves _
  rcases resolveOnce_spec name resolves with ⟨entry, resolved, stands, ran, -⟩ | ⟨-, ran⟩
  · have named {rule : Rule} (member : rule ∈ entry.rules)
        : env.AnswersMadeBy name pos (apply rule pos) :=
      (built.under stands).name_eq member ▸ applied rule pos
    have called : env.AnswersMadeBy name pos (RuleGrammar.callName env apply name pos) := by
      refine .bind (Ensures.resolveOnce stands) fun found same => ?_
      subst same
      cases found with
      | rule rule => exact named (by simp [Entry.rules])
      | group group => exact dispatch (fun rule member => named member) (by simp)
    exact called s resolves trivial
  · intro answer t ended
    simp only [RuleGrammar.callName, bind, EStateM.bind, ran] at ended
    cases ended

end AnswersMadeBy

/-- What a call answers is a derivable tree if what applications answer is over such trees: the call
itself derives the root.
-/
theorem callName_treeDerivable (built : env.grammar.Built) {fuel : Nat}
    (applied
      : ∀ scope rule pos, env.AnswersMadeBy rule.name pos (unguarded env fuel scope rule pos))
    (scope : Scope) (name : Name) (pos : Int)
    : env.Ensures (fun _ => True) (callName env (unguarded env fuel scope) name pos) fun answer =>
        ∀ m ∈ answer, env.TreeDerivable m := by
  intro s resolves kept answer t ran
  obtain ⟨after, -, made⟩ := AnswersMadeBy.callName built (applied scope) name pos s resolves kept
    answer t ran
  refine ⟨after, trivial, fun m found n inTree named => ?_⟩
  cases found
  have made := made m rfl
  rcases Match.mem_walk inTree with rfl | ⟨child, isChild, inChild⟩
  · -- the run at hand is the call that derives the root
    refine ⟨fuel, scope, s, t, resolves, ?_⟩
    rw [made.rule, made.start]
    exact ran
  · exact made.below child (Match.mem_children.mp isChild) n inChild named

/-- What evaluation of a rule answers is over derivable trees, by induction on the fuel: what its
body captures comes from calls with less.
-/
theorem unguarded_madeBy (built : env.grammar.Built) (fuel : Nat) (scope : Scope) (rule : Rule)
    (pos : Int)
    : env.AnswersMadeBy rule.name pos (unguarded env fuel scope rule pos) := by
  induction fuel generalizing scope rule pos with
  | zero => exact .throw _
  | succ fuel ih =>
      have calls : env.CallsOf (fun _ => True) env.TreeDerivable
          ⟨env.subject, rule, scope.enter rule pos, fun inner =>
            callName env (unguarded env fuel inner)⟩ :=
        fun inner name q => callName_treeDerivable built ih inner name q
      have started := (Ensures.carries env fun _ => True).traceStart rule pos (rfl : scope = scope)
      refine .bind (.of_lockstep started) fun _ _ => ?_
      have body := Catches.eval env.passesUp_treeDerivable calls rule.expr pos
      refine .bind body fun reached caught => ?_
      refine .bind (AnswersMadeBy.ruleMatch caught) fun answer made => ?_
      exact .bind (.traceEnd answer) fun _ _ => .pure made

-----------------------------------------------------------------------------------------
-- Fresh calls
-----------------------------------------------------------------------------------------

/-- The same matcher set up in another way. -/
def withConfig (env : MatchEnv) (config : MatchConfig) : MatchEnv :=
  { env with config }

/-- How a call evaluates does not depend on the scope, the state, or how the matcher is set up. -/
theorem callName_unguarded_paired (env : MatchEnv) (config : MatchConfig) (fuel : Nat)
    (scope scope' : Scope) (name : Name) (pos : Int) {s t : MatcherState}
    (resolves : s.Resolves env.grammar) (resolves' : t.Resolves env.grammar)
    : (Coupling.fueled env.grammar fun _ _ _ _ => True).Paired
        ((Coupling.fueled env.grammar fun _ _ _ _ => True).SameMatch env.subject pos True)
        (callName (env.withConfig config) (unguarded (env.withConfig config) fuel scope) name pos s)
        (callName env (unguarded env fuel scope') name pos t) := by
  have carries : (Coupling.fueled (env.withConfig config).grammar fun _ _ _ _ => True).Carries
      (env.withConfig config) env _ := Coupling.bare_carries _ _ rfl rfl
  have called := Coupling.callName_lockstep_of_visible (carries.resolve name) fun rule _ =>
    Coupling.unguarded_lockstep carries (fun _ _ => rfl) (Nat.le_refl fuel)
      (show Coupling.Bumps _ scope.quiet scope'.quiet from fun _ _ _ _ _ kept => kept) rule pos
  exact called s t ⟨resolves, resolves', trivial⟩

/-- A derivable node is found again by a fresh call without limits, however the matcher is set up:
its evaluation halts.
-/
theorem Derivable.call {n : Match} (derivable : env.Derivable n) (built : env.grammar.Built)
    {config : MatchConfig} (unlimited : config.maxDepth = none) (unbounded : config.ceiling = none)
    : ∃ again t,
        (env.withConfig config).call n.rule n.start {} = .ok (some again) t
        ∧ again.bare = n.bare := by
  obtain ⟨fuel, scope, s, t, resolves, ran⟩ := derivable
  have builtAgain : (env.withConfig config).grammar.Built := built
  have initial := MatcherState.Resolves.initial env.grammar
  have evaluated := callName_unguarded_paired env config fuel {} scope n.rule n.start initial
    resolves
  have fresh := call_halting builtAgain unlimited unbounded fuel n.rule n.start initial
    fun _ => .empty _ _
  rw [ran] at evaluated
  generalize callName (env.withConfig config) (unguarded (env.withConfig config) fuel {}) n.rule
    n.start {} = middle at evaluated fresh
  cases evaluated with
  | @ok found _ _ _ value _ =>
      generalize (env.withConfig config).call n.rule n.start {} = left at fresh
      cases fresh with
      | @ok again _ t' _ value' _ =>
          have alike := (answers_of_sameMatch value').1.trans (answers_of_sameMatch value).1
          cases again with
          | none => cases alike
          | some again => exact ⟨again, t', rfl, Option.some.inj alike⟩

/-- A derivable node names a rule of the grammar. -/
theorem Derivable.exists_lookup {n : Match} (derivable : env.Derivable n)
    : ∃ entry, env.grammar.lookup n.rule = some entry := by
  obtain ⟨fuel, scope, s, t, resolves, ran⟩ := derivable
  rcases resolveOnce_spec n.rule resolves with ⟨entry, -, stands, -⟩ | ⟨-, missed⟩
  · exact ⟨entry, stands⟩
  · simp only [callName, bind, EStateM.bind, missed] at ran
    cases ran

/-- What a call without a memo answers, evaluation answers too, bare: with as much fuel as the call
had room.
-/
theorem evaluated_of_call (forgetful : env.config.memoize = false)
    (unlimited : env.config.maxDepth = none) {m : Match} {t : MatcherState}
    (ran : env.call name pos {} = .ok (some m) t)
    : ∃ n u,
        callName env (unguarded env (env.room [] pos) {}) name pos {} = .ok (some n) u
        ∧ n.bare = m.bare := by
  have initial := MatcherState.Resolves.initial env.grammar
  have called := Coupling.callName_lockstep_of_visible (env.besideGuarded_carries.resolve name)
    fun rule _ => unguarded_lockstep_applyRule forgetful unlimited (env.room [] pos) {} rule pos
  have paired := called {} {} ⟨initial, initial, trivial⟩
  change callName env (applyRule env (env.room [] pos) {}) name pos {} = _ at ran
  rw [ran] at paired
  generalize callName env (unguarded env (env.room [] pos) {}) name pos {} = left at paired
  cases paired with
  | @ok n _ u _ value _ =>
      have alike := (answers_of_sameMatch value).1
      cases n with
      | none => cases alike
      | some n => exact ⟨n, u, rfl, Option.some.inj alike⟩

/-- The nodes of what a run matches are, bare, derivable: without limits and without a memo the run
would match the same, and then so would evaluation.
-/
theorem exists_derivable_of_run (built : env.grammar.Built) {start : Name} {anchored : Bool}
    {root : Match} (ended : (run env start pos anchored).outcome = .ok (.matched root))
    : ∀ node ∈ root.walk,
        node.rule ≠ []
        → ∃ n, (env.lifted.withMemo false).Derivable n ∧ n.bare = node.bare := by
  have lifted : (run env.lifted start pos anchored).outcome = .ok (.matched root) := by
    rcases env.run_lifted start pos anchored with same | ⟨fault, stopped, -⟩
    · exact same.symm.trans ended
    · rw [ended] at stopped
      cases stopped
  have builtLifted : env.lifted.grammar.Built := built
  -- evaluation goes with matchers without a memo, whose nodes differ from these in identities
  have forgotten : ∃ root',
      (run (env.lifted.withMemo false) start pos anchored).outcome = .ok (.matched root')
      ∧ root'.bare = root.bare := by
    have same := env.lifted.withMemo_eq
    cases memoize : env.lifted.config.memoize with
    | false =>
        rw [memoize] at same
        exact ⟨root, same.symm ▸ lifted, rfl⟩
    | true =>
        rw [memoize] at same
        rw [← same] at lifted
        exact exists_matched_withMemo env.lifted builtLifted rfl rfl false lifted
  obtain ⟨root', matched, same⟩ := forgotten
  obtain ⟨⟨t, called⟩, -⟩ := call_of_run matched
  obtain ⟨found, u, evaluated, same'⟩ := evaluated_of_call rfl rfl called
  have builtAgain : (env.lifted.withMemo false).grammar.Built := built
  obtain ⟨-, -, derivable⟩ := callName_treeDerivable builtAgain (unguarded_madeBy builtAgain _) {}
    start pos {} (.initial _) trivial _ _ evaluated
  intro node inTree named
  obtain ⟨n, inTree', alike⟩ := Match.exists_mem_walk (same'.trans same) inTree
  have sameRule : n.rule = node.rule := by rw [← n.bare_rule, alike, node.bare_rule]
  exact ⟨n, derivable found rfl n inTree' (sameRule ▸ named), alike⟩

theorem checkStart_of_lookup {config : MatchConfig}
    (valid : config.validate = true → env.grammar.validate = .ok ()) {entry : Entry}
    (stands : env.grammar.lookup name = some entry)
    : checkStart (env.withConfig config) name = .ok () := by
  have resolved : (env.withConfig config).grammar.resolve name = .ok entry := by
    simp only [Grammar.resolve, withConfig, stands]
  cases validate : (env.withConfig config).config.validate with
  | false =>
      simp only [checkStart, validate, resolved]
      rfl
  | true =>
      have accepted : (env.withConfig config).grammar.validate = .ok () := valid validate
      simp only [checkStart, validate, accepted, resolved]
      rfl

theorem subparse_of_call {m : Match} {t : MatcherState} (checked : checkStart env name = .ok ())
    (called : env.call name pos {} = .ok (some m) t)
    : subparse env name pos = .ok (.matched m) := by
  have matched : matchFrom env name pos false {} = .ok (.matched m) t := by
    simp only [matchFrom, bind, EStateM.bind, called]
    rfl
  simp only [subparse, run, checked, matched]

/-- Without limits a fresh run of the rule that a node names finds the node again. -/
theorem exists_again_lifted (built : env.grammar.Built) {start : Name} {anchored : Bool}
    {root : Match} (ended : (run env start pos anchored).outcome = .ok (.matched root))
    {config : MatchConfig} (valid : config.validate = true → env.grammar.validate = .ok ())
    : ∀ node ∈ root.walk,
        node.rule ≠ []
        → ∃ again,
            subparse (env.withConfig config).lifted node.rule node.start = .ok (.matched again)
            ∧ again.bare = node.bare := by
  intro node inTree named
  obtain ⟨n, derivable, same⟩ := exists_derivable_of_run built ended node inTree named
  have sameRule : n.rule = node.rule := by rw [← n.bare_rule, same, node.bare_rule]
  have sameStart : n.start = node.start := by rw [← n.bare_start, same, node.bare_start]
  have builtAgain : (env.lifted.withMemo false).grammar.Built := built
  obtain ⟨entry, stands⟩ := derivable.exists_lookup
  rw [sameRule] at stands
  have fresh : ∃ again t,
      (env.withConfig config).lifted.call n.rule n.start {} = .ok (some again) t
      ∧ again.bare = n.bare := derivable.call builtAgain rfl rfl
  obtain ⟨again, t, called, same'⟩ := fresh
  rw [sameRule, sameStart] at called
  exact ⟨again, subparse_of_call (checkStart_of_lookup valid stands) called, same'.trans same⟩

/-- Every node of a match tree that a rule made can be derived again on its own: a fresh run of the
rule that it names, from where it starts, finds it again, rules, tags, spans and captures. A ceiling
on nesting can do no more than stop the fresh run.
-/
theorem run_rederived (built : env.grammar.Built) {start : Name} {anchored : Bool}
    {root : Match} (ended : (run env start pos anchored).outcome = .ok (.matched root))
    {config : MatchConfig} (unlimited : config.maxDepth = none)
    (valid : config.validate = true → env.grammar.validate = .ok ())
    : ∀ node ∈ root.walk,
        node.rule ≠ []
        → (config.ceiling = none
            → ∃ again,
                subparse (env.withConfig config) node.rule node.start = .ok (.matched again)
                ∧ again.bare = node.bare)
          ∧ ((∃ again,
                subparse (env.withConfig config) node.rule node.start = .ok (.matched again)
                ∧ again.bare = node.bare)
              ∨ (env.withConfig config).StoppedAtCeiling node.rule node.start false) := by
  intro node inTree named
  obtain ⟨again, found, same⟩ := exists_again_lifted built ended valid node inTree named
  constructor
  · intro unbounded
    have free : (env.withConfig config).config.isLimited = false := by
      simp [MatchConfig.isLimited, withConfig, unlimited, unbounded]
    rw [lifted_eq free] at found
    exact ⟨again, found, same⟩
  · have fresh := (env.withConfig config).run_lifted_or_stopped unlimited node.rule node.start false
    exact fresh.imp_left fun lifted => ⟨again, lifted.trans found, same⟩

/-- Both nodes of the chain of two letters are found again, the root and what it captured. -/
theorem run_rederived_chain
    : chain.grammar.Built
      ∧ chain.config.maxDepth = none
      ∧ chain.config.ceiling = none
      ∧ chain.config.validate = false
      ∧ ∃ root,
          (run chain "a" 0 true).outcome = .ok (.matched root)
          ∧ root.captured.map Match.start = [1]
          ∧ ∀ node ∈ root.walk,
              node.rule ≠ []
              → ∃ again,
                  subparse chain node.rule node.start = .ok (.matched again)
                  ∧ again.bare = node.bare := by
  obtain ⟨root, ended, starts⟩
      : ∃ root,
          (run chain "a" 0 true).outcome = .ok (.matched root)
          ∧ root.captured.map Match.start = [1] :=
    ⟨_, rfl, rfl⟩
  refine ⟨chain_built, rfl, rfl, rfl, root, ended, starts, fun node inTree named => ?_⟩
  have unlimited : chain.config.maxDepth = none := rfl
  have found := run_rederived chain_built ended unlimited (fun validate => by cases validate) node
    inTree named
  exact found.1 rfl

end RuleGrammar.MatchEnv
