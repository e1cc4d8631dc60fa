import RuleGrammar.Matcher.Parse
import RuleGrammar.Proofs.Grammar.LeftRank
import RuleGrammar.Proofs.Grammar.Nullability
import RuleGrammar.Proofs.Matcher.Halting
import RuleGrammar.Proofs.Matcher.Memoization
import RuleGrammar.Proofs.Matcher.Soundness

/-! Matching with a valid grammar. A call that is made before anything was consumed goes to a name
of lower rank, and only nullable names are matched without consuming anything, so the nesting of
calls is bounded by what is left of the subject and by the ranks.
-/

namespace RuleGrammar

/-- White space is a leaf of the grammar: a plain rule that tries no white space between its parts
and calls nothing.
-/
def Grammar.LeafSpace (g : Grammar) : Prop :=
  ∃ rule,
    g.lookup "ws" = some (.rule rule)
    ∧ rule.kind ≠ .rule
    ∧ ∀ name capture, ¬ (Expr.reference name capture).Part rule.expr

namespace MatchEnv

/-- One run without memory that stops for faults of the grammar only. -/
abbrev groundedRun (env : MatchEnv) : Coupling :=
  env.oneRun (fun _ => True) (fun fault => fault.isOfGrammar = true) fun _ => False

variable {env : MatchEnv}

theorem groundedRun_carries (env : MatchEnv) : env.groundedRun.Carries env env Eq :=
  env.oneRun_carries _ _ fun _ faulty => faulty

/-- A computation that is grounded in every state ends there with an answer or a fault of the
grammar.
-/
theorem groundedRun_fault {α : Type} {values : α → α → Prop} {m : MatchM α}
    (grounded : env.groundedRun.Lockstep values m m) {s t : MatcherState}
    (resolves : s.Resolves env.grammar) {fault : Fault} (ended : m s = .error fault t)
    : fault.isOfGrammar = true := by
  have paired := grounded s s ⟨rfl, resolves, trivial⟩
  rw [ended] at paired
  cases paired with
  | error faulty _ => exact faulty.2
  | excused excuse => cases excuse

/-- The fuel that a call of a name at an offset needs at most: what is left of the subject counts
for the height of all ranks, and one more application is for white space.
-/
def fuelFor (env : MatchEnv) (rank : Name → Nat) (height : Nat) (name : Name) (pos : Int) : Nat :=
  (env.subject.size - pos).toNat * (height + 1) + rank name + 2

/-- Further ahead any call needs less fuel. -/
theorem fuelFor_lt_of_moved {rank : Name → Nat} {height : Nat} {name callee : Name} {pos q : Int}
    (bounded : rank callee ≤ height) (ahead : env.subject.Ahead pos q) (moved : q ≠ pos)
    : env.fuelFor rank height callee q < env.fuelFor rank height name pos := by
  have less := Nat.mul_le_mul_right (height + 1) (Nat.succ_le_of_lt (ahead.rest_lt moved))
  rw [Nat.succ_mul] at less
  unfold fuelFor
  omega

-----------------------------------------------------------------------------------------
-- Grounded rules
-----------------------------------------------------------------------------------------

section Tagged

variable (tagged : ∀ rule ∈ env.grammar.visibleRules, rule.tag ≠ some [])

include tagged

variable (space : env.grammar.LeafSpace)

include space

/-- White space that is a leaf is grounded with fuel for a single application. -/
theorem space_grounded (fuel : Nat) (scope : Scope) (pos : Int)
    : env.groundedRun.Lockstep (env.groundedRun.SameMatch env.subject pos True)
        (callName env (unguarded env (fuel + 1) scope) "ws" pos)
        (callName env (unguarded env (fuel + 1) scope) "ws" pos) := by
  obtain ⟨leaf, stands, plain, calls⟩ := space
  refine Coupling.callName_lockstep (env.groundedRun_carries.resolve "ws") ?_
  intro entry found rule member
  obtain rfl := Option.some.inj (stands.symm.trans found)
  obtain rfl := List.mem_singleton.mp member
  have visible := Grammar.mem_visibleRules.mpr ⟨_, _, found, member⟩
  refine (env.groundedRun_carries.answerRule_nullable (fun _ => tagged rule visible) [] scope
    ?_ ?_).mono fun _ _ same => same.mono fun _ => trivial
  · exact fun sigspace => absurd (of_decide_eq_true sigspace) plain
  · exact fun reference => absurd reference (calls _ _)

/-- A rule of a ranked grammar is grounded if the fuel is enough for its name, and it stays at its
offset only if it is nullable. Induction on the fuel: a call from the same offset goes to a name of
lower rank, and any other is made where less of the subject is left.
-/
theorem unguarded_grounded {rank : Name → Nat} {height : Nat}
    (ranked : env.grammar.Ranked rank height) (fuel : Nat) {name : Name} {entry : Entry}
    (found : env.grammar.lookup name = some entry) {rule : Rule} (member : rule ∈ entry.rules)
    (scope : Scope) {pos : Int} (enough : env.fuelFor rank height name pos ≤ fuel)
    : env.groundedRun.Lockstep
        (env.groundedRun.SameMatch env.subject pos
          (rule.expr.nullable env.grammar.ruleTable.nullableNames = true))
        (unguarded env fuel scope rule pos) (unguarded env fuel scope rule pos) := by
  induction fuel generalizing name entry rule scope pos with
  | zero =>
      unfold fuelFor at enough
      omega
  | succ fuel ih =>
      have visible := Grammar.mem_visibleRules.mpr ⟨name, entry, found, member⟩
      refine env.groundedRun_carries.answerRule_nullable (fun _ => tagged rule visible) _ scope
        ?_ ?_
      · intro _ inner q _ _
        obtain ⟨more, rfl⟩ : ∃ more, fuel = more + 1 := by
          unfold fuelFor at enough
          exact ⟨fuel - 1, by omega⟩
        exact space_grounded tagged space more inner q
      · intro callee capture _ inner q ahead atEdge
        refine Coupling.callName_lockstep (env.groundedRun_carries.resolve callee) ?_
        intro other stands rule' member'
        have less : env.fuelFor rank height callee q < env.fuelFor rank height name pos := by
          by_cases here : q = pos
          · have falls := ranked.falls found member (atEdge here) stands
            unfold fuelFor
            rw [here]
            omega
          · exact fuelFor_lt_of_moved (ranked.bounded stands) ahead here
        refine (ih stands member' inner (by omega)).mono fun _ _ same => same.mono ?_
        exact RuleTable.mem_nullableNames (Grammar.mem_ruleTable_of_lookup stands) member'

/-- In a ranked grammar a call that nothing guards is grounded, if there is fuel for all ranks. -/
theorem callName_grounded {rank : Name → Nat} {height : Nat}
    (ranked : env.grammar.Ranked rank height) (name : Name) (scope : Scope) (pos : Int)
    : env.groundedRun.Lockstep (env.groundedRun.SameMatch env.subject pos True)
        (callName env (unguarded env (env.fuelFor rank height name pos) scope) name pos)
        (callName env (unguarded env (env.fuelFor rank height name pos) scope) name pos) := by
  refine Coupling.callName_lockstep (env.groundedRun_carries.resolve name) ?_
  intro entry found rule member
  exact (unguarded_grounded tagged space ranked _ found member scope (Nat.le_refl _)).mono
    fun _ _ same => same.mono fun _ => trivial

end Tagged

-----------------------------------------------------------------------------------------
-- The guard is never needed
-----------------------------------------------------------------------------------------

/-- With a valid grammar a call from a fresh state stops for faults of the grammar only, and not
at all if the grammar is without fault and the name stands for something. What nothing guards ends
in the fuel for all ranks, so the matcher goes with it.
-/
theorem call_of_valid (built : env.grammar.Built) (acyclic : env.grammar.leftCycle = [])
    (tagged : ∀ rule ∈ env.grammar.visibleRules, rule.tag ≠ some [])
    (space : env.grammar.LeafSpace) (unlimited : env.config.maxDepth = none)
    (unbounded : env.config.ceiling = none) {name : Name} {pos : Int} {fault : Fault}
    {t : MatcherState} (ended : env.call name pos {} = .error fault t)
    : fault.isOfGrammar = true
      ∧ ¬ (env.grammar.Faultless ∧ ∃ entry, env.grammar.lookup name = some entry) := by
  obtain ⟨rank, height, ranked⟩ := Grammar.exists_ranked acyclic
  have resolves := MatcherState.Resolves.initial env.grammar
  have paired := call_halting built unlimited unbounded (env.fuelFor rank height name pos) name
    pos resolves fun _ => .empty _ _
  rw [ended] at paired
  have grounded := callName_grounded tagged space ranked name {} pos
  have derived (faultless : env.grammar.Faultless)
      (stands : ∃ entry, env.grammar.lookup name = some entry) :=
    unguardedCall_derives faultless (env.fuelFor rank height name pos) stands pos {} resolves
      trivial
  generalize ran : callName env (unguarded env (env.fuelFor rank height name pos) {}) name pos {}
    = right at paired derived
  cases paired with
  | error same _ =>
      have ofGrammar := groundedRun_fault grounded resolves ran
      rw [same.1]
      refine ⟨ofGrammar, fun ⟨faultless, stands⟩ => ?_⟩
      rcases derived faultless stands with ⟨_, _, answered, -⟩ | ⟨_, _, stopped, out⟩
      · cases answered
      · cases stopped
        exact absurd ((Fault.isOutOfRoom_of_isOfGrammar ofGrammar).symm.trans out) (by simp)
  | excused out =>
      have inRoom := Fault.isOutOfRoom_of_isOfGrammar (groundedRun_fault grounded resolves ran)
      exact absurd (inRoom.symm.trans out) (by simp)

/-- A match stops only where its call does, and for the same fault. -/
theorem call_of_matchFrom {start : Name} {pos : Int} {anchored : Bool} {fault : Fault}
    {s t : MatcherState} (ended : matchFrom env start pos anchored s = .error fault t)
    : env.call start pos s = .error fault t := by
  rcases matchFrom_cases env start pos anchored s with
    ⟨_, _, called, stopped⟩ | ⟨_, _, -, -, matched⟩ | ⟨_, _, _, -, -, failed⟩
  · cases ended.symm.trans stopped
    exact called
  · cases ended.symm.trans matched
  · cases ended.symm.trans failed

/-- A valid grammar and a start that stands for something pass the checks before a match. -/
theorem checkStart_of_valid (valid : env.grammar.validate = .ok ()) {start : Name}
    (stands : ∃ entry, env.grammar.lookup start = some entry)
    : checkStart env start = .ok () := by
  obtain ⟨entry, found⟩ := stands
  have resolved : env.grammar.resolve start = .ok entry := by simp [Grammar.resolve, found]
  unfold checkStart
  rw [valid, resolved]
  split <;> rfl

/-- With a valid grammar a match never ends in a rule applied inside itself, nor too deep, nor out
of room: it ends in an outcome, or in a fault that lies in the grammar or in one of its classes. If
the start stands for something and all classes compile, it ends in an outcome.
-/
theorem run_of_valid (built : env.grammar.Built) (valid : env.grammar.validate = .ok ())
    (tagged : ∀ rule ∈ env.grammar.visibleRules, rule.tag ≠ some [])
    (space : env.grammar.LeafSpace) (unlimited : env.config.maxDepth = none)
    (unbounded : env.config.ceiling = none) (start : Name) (pos : Int) (anchored : Bool)
    : ((∃ outcome, (run env start pos anchored).outcome = .ok outcome)
        ∨ ∃ fault,
            (run env start pos anchored).outcome = .error fault
            ∧ fault.isOfGrammar = true)
      ∧ ((∃ entry, env.grammar.lookup start = some entry)
        → (∀ rule ∈ env.grammar.visibleRules, ∀ cls ∈ rule.expr.classes, cls.fault? = none)
        → ∃ outcome, (run env start pos anchored).outcome = .ok outcome) := by
  obtain ⟨checkedRules, acyclic⟩ := Grammar.checks_of_validate valid
  unfold run
  cases checked : checkStart env start with
  | error error =>
      refine ⟨Or.inr ⟨_, rfl, rfl⟩, fun stands _ => ?_⟩
      rw [checkStart_of_valid valid stands] at checked
      cases checked
  | ok _ =>
      simp only
      cases ended : matchFrom env start pos anchored {} with
      | ok outcome t => exact ⟨Or.inl ⟨outcome, rfl⟩, fun _ _ => ⟨outcome, rfl⟩⟩
      | error cause t =>
          have ⟨ofGrammar, faulty⟩ := call_of_valid built acyclic tagged space unlimited unbounded
            (call_of_matchFrom ended)
          refine ⟨Or.inr ⟨_, rfl, ?_⟩, fun stands compiles => ?_⟩
          · cases cause with
            | grammar error => rfl
            | charClass fault => rfl
            | _ => cases ofGrammar
          · have faultless := Grammar.faultless_of_checkRules checkedRules compiles
            exact absurd ⟨faultless, stands⟩ faulty

/-- A rule that goes on after one letter is never applied inside itself where it stands. -/
theorem run_of_valid_chain
    : chain.grammar.Built
      ∧ chain.grammar.validate = .ok ()
      ∧ (∀ rule ∈ chain.grammar.visibleRules, rule.tag ≠ some [])
      ∧ chain.grammar.LeafSpace
      ∧ chain.config.maxDepth = none
      ∧ chain.config.ceiling = none
      ∧ ∃ outcome, (run chain "a" 0 true).outcome = .ok outcome := by
  have valid : chain.grammar.validate = .ok () := by decide +kernel
  have tagged : ∀ rule ∈ chain.grammar.visibleRules, rule.tag ≠ some [] := by decide +kernel
  have compiles : ∀ rule ∈ chain.grammar.visibleRules, ∀ cls ∈ rule.expr.classes,
      cls.fault? = none := by decide +kernel
  have space : chain.grammar.LeafSpace := by
    refine ⟨_, rfl, by decide, fun name capture reference => ?_⟩
    cases reference with
    | repeated inside => cases inside
  exact ⟨chain_built, valid, tagged, space, rfl, rfl,
    (run_of_valid chain_built valid tagged space rfl rfl "a" 0 true).2 ⟨_, rfl⟩ compiles⟩

end MatchEnv

end RuleGrammar
