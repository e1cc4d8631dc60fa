import RuleGrammar.Proofs.Matcher.Nesting

/-! Matching without memory: a rule is applied by evaluating its body, whatever is known already
or in progress. It may go on for ever, so it is given fuel. How it ends does not depend on the
state or the scope, nor on the fuel once there is enough.
-/

namespace RuleGrammar

/-- Applies a rule by evaluating its body, with fuel for so many nested applications. -/
def unguarded (env : MatchEnv) : Nat → Scope → Rule → Int → MatchM (Option Match)
  | 0, _, rule, pos => throw (.outOfRoom rule.name pos)
  | fuel + 1, scope, rule, pos =>
      answerRule env scope rule pos fun inner => callName env (unguarded env fuel inner)

-----------------------------------------------------------------------------------------
-- Runs that differ in identities and in what they keep
-----------------------------------------------------------------------------------------

namespace Coupling

/-- Two runs over one grammar whose matches agree but for identities. Their memos and their records
of the furthest failures are related, and neither is out of room.
-/
def bare (g : Grammar) (keeps : Memo → Furthest → Memo → Furthest → Prop) (excused : Fault → Prop)
    : Coupling where
  states s t :=
    s.Resolves g
    ∧ t.Resolves g
    ∧ keeps s.memo s.furthest t.memo t.furthest
  faults f g := f = g ∧ f.isOutOfRoom = false
  excused := excused
  view := Match.bare
  view_stop := Match.bare_stop
  view_ofLog := by
    intro s t _ info log log' same
    rw [Match.bare_ofLog, Match.bare_ofLog, same]
  counted coupled := coupled

/-- A relation between what two runs keep survives one failure noted by both, as far as they are
not quiet.
-/
def Bumps (keeps : Memo → Furthest → Memo → Furthest → Prop) (quiet quiet' : Bool) : Prop :=
  ∀ memo f memo' f' note,
    keeps memo f memo' f'
    → keeps memo (if quiet then f else f.note note) memo' (if quiet' then f' else f'.note note)

/-- Quiet runs note nothing. -/
theorem bumps_quiet (keeps : Memo → Furthest → Memo → Furthest → Prop) : Bumps keeps true true :=
  fun _ _ _ _ _ kept => by simpa using kept

section Bare

variable {g : Grammar} {keeps : Memo → Furthest → Memo → Furthest → Prop}
  {excused : Fault → Prop}

/-- Computations that leave the resolved names, the memos and the furthest failures as they are,
or add to the latter alike, are in lockstep.
-/
theorem bare_modify {left right : MatchM Unit}
    (ended
      : ∀ s t,
          keeps s.memo s.furthest t.memo t.furthest
          → ∃ s' t',
              left s = .ok () s'
              ∧ right t = .ok () t'
              ∧ s'.resolved = s.resolved
              ∧ t'.resolved = t.resolved
              ∧ keeps s'.memo s'.furthest t'.memo t'.furthest)
    : (bare g keeps excused).Lockstep (fun _ _ => True) left right := by
  rintro s t ⟨resolves, resolves', kept⟩
  obtain ⟨s', t', ran, ran', resolved, resolved', kept'⟩ := ended s t kept
  rw [ran, ran']
  refine .ok trivial ⟨?_, ?_, kept'⟩
  · simpa only [MatcherState.Resolves, resolved] using resolves
  · simpa only [MatcherState.Resolves, resolved'] using resolves'

/-- Bare runs carry two matchers over one grammar and one subject, from scopes as quiet as the
relation between what they keep allows.
-/
theorem bare_carries (keeps : Memo → Furthest → Memo → Furthest → Prop) (excused : Fault → Prop)
    {env env' : MatchEnv} (grammar : env'.grammar = env.grammar)
    (subject : env'.subject = env.subject)
    : (bare env.grammar keeps excused).Carries env env'
        (fun scope scope' => Bumps keeps scope.quiet scope'.quiet) where
  subject := subject
  enter _ _ bumps := bumps
  hush _ := bumps_quiet keeps
  notes := by
    intro scope scope' bumps innermost
    constructor
    · refine fun pos what => bare_modify fun s t kept => ?_
      obtain ⟨s', ran, resolved, memo, noted⟩ := expect_spec scope pos what s
      obtain ⟨t', ran', resolved', memo', noted'⟩ := expect_spec scope' pos what t
      refine ⟨s', t', ran, ran', resolved, resolved', ?_⟩
      rw [memo, memo', noted, noted', innermost]
      exact bumps _ _ _ _ _ kept
    · refine fun pos what => bare_modify fun s t kept => ?_
      obtain ⟨s', ran, resolved, memo, noted⟩ := expectGoal_spec scope pos what s
      obtain ⟨t', ran', resolved', memo', noted'⟩ := expectGoal_spec scope' pos what t
      refine ⟨s', t', ran, ran', resolved, resolved', ?_⟩
      rw [memo, memo', noted, noted', innermost]
      exact bumps _ _ _ _ _ kept
  resolve name := by
    rintro s t ⟨resolves, resolves', kept⟩
    have resolvesRight : t.Resolves env'.grammar := grammar.symm ▸ resolves'
    rcases resolveOnce_spec name resolves with
      ⟨entry, resolved, found, ran, after⟩ | ⟨missing, ran⟩
    · rcases resolveOnce_spec name resolvesRight with
        ⟨entry', resolved', found', ran', after'⟩ | ⟨missing', -⟩
      · rw [ran, ran']
        have same : entry = entry' := by
          rw [grammar, found] at found'
          exact Option.some.inj found'
        exact .ok ⟨same, found⟩ ⟨after, grammar ▸ after', kept⟩
      · rw [grammar, found] at missing'
        cases missing'
    · rcases resolveOnce_spec name resolvesRight with
        ⟨entry', _, found', -, -⟩ | ⟨-, ran'⟩
      · rw [grammar, missing] at found'
        cases found'
      · rw [ran, ran', grammar]
        exact .error ⟨rfl, rfl⟩ ⟨resolves, resolves', kept⟩
  traceStart {scope scope'} rule pos _ := bare_modify fun s t kept => by
    obtain ⟨trace, ran⟩ := traceStart_spec env scope rule pos s
    obtain ⟨trace', ran'⟩ := traceStart_spec env' scope' rule pos t
    exact ⟨_, _, ran, ran', rfl, rfl, kept⟩
  traceEnd {scope scope'} rule pos m n _ _ := bare_modify fun s t kept => by
    obtain ⟨trace, ran⟩ := traceEnd_spec env scope rule pos m s
    obtain ⟨trace', ran'⟩ := traceEnd_spec env' scope' rule pos n t
    exact ⟨_, _, ran, ran', rfl, rfl, kept⟩
  ordinary _ faulty := ⟨rfl, Fault.isOutOfRoom_of_isOfGrammar faulty⟩

end Bare

-----------------------------------------------------------------------------------------
-- Fuel
-----------------------------------------------------------------------------------------

/-- A run goes with one of less fuel, unless the latter runs out of it. Induction on the smaller
fuel: bodies are evaluated alike where the calls from them are.
-/
theorem unguarded_lockstep {c : Coupling} {env env' : MatchEnv} {beside : Scope → Scope → Prop}
    (carries : c.Carries env env' beside)
    (excuse : ∀ rule pos, c.excused (.outOfRoom rule pos)) {fuel fuel' : Nat}
    (le : fuel ≤ fuel') {scope scope' : Scope} (near : beside scope scope') (rule : Rule)
    (pos : Int)
    : c.Lockstep (c.SameMatch env.subject pos True) (unguarded env fuel' scope rule pos)
        (unguarded env' fuel scope' rule pos) := by
  induction fuel generalizing fuel' scope scope' rule pos with
  | zero => exact .throw_excused (excuse _ _)
  | succ fuel ih =>
      obtain ⟨more, rfl⟩ : ∃ more, fuel' = more + 1 := ⟨fuel' - 1, by omega⟩
      exact carries.answerRule near fun inner inner' nearInner _ _ other _ q _ =>
        ih (by omega) nearInner other q

/-- Bare runs the right one of which may run out of fuel. -/
abbrev fueled (g : Grammar) (keeps : Memo → Furthest → Memo → Furthest → Prop) : Coupling :=
  bare g keeps fun fault => fault.isOutOfRoom = true

/-- Two runs without memory, from states that keep what is related, end alike. -/
theorem unguarded_paired {env : MatchEnv} (keeps : Memo → Furthest → Memo → Furthest → Prop)
    {fuel fuel' : Nat} (le : fuel ≤ fuel') (scope scope' : Scope)
    (bumps : Bumps keeps scope.quiet scope'.quiet) (rule : Rule) (pos : Int)
    {s t : MatcherState} (resolves : s.Resolves env.grammar)
    (resolves' : t.Resolves env.grammar)
    (kept : keeps s.memo s.furthest t.memo t.furthest)
    : (fueled env.grammar keeps).Paired
        ((fueled env.grammar keeps).SameMatch env.subject pos True)
        (unguarded env fuel' scope rule pos s) (unguarded env fuel scope' rule pos t) := by
  have carries := bare_carries keeps (fun fault => fault.isOutOfRoom = true)
    (rfl : env.grammar = env.grammar) rfl
  exact unguarded_lockstep carries (fun _ _ => rfl) le bumps rule pos s t
    ⟨resolves, resolves', kept⟩

end Coupling

/-- A run has ended for want of room or fuel. -/
def OutOfRoom {α : Type} : EStateM.Result Fault MatcherState α → Prop
  | .ok _ _ => False
  | .error fault _ => fault.isOutOfRoom = true

/-- Where the right run did not run out of fuel, the left one did not either. -/
theorem Coupling.Paired.not_outOfRoom {g : Grammar}
    {keeps : Memo → Furthest → Memo → Furthest → Prop} {α β : Type} {values : α → β → Prop}
    {left right}
    (paired : (fueled g keeps).Paired values left right) (ended : ¬ OutOfRoom right)
    : ¬ OutOfRoom left := by
  cases paired with
  | ok _ _ => exact id
  | @error f g s t fault _ =>
      intro out
      exact absurd (fault.2.symm.trans out) (by simp)
  | excused excuse => exact absurd excuse ended

/-- Any run goes with one that runs out of fuel. -/
theorem OutOfRoom.paired {g : Grammar} {keeps : Memo → Furthest → Memo → Furthest → Prop}
    {α β : Type} {values : α → β → Prop} {left right} (out : OutOfRoom right)
    : (Coupling.fueled g keeps).Paired values left right := by
  cases right with
  | ok _ _ => cases out
  | error fault t => exact .excused out

namespace MatchEnv

variable {env : MatchEnv} {fuel fuel' : Nat} {rule : Rule} {pos : Int}

/-- A rule evaluated at an offset with so much fuel never runs out of it, whatever the scope and
the state.
-/
def Halts (env : MatchEnv) (fuel : Nat) (rule : Rule) (pos : Int) : Prop :=
  ∀ scope s,
    s.Resolves env.grammar
    → ¬ OutOfRoom (unguarded env fuel scope rule pos s)

/-- One run that does not run out of fuel shows that none does, nor with more fuel. -/
theorem Halts.of_run {scope : Scope} {s : MatcherState} (resolves : s.Resolves env.grammar)
    (ended : ¬ OutOfRoom (unguarded env fuel scope rule pos s)) (le : fuel ≤ fuel')
    : env.Halts fuel' rule pos := by
  intro scope' s' resolves'
  have paired := Coupling.unguarded_paired (fun _ _ _ _ => True) le scope' scope
    (fun _ _ _ _ _ kept => kept) rule pos resolves' resolves trivial
  exact paired.not_outOfRoom ended

/-- A rule that does not halt in so much fuel runs out of it from every state. -/
theorem outOfRoom_of_not_halts (endless : ¬ env.Halts fuel rule pos) (scope : Scope)
    {s : MatcherState} (resolves : s.Resolves env.grammar)
    : OutOfRoom (unguarded env fuel scope rule pos s) := by
  by_cases out : OutOfRoom (unguarded env fuel scope rule pos s)
  · exact out
  · exact absurd (Halts.of_run resolves out (Nat.le_refl _)) endless

theorem Halts.mono (halts : env.Halts fuel rule pos) (le : fuel ≤ fuel')
    : env.Halts fuel' rule pos :=
  .of_run (MatcherState.Resolves.initial env.grammar) (halts {} {} (.initial env.grammar)) le

/-- With more fuel than enough, a run is the same. -/
theorem Halts.unguarded_eq (halts : env.Halts fuel rule pos) (le : fuel ≤ fuel')
    (scope : Scope) {s : MatcherState} (resolves : s.Resolves env.grammar)
    : unguarded env fuel' scope rule pos s = unguarded env fuel scope rule pos s := by
  have carries := env.oneRun_carries (fun _ => True) (fun fault => fault.isOutOfRoom = true)
    fun _ faulty => faulty
  have paired := Coupling.unguarded_lockstep carries (fun _ _ => rfl) le
    (rfl : scope = scope) rule pos s s ⟨rfl, resolves, trivial⟩
  have ended := halts scope s resolves
  generalize unguarded env fuel' scope rule pos s = left at paired
  generalize unguarded env fuel scope rule pos s = right at paired ended
  cases paired with
  | ok value kept => rw [oneRun_same value, kept.1]
  | error fault kept => rw [fault.1, kept.1]
  | excused excuse => exact absurd excuse ended

-----------------------------------------------------------------------------------------
-- Settled answers
-----------------------------------------------------------------------------------------

/-- The answer of a rule at an offset is settled once the failures of a record have been noted: with
enough fuel, from any state whose record holds that one or in a quiet scope, the rule gives that
answer and the record stays in agreement with what it was.
-/
def Settled (env : MatchEnv) (rule : Rule) (pos : Int) (answer : Option Match) (reach : Furthest)
    : Prop :=
  ∃ fuel, ∀ scope s,
    s.Resolves env.grammar
    → scope.quiet = true ∨ reach.Within s.furthest
    → ∃ found t,
        unguarded env fuel scope rule pos s = .ok found t
        ∧ answer.map Match.bare = found.map Match.bare
        ∧ (∀ m ∈ answer, env.subject.Ahead pos m.stop)
        ∧ t.Resolves env.grammar
        ∧ t.furthest.Agrees s.furthest

theorem Settled.mono {answer : Option Match} {reach reach' : Furthest}
    (settled : env.Settled rule pos answer reach) (within : reach.Within reach')
    : env.Settled rule pos answer reach' := by
  obtain ⟨fuel, settled⟩ := settled
  exact ⟨fuel, fun scope s resolves far =>
    settled scope s resolves (far.imp_right within.trans)⟩

/-- What the answers have in common where a run goes with another: none was found, or matches
that agree but for identities and stop ahead.
-/
theorem answers_of_sameMatch {g : Grammar} {keeps : Memo → Furthest → Memo → Furthest → Prop}
    {excused : Fault → Prop} {subject : Subject} {m n : Option Match}
    (same : (Coupling.bare g keeps excused).SameMatch subject pos True m n)
    : m.map Match.bare = n.map Match.bare ∧ ∀ a ∈ m, subject.Ahead pos a.stop := by
  cases same with
  | missed => exact ⟨rfl, by simp⟩
  | found same ahead _ => exact ⟨congrArg some same, by simpa using ahead⟩

theorem sameMatch_of_answers {g : Grammar} {keeps : Memo → Furthest → Memo → Furthest → Prop}
    {excused : Fault → Prop} {subject : Subject} {m n : Option Match}
    (same : m.map Match.bare = n.map Match.bare) (ahead : ∀ a ∈ m, subject.Ahead pos a.stop)
    : (Coupling.bare g keeps excused).SameMatch subject pos True m n := by
  cases m with
  | none =>
      cases n with
      | none => exact .missed
      | some n => cases same
  | some m =>
      cases n with
      | none => cases same
      | some n => exact .found (Option.some.inj same) (ahead m rfl) fun _ => trivial

/-- An answer that a run gave is settled at the record that the run has left. The run is repeated
from a state whose record holds that one: either the record of the new run still agrees with what it
was, or that of the old run has come to hold more, which it does not in the end.
-/
theorem Settled.of_run {scope : Scope} {s t : MatcherState} {answer found : Option Match}
    (loud : scope.quiet = false) (resolves : s.Resolves env.grammar)
    (ran : unguarded env fuel scope rule pos s = .ok found t)
    (same : answer.map Match.bare = found.map Match.bare)
    (ahead : ∀ m ∈ answer, env.subject.Ahead pos m.stop)
    : env.Settled rule pos answer t.furthest := by
  refine ⟨fuel, fun scope' s' resolves' far => ?_⟩
  have bumps : Coupling.Bumps
      (fun _ f _ f' =>
        f.Agrees s'.furthest ∨ scope'.quiet = false ∧ ¬ f'.Within s'.furthest)
      scope'.quiet scope.quiet := by
    intro _ f _ f' note kept
    cases quiet : scope'.quiet with
    | true => simpa [quiet] using kept
    | false =>
        simp only [quiet, loud, Bool.false_eq_true, if_false, true_and] at kept ⊢
        by_cases held : (f'.note note).Within s'.furthest
        · have before : f'.Within s'.furthest := (Furthest.Within.note f' note).trans held
          have agrees := kept.resolve_right (not_not_intro before)
          exact Or.inl ((agrees.note note).trans held.note_agrees)
        · exact Or.inr held
  have paired := Coupling.unguarded_paired _ (Nat.le_refl fuel) scope' scope bumps rule pos
    resolves' resolves (Or.inl (.refl _))
  rw [ran] at paired
  generalize unguarded env fuel scope' rule pos s' = left at paired
  cases paired with
  | @ok again _ t' _ value kept =>
      obtain ⟨after, -, stood⟩ := kept
      refine ⟨again, t', rfl, same.trans (answers_of_sameMatch value).1.symm, ahead, after, ?_⟩
      rcases stood with stood | ⟨loud', overtaken⟩
      · exact stood
      · rcases far with quiet | held
        · rw [quiet] at loud'
          cases loud'
        · exact absurd held overtaken

/-- A rule with a settled answer halts. -/
theorem Settled.halts {answer : Option Match} {reach : Furthest}
    (settled : env.Settled rule pos answer reach)
    : ∃ fuel, env.Halts fuel rule pos := by
  obtain ⟨fuel, settled⟩ := settled
  have resolves := MatcherState.Resolves.initial env.grammar
  obtain ⟨found, t, ran, -⟩ := settled { quiet := true } {} resolves (Or.inl rfl)
  exact ⟨fuel, .of_run resolves (by rw [ran]; exact id) (Nat.le_refl _)⟩

/-- With any fuel, a rule with a settled answer gives it or runs out of fuel. -/
theorem Settled.answers {answer : Option Match} {reach : Furthest}
    (settled : env.Settled rule pos answer reach) (fuel : Nat) (scope : Scope)
    {s : MatcherState} (resolves : s.Resolves env.grammar)
    (far : scope.quiet = true ∨ reach.Within s.furthest)
    : OutOfRoom (unguarded env fuel scope rule pos s)
      ∨ ∃ found t,
          unguarded env fuel scope rule pos s = .ok found t
          ∧ answer.map Match.bare = found.map Match.bare
          ∧ (∀ m ∈ answer, env.subject.Ahead pos m.stop)
          ∧ t.Resolves env.grammar
          ∧ t.furthest.Agrees s.furthest := by
  obtain ⟨enough, settled⟩ := settled
  obtain ⟨found, t, ran, rest⟩ := settled scope s resolves far
  by_cases out : OutOfRoom (unguarded env fuel scope rule pos s)
  · exact Or.inl out
  · refine Or.inr ⟨found, t, ?_, rest⟩
    rw [← ran]
    rcases Nat.le_total fuel enough with le | le
    · exact ((Halts.of_run resolves out (Nat.le_refl fuel)).unguarded_eq le scope
        resolves).symm
    · have halts : env.Halts enough rule pos :=
        .of_run resolves (by rw [ran]; exact id) (Nat.le_refl _)
      exact halts.unguarded_eq le scope resolves

end MatchEnv

end RuleGrammar
