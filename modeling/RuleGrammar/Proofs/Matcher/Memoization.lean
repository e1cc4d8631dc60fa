import RuleGrammar.Matcher.Parse
import RuleGrammar.Proofs.Matcher.Forgetful
import RuleGrammar.Proofs.Matcher.Termination

/-! Keeping answers is transparent: with and without a memo, a match has one outcome. Rules that
halt are applied as they are without memory; a rule that does not halt is never known, and ends in
one fault either way.
-/

namespace RuleGrammar

namespace MatchEnv

variable {env : MatchEnv}

-----------------------------------------------------------------------------------------
-- With and without a memo
-----------------------------------------------------------------------------------------

/-- The same matcher with or without a memo. -/
def withMemo (env : MatchEnv) (memoize : Bool) : MatchEnv :=
  { env with config := { env.config with memoize } }

theorem withMemo_eq (env : MatchEnv) : env.withMemo env.config.memoize = env := rfl

theorem unguarded_withMemo (env : MatchEnv) (memoize : Bool) (fuel : Nat)
    : unguarded (env.withMemo memoize) fuel = unguarded env fuel := by
  induction fuel with
  | zero => rfl
  | succ fuel ih =>
      funext scope rule pos
      simp only [unguarded, ih]
      rfl

theorem halts_withMemo {memoize : Bool} {fuel : Nat} {rule : Rule} {pos : Int}
    : (env.withMemo memoize).Halts fuel rule pos ↔ env.Halts fuel rule pos := by
  simp only [Halts, unguarded_withMemo]
  rfl

theorem InOrder.withMemo {start : Int} {frames : List Frame} (order : env.InOrder start frames)
    (memoize : Bool)
    : (env.withMemo memoize).InOrder start frames :=
  ⟨order.distinct, order.visible, order.ahead⟩

theorem Stuck.withMemo {fuel : Nat} {frames : List Frame} (stuck : env.Stuck fuel frames)
    (memoize : Bool)
    : (env.withMemo memoize).Stuck fuel frames :=
  fun frame member halts => stuck frame member (halts_withMemo.mp halts)

/-- A matcher with a memo beside the same one without: the memo is sound, and the records of both
agree.
-/
abbrev memoBeside (env : MatchEnv) : Coupling :=
  Coupling.bare env.grammar (env.withMemo true).Faithful fun _ => False

theorem memoBeside_carries (env : MatchEnv)
    : env.memoBeside.Carries (env.withMemo true) (env.withMemo false) Eq := by
  have same : (env.withMemo false).grammar = (env.withMemo true).grammar := rfl
  exact (Coupling.bare_carries (env.withMemo true).Faithful _ same rfl).diagonal
    fun scope => bumps_faithful (env.withMemo true) scope.quiet

/-- Two runs that go with one run without memory, which ends in the fuel at hand, go with each
other.
-/
theorem memoBeside_of_unguarded {pos : Int} {left right middle}
    (first
      : (env.withMemo true).besideUnguarded.Paired
          ((env.withMemo true).besideUnguarded.SameMatch env.subject pos True) left middle)
    (second
      : (env.withMemo false).besideUnguarded.Paired
          ((env.withMemo false).besideUnguarded.SameMatch env.subject pos True) right middle)
    (ended : ¬ OutOfRoom middle)
    : env.memoBeside.Paired (env.memoBeside.SameMatch env.subject pos True) left right := by
  cases first with
  | excused excuse => exact absurd excuse ended
  | error fault kept =>
      cases second with
      | excused excuse => exact absurd excuse ended
      | error fault' kept' =>
          exact .error ⟨fault.1.trans fault'.1.symm, fault.2⟩
            ⟨kept.1, kept'.1, kept.2.2.1, kept.2.2.2.trans kept'.2.2.2.symm⟩
  | ok value kept =>
      cases second with
      | ok value' kept' =>
          have alike := answers_of_sameMatch value
          exact .ok
            (sameMatch_of_answers (alike.1.trans (answers_of_sameMatch value').1.symm) alike.2)
            ⟨kept.1, kept'.1, kept.2.2.1, kept.2.2.2.trans kept'.2.2.2.symm⟩

/-- Where no application in progress halts, a rule is applied alike with and without a memo if it
is evaluated alike when it is not in progress and does not halt. A rule that halts is applied as
it is without memory on both sides, and one that does not is not known.
-/
theorem memoBeside_guarded (built : env.grammar.Built)
    (unlimited : env.config.maxDepth = none) {start : Int} {room : Nat} {scope : Scope}
    (order : env.InOrder start scope.frames) (enough : scope.Enough env start room)
    (stuck : ∀ fuel, env.Stuck fuel scope.frames) {rule : Rule}
    (visible : rule ∈ env.grammar.visibleRules) {pos : Int}
    (ahead : env.subject.Ahead start pos)
    (fresh
      : ¬ scope.isActive ⟨rule.name, rule.tag, pos⟩ = true
        → (∀ fuel, ¬ env.Halts fuel rule pos)
        → env.memoBeside.Lockstep (env.memoBeside.SameMatch env.subject pos True)
            (applyFresh (env.withMemo true) room scope rule pos)
            (applyFresh (env.withMemo false) room scope rule pos))
    : env.memoBeside.Lockstep (env.memoBeside.SameMatch env.subject pos True)
        (applyRule (env.withMemo true) room scope rule pos)
        (applyRule (env.withMemo false) room scope rule pos) := by
  rintro s t ⟨resolves, resolves', sound, agrees⟩
  have built' memoize : (env.withMemo memoize).grammar.Built := built
  have unlimited' memoize : (env.withMemo memoize).config.maxDepth = none := unlimited
  by_cases halts : ∃ fuel, env.Halts fuel rule pos
  · obtain ⟨fuel, halts⟩ := halts
    have first := applyRule_halting (built' _) (unlimited' _) fuel (order.withMemo true) enough
      ((stuck fuel).withMemo true) visible ahead s t ⟨resolves, resolves', sound, agrees⟩
    have forgets (memoize : (env.withMemo false).config.memoize = true)
        : Memo.Sound (env.withMemo false) t.memo t.furthest := by cases memoize
    have second := applyRule_halting (built' _) (unlimited' _) fuel (order.withMemo false) enough
      ((stuck fuel).withMemo false) visible ahead t t ⟨resolves', resolves', forgets, .refl _⟩
    rw [unguarded_withMemo] at first second
    exact memoBeside_of_unguarded first second (halts scope t resolves')
  · have endless fuel (ends : env.Halts fuel rule pos) : False := halts ⟨fuel, ends⟩
    rw [applyRule_eq_guarded, applyRule_eq_guarded]
    have left := guarded_cases (unlimited' true) scope rule pos
      (applyFresh (env.withMemo true) room scope rule pos) s
    have right := guarded_cases (unlimited' false) scope rule pos
      (applyFresh (env.withMemo false) room scope rule pos) t
    rcases left with ⟨answer, memoize, known, -⟩ | ⟨active, ran⟩ | ⟨inactive, ran⟩
    · obtain ⟨fuel, ends⟩ := (sound memoize rule visible pos answer known).halts
      exact (endless fuel (halts_withMemo.mp ends)).elim
    · rcases right with ⟨-, memoize, -, -⟩ | ⟨-, ran'⟩ | ⟨inactive, -⟩
      · cases memoize
      · rw [ran, ran']
        exact .error ⟨rfl, rfl⟩ ⟨resolves, resolves', sound, agrees⟩
      · exact absurd active inactive
    · rcases right with ⟨-, memoize, -, -⟩ | ⟨active, -⟩ | ⟨-, ran'⟩
      · cases memoize
      · exact absurd active inactive
      · rw [ran, ran']
        exact fresh inactive endless s t ⟨resolves, resolves', sound, agrees⟩

/-- Where no application in progress halts, a rule is applied alike with and without a memo.
Induction on the room: a rule that does not halt joins those in progress; if it were answered, it
would halt, so no answer of it is ever kept.
-/
theorem applyRule_lockstep_memo (built : env.grammar.Built)
    (unlimited : env.config.maxDepth = none) {start : Int} (room : Nat) {scope : Scope}
    (order : env.InOrder start scope.frames) (enough : scope.Enough env start room)
    (stuck : ∀ fuel, env.Stuck fuel scope.frames) {rule : Rule}
    (visible : rule ∈ env.grammar.visibleRules) {pos : Int}
    (ahead : env.subject.Ahead start pos)
    : env.memoBeside.Lockstep (env.memoBeside.SameMatch env.subject pos True)
        (applyRule (env.withMemo true) room scope rule pos)
        (applyRule (env.withMemo false) room scope rule pos) := by
  induction room generalizing scope rule pos with
  | zero =>
      refine memoBeside_guarded built unlimited order enough stuck visible ahead ?_
      exact fun inactive _ => absurd (order.isActive_of_enough enough visible ahead) inactive
  | succ room ih =>
      refine memoBeside_guarded built unlimited order enough stuck visible ahead ?_
      intro inactive endless
      have innerOrder : env.InOrder start (scope.enter rule pos).frames :=
        order.cons inactive visible ahead
      have innerStuck fuel : env.Stuck fuel (scope.enter rule pos).frames :=
        List.forall_mem_cons.mpr ⟨endless fuel, stuck fuel⟩
      have answered : env.memoBeside.Lockstep (env.memoBeside.SameMatch env.subject pos True)
          (answerRule (env.withMemo true) scope rule pos fun inner =>
            callName (env.withMemo true) (applyRule (env.withMemo true) room inner))
          (answerRule (env.withMemo false) scope rule pos fun inner =>
            callName (env.withMemo false) (applyRule (env.withMemo false) room inner)) := by
        refine env.memoBeside_carries.answerRule rfl ?_
        rintro inner _ rfl frames - other otherVisible q further
        refine ih (frames ▸ innerOrder) ?_ (frames ▸ innerStuck) otherVisible
          (ahead.trans further)
        simpa only [Scope.Enough, frames] using enough.enter rule pos
      intro s t coupled
      have forgetful : (env.withMemo false).config.memoize = false := rfl
      simp only [applyFresh, evaluateRule_forgetful forgetful]
      refine (answered s t coupled).evaluateRule fun m n s' t' ran _ _ _ _ => ?_
      have ends := Halts.of_answered forgetful unlimited coupled.2.1 ran
      exact absurd (halts_withMemo.mp ends) (endless _)

-----------------------------------------------------------------------------------------
-- Whole runs
-----------------------------------------------------------------------------------------

/-- Without a ceiling, a call from a fresh state goes alike with and without a memo. -/
theorem call_lockstep_memo (built : env.grammar.Built)
    (unlimited : env.config.maxDepth = none) (unbounded : env.config.ceiling = none)
    (name : Name) (pos : Int)
    : env.memoBeside.Paired (env.memoBeside.SameMatch env.subject pos True)
        ((env.withMemo true).call name pos {}) ((env.withMemo false).call name pos {}) := by
  have enough := enough_of_unbounded unbounded [] pos
  have called := Coupling.callName_lockstep_of_visible (env.memoBeside_carries.resolve name)
    (fun rule visible => applyRule_lockstep_memo built unlimited (env.room [] pos) .empty enough
      (by simp [Stuck]) visible (Subject.Ahead.refl env.subject pos))
  have resolves := MatcherState.Resolves.initial env.grammar
  exact called {} {} ⟨resolves, resolves, fun _ => .empty _ _, .refl _⟩

end MatchEnv

/-- Outcomes that look the same: trees that agree but for the identities of their nodes, or
failures at one position.
-/
inductive Outcome.Alike : Outcome → Outcome → Prop
  | matched {m n : Match} (same : m.bare = n.bare) : Outcome.Alike (.matched m) (.matched n)
  | failed {f g : Failure} (same : f.position = g.position)
    : Outcome.Alike (.failed f) (.failed g)

/-- Runs that end alike: in outcomes that look the same, or in one fault. -/
inductive RunResult.Alike : RunResult → RunResult → Prop
  | ended {outcome outcome' s t} (same : Outcome.Alike outcome outcome')
    : RunResult.Alike ⟨.ok outcome, s⟩ ⟨.ok outcome', t⟩
  | stopped {fault s t} : RunResult.Alike ⟨.error fault, s⟩ ⟨.error fault, t⟩

theorem Failure.ofFurthest_position (start : Name) (pos : Int) (f : Furthest)
    : (Failure.ofFurthest start pos f).position
      = if f.position < 0 then pos else f.position := by
  unfold ofFurthest
  split <;> rfl

/-- Outcomes of matches of one rule from one offset that agree: trees that agree but for the
identities of their nodes, or the failures that two records in agreement amount to.
-/
inductive Outcome.Agrees (start : Name) (pos : Int) : Outcome → Outcome → Prop
  | matched {m n : Match} (same : m.bare = n.bare)
    : Outcome.Agrees start pos (.matched m) (.matched n)
  | failed {f g : Furthest} (agrees : f.Agrees g)
    : Outcome.Agrees start pos (.failed (.ofFurthest start pos f))
        (.failed (.ofFurthest start pos g))

theorem Outcome.Agrees.symm {start : Name} {pos : Int} {left right : Outcome}
    (agrees : Outcome.Agrees start pos left right)
    : Outcome.Agrees start pos right left := by
  cases agrees with
  | matched same => exact .matched same.symm
  | failed agrees => exact .failed agrees.symm

theorem Outcome.Agrees.alike {start : Name} {pos : Int} {left right : Outcome}
    (agrees : Outcome.Agrees start pos left right)
    : Outcome.Alike left right := by
  cases agrees with
  | matched same => exact .matched same
  | failed agrees =>
      refine .failed ?_
      rw [Failure.ofFurthest_position, Failure.ofFurthest_position, agrees.position]

namespace MatchEnv

variable {env : MatchEnv}

/-- Without limits a match from a fresh state goes alike with and without a memo. -/
theorem matchFrom_agrees_memo (built : env.grammar.Built)
    (unlimited : env.config.maxDepth = none) (unbounded : env.config.ceiling = none)
    (start : Name) (pos : Int) (anchored : Bool)
    : env.memoBeside.Paired (Outcome.Agrees start pos)
        (matchFrom (env.withMemo true) start pos anchored {})
        (matchFrom (env.withMemo false) start pos anchored {}) :=
  Coupling.matchFrom_paired (env.withMemo true) (env.withMemo false) rfl
    (env.memoBeside_carries.notes rfl rfl)
    (call_lockstep_memo built unlimited unbounded start pos) (fun _ _ same => .matched same)
    fun _ _ coupled => .failed coupled.2.2.2

theorem matchFrom_paired_memo (built : env.grammar.Built)
    (unlimited : env.config.maxDepth = none) (unbounded : env.config.ceiling = none)
    (start : Name) (pos : Int) (anchored : Bool)
    : env.memoBeside.Paired Outcome.Alike (matchFrom (env.withMemo true) start pos anchored {})
        (matchFrom (env.withMemo false) start pos anchored {}) :=
  (matchFrom_agrees_memo built unlimited unbounded start pos anchored).mono
    fun _ _ agrees => agrees.alike

/-- Runs of matchers that match alike end alike. -/
theorem run_alike_of_paired {left right : MatchEnv} {c : Coupling} {start : Name} {pos : Int}
    {anchored : Bool} (checked : checkStart left start = checkStart right start)
    (paired
      : c.Paired Outcome.Alike (matchFrom left start pos anchored {})
          (matchFrom right start pos anchored {}))
    (faults : ∀ f g, c.faults f g → f = g) (never : ∀ fault, ¬ c.excused fault)
    : (run left start pos anchored).Alike (run right start pos anchored) := by
  unfold run
  rw [checked]
  cases checkStart right start with
  | error error => exact .stopped
  | ok _ =>
      simp only
      generalize matchFrom left start pos anchored {} = ended at paired
      generalize matchFrom right start pos anchored {} = ended' at paired
      cases paired with
      | ok same _ => exact .ended same
      | error same _ =>
          obtain rfl := faults _ _ same
          exact .stopped
      | excused excuse => exact absurd excuse (never _)

/-- Keeping answers does not change how a run ends: with and without a memo it gives trees that
agree in rules, tags, spans and captures, or failures at one position, or one fault.
-/
theorem run_memoize (built : env.grammar.Built) (unlimited : env.config.maxDepth = none)
    (unbounded : env.config.ceiling = none) (start : Name) (pos : Int) (anchored : Bool)
    : (run (env.withMemo true) start pos anchored).Alike
        (run (env.withMemo false) start pos anchored) :=
  run_alike_of_paired rfl (matchFrom_paired_memo built unlimited unbounded start pos anchored)
    (fun _ _ same => same.1) fun _ => id

/-- Where a run without limits ends in an outcome, it does so with the memo switched on or off, and
the outcomes agree.
-/
theorem exists_outcome_withMemo (built : env.grammar.Built) (unlimited : env.config.maxDepth = none)
    (unbounded : env.config.ceiling = none) {memoize : Bool} {start : Name} {pos : Int}
    {anchored : Bool} {outcome : Outcome}
    (ended : (run (env.withMemo memoize) start pos anchored).outcome = .ok outcome)
    : ∃ other,
        (run (env.withMemo !memoize) start pos anchored).outcome = .ok other
        ∧ Outcome.Agrees start pos outcome other := by
  have paired := matchFrom_agrees_memo built unlimited unbounded start pos anchored
  obtain ⟨checked, t, ended⟩ := run_outcome_eq_ok.mp ended
  simp only [run_outcome_eq_ok]
  cases memoize with
  | true =>
      rw [ended] at paired
      generalize found : matchFrom (env.withMemo false) start pos anchored {} = right at paired
      cases paired with
      | excused excuse => cases excuse
      | @ok _ _ _ u agrees _ => exact ⟨_, ⟨checked, u, found⟩, agrees⟩
  | false =>
      rw [ended] at paired
      generalize found : matchFrom (env.withMemo true) start pos anchored {} = left at paired
      cases paired with
      | @ok _ _ u _ agrees _ => exact ⟨_, ⟨checked, u, found⟩, agrees.symm⟩

/-- Where a run without limits matches, it also matches with the memo switched on or off, and finds
a tree that is bare the same.
-/
theorem exists_matched_withMemo (env : MatchEnv) (built : env.grammar.Built)
    (unlimited : env.config.maxDepth = none) (unbounded : env.config.ceiling = none)
    (memoize : Bool) {start : Name} {pos : Int} {anchored : Bool} {root : Match}
    (matched : (run (env.withMemo !memoize) start pos anchored).outcome = .ok (.matched root))
    : ∃ root',
        (run (env.withMemo memoize) start pos anchored).outcome = .ok (.matched root')
        ∧ root'.bare = root.bare := by
  obtain ⟨other, ended, agrees⟩ := exists_outcome_withMemo built unlimited unbounded matched
  rw [Bool.not_not] at ended
  cases agrees with
  | matched same => exact ⟨_, ended, same.symm⟩

/-- A rule that matches one letter and then itself, if it can. -/
def chainRule : Rule where
  name := "a"
  expr := .sequence
    [.literal "x", .repetition (.reference "a" (some "next")) 0 (some 1) none false]
  kind := .rule

/-- A matcher for that rule over a text of two letters. -/
def chain : MatchEnv where
  grammar := ⟨⟨"chain", [("a", .rule chainRule)]⟩, []⟩
  subject := ⟨#['x', 'x']⟩
  config := { ceiling := none }

theorem chain_built : chain.grammar.Built := by
  intro layer member
  obtain rfl := List.mem_singleton.mp member
  have done : Layer.register { name := "chain" } "a" chainRule
      = .ok (chainRule, chain.grammar.own) := rfl
  exact .registered (.empty "chain") done

theorem run_memoize_chain
    : chain.grammar.Built
      ∧ chain.config.maxDepth = none
      ∧ chain.config.ceiling = none
      ∧ (run (chain.withMemo true) "a" 0 true).Alike (run (chain.withMemo false) "a" 0 true) :=
  ⟨chain_built, rfl, rfl, run_memoize chain_built rfl rfl "a" 0 true⟩

end MatchEnv

end RuleGrammar
