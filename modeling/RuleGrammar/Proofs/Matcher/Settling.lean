import RuleGrammar.Proofs.Matcher.Reuse
import RuleGrammar.Proofs.Matcher.Rounds

/-! What the matcher answers, whatever it knows, is in the middle of, or is limited by, evaluation
answers with enough fuel. Where an expression ends is therefore settled by the grammar, the subject
and the offset, unless there is a fault.
-/

namespace RuleGrammar

/-- A run goes with an evaluation that keeps its answer, if it goes with the answer and what is kept
leaves the states coupled.
-/
theorem Coupling.Paired.evaluateRule_right {c : Coupling} {env : MatchEnv} {scope : Scope}
    {rule : Rule} {pos : Int} {call : Scope → Name → Int → MatchM (Option Match)}
    {values : Option Match → Option Match → Prop} {t : MatcherState} {left}
    (paired : c.Paired values left (RuleGrammar.answerRule env scope rule pos call t))
    (keeps
      : ∀ m n s' t',
          left = .ok m s'
          → values m n
          → c.states s' t'
          → env.config.memoize = true
          → scope.quiet = false
          → c.states s' { t' with memo := t'.memo.insert ⟨rule.name, rule.tag, pos⟩ n })
    : c.Paired values left (RuleGrammar.evaluateRule env scope rule pos call t) := by
  unfold RuleGrammar.evaluateRule
  simp only [Bind.bind, EStateM.bind]
  generalize RuleGrammar.answerRule env scope rule pos call t = right at paired
  cases paired with
  | error fault kept => exact .error fault kept
  | excused excuse => exact .excused excuse
  | @ok m n s' t' value kept =>
      rcases remember_spec env scope ⟨rule.name, rule.tag, pos⟩ n t' with
        ⟨memoize, loud, ran⟩ | ⟨-, ran⟩
      · simp only [ran]
        exact .ok value (keeps m n s' t' rfl value kept memoize loud)
      · simp only [ran]
        exact .ok value kept

namespace MatchEnv

variable {env : MatchEnv}

-----------------------------------------------------------------------------------------
-- Fuel that is enough
-----------------------------------------------------------------------------------------

/-- So much fuel is enough from an offset on: a visible rule that halts there or further ahead halts
in it.
-/
def Ample (env : MatchEnv) (start : Int) (fuel : Nat) : Prop :=
  ∀ rule ∈ env.grammar.visibleRules, ∀ pos,
    env.subject.Ahead start pos
    → ∀ enough, env.Halts enough rule pos → env.Halts fuel rule pos

/-- Some fuel is enough for all of some rules at some offsets, by induction on them. -/
theorem exists_halts (env : MatchEnv) (places : List (Rule × Int))
    : ∃ fuel, ∀ place ∈ places, ∀ enough,
        env.Halts enough place.1 place.2 → env.Halts fuel place.1 place.2 := by
  induction places with
  | nil => exact ⟨0, by simp⟩
  | cons place rest ih =>
      obtain ⟨fuel, ample⟩ := ih
      by_cases halts : ∃ enough, env.Halts enough place.1 place.2
      · obtain ⟨enough, halts⟩ := halts
        refine ⟨max enough fuel, List.forall_mem_cons.mpr ⟨fun _ _ => ?_, fun other member => ?_⟩⟩
        · exact halts.mono (Nat.le_max_left _ _)
        · exact fun more ends => (ample other member more ends).mono (Nat.le_max_right _ _)
      · refine ⟨fuel, List.forall_mem_cons.mpr ⟨fun enough ends => ?_, ample⟩⟩
        exact absurd ⟨enough, ends⟩ halts

/-- There are finitely many rules and offsets ahead, so that some fuel is enough. -/
theorem exists_ample (env : MatchEnv) (start : Int) : ∃ fuel, env.Ample start fuel := by
  obtain ⟨fuel, ample⟩ := env.exists_halts
    ((List.range ((env.subject.size - start).toNat + 1)).flatMap fun (i : Nat) =>
      env.grammar.visibleRules.map fun rule => (rule, start + i))
  refine ⟨fuel, fun rule visible pos ⟨below, above⟩ => ample (rule, pos) ?_⟩
  refine List.mem_flatMap.mpr ⟨(pos - start).toNat, List.mem_range.mpr (by omega), ?_⟩
  exact List.mem_map.mpr ⟨rule, visible, by rw [Int.toNat_of_nonneg (by omega), Int.add_comm, Int.sub_add_cancel]⟩

/-- Fuel that is enough is enough further ahead. -/
theorem Ample.ahead {start pos : Int} {fuel : Nat} (ample : env.Ample start fuel)
    (ahead : env.subject.Ahead start pos)
    : env.Ample pos fuel :=
  fun rule visible q further => ample rule visible q (ahead.trans further)

-----------------------------------------------------------------------------------------
-- Evaluation beside the matcher
-----------------------------------------------------------------------------------------

/-- Evaluation that nothing guards beside the matcher, which any fault may stop alone. -/
abbrev besideAnswers (env : MatchEnv) : Coupling :=
  Coupling.bare env.grammar (fun _ f memo' f' => env.Faithful memo' f' {} f) fun _ => True

theorem besideAnswers_carries (env : MatchEnv) : env.besideAnswers.Carries env env Eq :=
  (Coupling.bare_carries _ _ rfl rfl).diagonal fun scope _ f memo' f' note kept =>
    bumps_faithful env scope.quiet memo' f' {} f note kept

/-- Where matches agree but for identities and one of them stops ahead, so does the other. -/
theorem ahead_of_alike {subject : Subject} {pos : Int} {m n : Option Match}
    (same : m.map Match.bare = n.map Match.bare) (ahead : ∀ a ∈ m, subject.Ahead pos a.stop)
    : ∀ a ∈ n, subject.Ahead pos a.stop := by
  rintro b rfl
  obtain ⟨a, rfl, alike⟩ := Option.map_eq_some_iff.mp same
  rw [← b.bare_stop, ← alike, a.bare_stop]
  exact ahead a rfl

/-- With fuel that is enough, a rule gives its settled answer. -/
theorem Settled.paired_right {fuel : Nat} {rule : Rule} {pos : Int} {answer : Option Match}
    {s t : MatcherState} (settled : env.Settled rule pos answer t.furthest)
    (halts : env.Halts fuel rule pos) (scope : Scope) (coupled : env.besideAnswers.states s t)
    : env.besideAnswers.Paired (env.besideAnswers.SameMatch env.subject pos True)
        (unguarded env fuel scope rule pos s) (.ok answer t) := by
  obtain ⟨resolves, resolves', sound, agrees⟩ := coupled
  rcases settled.answers fuel scope resolves (Or.inr (.of_agrees agrees)) with
    out | ⟨found, s', ran, alike, ahead, after, stood⟩
  · exact absurd out (halts scope s resolves)
  · rw [ran]
    exact .ok (sameMatch_of_answers alike.symm (ahead_of_alike alike ahead))
      ⟨after, resolves', sound, agrees.trans stood.symm⟩

/-- A run that goes with one that answers has halted, and goes with it on any fuel that is enough. -/
theorem Ample.paired {fuel : Nat} {rule : Rule} {pos : Int} (ample : env.Ample pos fuel)
    (visible : rule ∈ env.grammar.visibleRules) (scope : Scope) {s : MatcherState}
    (resolves : s.Resolves env.grammar) {values : Option Match → Option Match → Prop} {right}
    (paired
      : env.besideAnswers.Paired values (unguarded env (fuel + 1) scope rule pos s) right)
    : env.besideAnswers.Paired values (unguarded env fuel scope rule pos s) right := by
  cases right with
  | error fault t => exact .excused trivial
  | ok n t =>
      have ended : ¬ OutOfRoom (unguarded env (fuel + 1) scope rule pos s) := by
        generalize unguarded env (fuel + 1) scope rule pos s = left at paired
        cases paired with
        | ok _ _ => exact id
      have halts := ample rule visible pos (.refl _ _) _ (.of_run resolves ended (Nat.le_refl _))
      rwa [halts.unguarded_eq (Nat.le_succ fuel) scope resolves] at paired

/-- A guard lets through what evaluation gives with fuel that is enough: what is known is settled. -/
theorem Ample.guarded {start : Int} {fuel : Nat} (ample : env.Ample start fuel) {scope : Scope}
    {rule : Rule} (visible : rule ∈ env.grammar.visibleRules) {pos : Int}
    (ahead : env.subject.Ahead start pos) {right : MatchM (Option Match)}
    (fresh
      : env.besideAnswers.Lockstep (env.besideAnswers.SameMatch env.subject pos True)
          (unguarded env fuel scope rule pos) right)
    : env.besideAnswers.Lockstep (env.besideAnswers.SameMatch env.subject pos True)
        (unguarded env fuel scope rule pos) (guarded env scope rule pos right) := by
  intro s t coupled
  rcases guarded_ends env scope rule pos right t with
    ⟨answer, memoize, found, ran⟩ | ⟨fault, ran⟩ | ran
  · have settled := coupled.2.2.1 memoize rule visible pos answer found
    obtain ⟨enough, halts⟩ := settled.halts
    rw [ran]
    exact settled.paired_right (ample rule visible pos ahead enough halts) scope coupled
  · rw [ran]
    exact .excused trivial
  · rw [ran]
    exact fresh s t coupled

/-- Where the matcher answers, evaluation with fuel that is enough gives the same answer, in whatever
scope and within whatever limits. Induction on the room: a rule that is evaluated and answers has
halted, so that its answer is settled and may be kept.
-/
theorem unguarded_lockstep_answers (built : env.grammar.Built) {start : Int} {fuel : Nat}
    (ample : env.Ample start fuel) (room : Nat) (scope : Scope) {rule : Rule}
    (visible : rule ∈ env.grammar.visibleRules) {pos : Int} (ahead : env.subject.Ahead start pos)
    : env.besideAnswers.Lockstep (env.besideAnswers.SameMatch env.subject pos True)
        (unguarded env fuel scope rule pos) (applyRule env room scope rule pos) := by
  induction room generalizing scope rule pos with
  | zero => exact ample.guarded visible ahead (.throw_excused trivial)
  | succ room ih =>
      refine ample.guarded visible ahead fun s t coupled => ?_
      have answered : env.besideAnswers.Lockstep
          (env.besideAnswers.SameMatch env.subject pos True)
          (unguarded env (fuel + 1) scope rule pos)
          (answerRule env scope rule pos fun inner => callName env (applyRule env room inner)) := by
        refine env.besideAnswers_carries.answerRule rfl ?_
        rintro inner _ rfl - - other otherVisible q further
        exact ih inner otherVisible (ahead.trans further)
      have paired := (ample.ahead ahead).paired visible scope coupled.1 (answered s t coupled)
      refine paired.evaluateRule_right fun m n s' t' ran value kept memoize loud => ?_
      obtain ⟨after, after', sound, agrees⟩ := kept
      obtain ⟨alike, stops⟩ := answers_of_sameMatch value
      have settled := (Settled.of_run loud coupled.1 ran alike.symm (ahead_of_alike alike stops)).mono
        (.of_agrees agrees.symm)
      exact ⟨after, after', fun _ => (sound memoize).insert built visible settled, agrees⟩

-----------------------------------------------------------------------------------------
-- Where expressions end
-----------------------------------------------------------------------------------------

/-- The site of a rule's expressions where nothing guards the calls, with fuel for them. -/
def freeSite (env : MatchEnv) (fuel : Nat) (scope : Scope) (rule : Rule) : Site :=
  ⟨env.subject, rule, scope, fun inner => callName env (unguarded env fuel inner)⟩

/-- Two runs without memory that have only the grammar in common. -/
abbrev freely (env : MatchEnv) : Coupling :=
  Coupling.fueled env.grammar fun _ _ _ _ => True

/-- Failures may be noted freely, whatever rules they are noted for. -/
theorem freely_notes (env : MatchEnv) (scope scope' : Scope) : env.freely.Notes scope scope' where
  expect pos what := Coupling.bare_modify fun s t _ => by
    obtain ⟨u, ran, resolved, -⟩ := expect_spec scope pos what s
    obtain ⟨v, ran', resolved', -⟩ := expect_spec scope' pos what t
    exact ⟨u, v, ran, ran', resolved, resolved', trivial⟩
  expectGoal pos what := Coupling.bare_modify fun s t _ => by
    obtain ⟨u, ran, resolved, -⟩ := expectGoal_spec scope pos what s
    obtain ⟨v, ran', resolved', -⟩ := expectGoal_spec scope' pos what t
    exact ⟨u, v, ran, ran', resolved, resolved', trivial⟩

variable {fuel room : Nat} {scope : Scope} {rule rule' : Rule} {e : Expr} {pos : Int}
  {s t : MatcherState}

/-- Without memory an expression is evaluated alike from any states and in any scopes, and in any
rules that try white space alike, unless it matches their tags.
-/
theorem eval_freely (env : MatchEnv) (fuel : Nat) (scope scope' : Scope) (pos : Int)
    (sigspace : rule.sigspace = rule'.sigspace) (tagless : ¬ Expr.sym.Part e)
    : env.freely.Lockstep (env.freely.SameReached env.subject pos True)
        (eval (env.freeSite fuel scope rule) e pos) (eval (env.freeSite fuel scope' rule') e pos) := by
  have carries := Coupling.bare_carries (fun _ _ _ _ => True)
    (fun fault => fault.isOutOfRoom = true) (rfl : env.grammar = env.grammar) rfl
  have calls (inner inner' : Scope) (name : Name) (q : Int)
      : env.freely.Lockstep (env.freely.SameMatch env.subject q True)
          (callName env (unguarded env fuel inner) name q)
          (callName env (unguarded env fuel inner') name q) :=
    Coupling.callName_lockstep_of_visible (carries.resolve name) fun other _ =>
      Coupling.unguarded_lockstep carries (fun _ _ => rfl) (Nat.le_refl fuel)
        (fun _ _ _ _ _ kept => kept) other q
  exact Coupling.evalBody_lockstep sigspace (fun inside => absurd inside tagless)
    (fun inner => callName env (unguarded env fuel inner))
    (fun inner => callName env (unguarded env fuel inner)) (env.freely_notes scope scope')
    carries.ordinary (fun name q _ => calls _ _ name q) fun name q _ => calls _ _ name q

/-- Where the matcher evaluates an expression, evaluation without memory gives the same, with fuel
that is enough.
-/
theorem eval_lockstep_answers (built : env.grammar.Built) (ample : env.Ample pos fuel)
    (room : Nat) (scope : Scope) (rule : Rule) (e : Expr)
    : env.besideAnswers.Lockstep (env.besideAnswers.SameReached env.subject pos True)
        (eval (env.freeSite fuel scope rule) e pos)
        (eval (env.siteWithin room scope rule) e pos) := by
  have carries := env.besideAnswers_carries
  have calls (inner : Scope) (name : Name) (q : Int) (ahead : env.subject.Ahead pos q)
      : env.besideAnswers.Lockstep (env.besideAnswers.SameMatch env.subject q True)
          (callName env (unguarded env fuel inner) name q) (callWithin env room inner name q) :=
    Coupling.callName_lockstep_of_visible (carries.resolve name)
      fun _ visible => unguarded_lockstep_answers built ample room inner visible ahead
  exact Coupling.evalBody_lockstep rfl (fun _ => rfl)
    (fun inner => callName env (unguarded env fuel inner)) (callWithin env room)
    (carries.notes rfl rfl) carries.ordinary (calls scope) (calls _)

/-- With so much fuel an expression of a rule ends there, or nowhere if it fails: from some state, in
some scope and without memory.
-/
def EndsAt (env : MatchEnv) (fuel : Nat) (rule : Rule) (e : Expr) (pos : Int) (stop : Option Int)
    : Prop :=
  ∃ scope s reached t,
    s.Resolves env.grammar
    ∧ eval (env.freeSite fuel scope rule) e pos s = .ok reached t
    ∧ reached.map Reached.stop = stop

/-- An expression ends at one place, in any rules that try white space alike, unless it matches their
tags.
-/
theorem EndsAt.unique {stop stop' : Option Int} (sigspace : rule.sigspace = rule'.sigspace)
    (tagless : ¬ Expr.sym.Part e) (ends : env.EndsAt fuel rule e pos stop)
    (ends' : env.EndsAt fuel rule' e pos stop')
    : stop = stop' := by
  obtain ⟨scope, s, reached, t, resolves, ran, rfl⟩ := ends
  obtain ⟨scope', s', reached', t', resolves', ran', rfl⟩ := ends'
  have paired := env.eval_freely fuel scope scope' pos sigspace tagless s s'
    ⟨resolves, resolves', trivial⟩
  rw [ran, ran'] at paired
  cases paired with
  | ok value _ => cases value <;> rfl

/-- From a state to go on from, an expression that the matcher evaluates ends where it ends without
memory, and leaves such a state.
-/
theorem Reusable.eval_ends (reusable : env.Reusable s) (built : env.grammar.Built)
    (ample : env.Ample pos fuel) {reached : Option Reached}
    (ran : eval (env.siteWithin room scope rule) e pos s = .ok reached t)
    : env.EndsAt fuel rule e pos (reached.map Reached.stop) ∧ env.Reusable t := by
  have paired := eval_lockstep_answers built ample room scope rule e s s
    ⟨reusable.resolves, reusable.resolves, reusable.sound, .refl _⟩
  rw [ran] at paired
  generalize freely : eval (env.freeSite fuel scope rule) e pos s = left at paired
  cases paired with
  | ok value kept =>
      refine ⟨⟨scope, s, _, _, reusable.resolves, freely, ?_⟩, kept.2.1, kept.2.2.1⟩
      cases value <;> rfl

/-- From a state to go on from, a rule that the matcher applies ends where its body ends without
memory, and leaves such a state.
-/
theorem Reusable.applyRule_ends (reusable : env.Reusable s) (built : env.grammar.Built)
    (ample : env.Ample pos fuel) (visible : rule ∈ env.grammar.visibleRules) {answer : Option Match}
    (ran : applyRule env room scope rule pos s = .ok answer t)
    : env.EndsAt fuel rule rule.expr pos (answer.map Match.stop) ∧ env.Reusable t := by
  have paired := unguarded_lockstep_answers built ample room scope visible (.refl _ _) s s
    ⟨reusable.resolves, reusable.resolves, reusable.sound, .refl _⟩
  rw [ran] at paired
  generalize freely : unguarded env fuel scope rule pos s = left at paired
  cases paired with
  | @ok found _ s' _ value kept =>
      refine ⟨?_, kept.2.1, kept.2.2.1⟩
      have halts : env.Halts fuel rule pos :=
        .of_run reusable.resolves (by rw [freely]; exact id) (Nat.le_refl _)
      rw [← halts.unguarded_eq (Nat.le_succ fuel) scope reusable.resolves] at freely
      obtain ⟨u, reached, v, started, evaluated, made⟩ := exists_body_of_answerRule freely
      obtain ⟨trace, traced⟩ := traceStart_spec env scope rule pos s
      cases started.symm.trans traced
      refine ⟨scope.enter rule pos, { s with trace }, reached, v, reusable.resolves, evaluated, ?_⟩
      have stops : found.map Match.stop = reached.map Reached.stop := by
        rw [made, Option.map_map]
        rfl
      rw [← stops]
      cases value with
      | missed => rfl
      | found same _ _ => exact congrArg some (Coupling.view_stop_eq same)

end MatchEnv

end RuleGrammar
