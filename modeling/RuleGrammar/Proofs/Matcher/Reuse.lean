import RuleGrammar.Proofs.Matcher.Memoization
import RuleGrammar.Proofs.Matcher.Bookkeeping

/-! A matcher may be used again, also after a fault. What it keeps between calls is a memo that is
sound, names resolved rightly, and notes that calls only write; so each call ends as it does on a
fresh matcher.
-/

namespace RuleGrammar

/-- Calls that end alike: with matches that agree in rules, tags, spans and captures, with no match,
or in one fault.
-/
inductive CallAlike {σ τ : Type}
    : EStateM.Result Fault σ (Option Match) → EStateM.Result Fault τ (Option Match) → Prop
  | answered {m n s t} (same : m.map Match.bare = n.map Match.bare)
    : CallAlike (.ok m s) (.ok n t)
  | stopped {fault s t} : CallAlike (.error fault s) (.error fault t)

namespace CallAlike

variable {first second third : EStateM.Result Fault MatcherState (Option Match)}

theorem symm (alike : CallAlike first second) : CallAlike second first := by
  cases alike with
  | answered same => exact .answered same.symm
  | stopped => exact .stopped

theorem trans (alike : CallAlike first second) (next : CallAlike second third)
    : CallAlike first third := by
  cases alike with
  | answered same => cases next with | answered same' => exact .answered (same.trans same')
  | stopped => cases next with | stopped => exact .stopped

/-- Bare runs of which none is excused end alike. -/
theorem of_paired {g : Grammar} {keeps : Memo → Furthest → Memo → Furthest → Prop}
    {subject : Subject} {pos : Int}
    (paired
      : (Coupling.bare g keeps fun _ => False).Paired
          ((Coupling.bare g keeps fun _ => False).SameMatch subject pos True) first second)
    : CallAlike first second := by
  cases paired with
  | ok value _ => exact .answered (MatchEnv.answers_of_sameMatch value).1
  | error same _ =>
      obtain ⟨rfl, -⟩ := same
      exact .stopped
  | excused excuse => cases excuse

/-- Steps of matchers with books end alike if those without do. -/
theorem of_steps {inner inner' : Scope → MatchM (Option Match)} {s t : BookedState}
    (alike : CallAlike (inner s.books.scope s.state) (inner' t.books.scope t.state))
    : CallAlike (BookedM.step inner s) (BookedM.step inner' t) := by
  unfold BookedM.step
  generalize inner s.books.scope s.state = left at alike
  generalize inner' t.books.scope t.state = right at alike
  cases alike with
  | answered same => exact .answered same
  | stopped => exact .stopped

end CallAlike

namespace MatchEnv

variable {env : MatchEnv} {s : MatcherState} {name : Name} {pos : Int}

-----------------------------------------------------------------------------------------
-- Without a memo
-----------------------------------------------------------------------------------------

/-- Two runs over one grammar of which nothing is asked but that names are resolved rightly. -/
abbrev besideItself (env : MatchEnv) : Coupling :=
  Coupling.bare env.grammar (fun _ _ _ _ => True) fun _ => False

theorem besideItself_carries (env : MatchEnv) : env.besideItself.Carries env env Eq :=
  (Coupling.bare_carries (fun _ _ _ _ => True) _ rfl rfl).diagonal fun _ _ _ _ _ _ kept => kept

/-- Without a memo, a rule is applied alike from any two states, and in any two rooms that are
enough, by induction on the first: where there is no room left, the rule is in progress.
-/
theorem applyRule_forgetful (forgetful : env.config.memoize = false)
    (unlimited : env.config.maxDepth = none) {start : Int} (room room' : Nat) {scope : Scope}
    (order : env.InOrder start scope.frames) (enough : scope.Enough env start room)
    (enough' : scope.Enough env start room') {rule : Rule}
    (visible : rule ∈ env.grammar.visibleRules) {pos : Int}
    (ahead : env.subject.Ahead start pos)
    : env.besideItself.Lockstep (env.besideItself.SameMatch env.subject pos True)
        (applyRule env room scope rule pos) (applyRule env room' scope rule pos) := by
  induction room generalizing room' scope rule pos with
  | zero =>
      -- rooms that are enough are only used up by a rule in progress, which both rooms refuse alike
      have active := order.isActive_of_enough enough visible ahead
      rw [applyRule_eq_guarded, applyRule_eq_guarded, guarded_forgetful forgetful unlimited,
        guarded_forgetful forgetful unlimited, if_pos active, if_pos active]
      exact .throw ⟨rfl, rfl⟩
  | succ room ih =>
      rw [applyRule_eq_guarded, applyRule_eq_guarded, guarded_forgetful forgetful unlimited,
        guarded_forgetful forgetful unlimited]
      refine .ite Iff.rfl (fun _ => .throw ⟨rfl, rfl⟩) fun inactive => ?_
      cases room' with
      | zero => exact absurd (order.isActive_of_enough enough' visible ahead) inactive
      | succ room' =>
          rw [applyFresh, applyFresh, evaluateRule_forgetful forgetful,
            evaluateRule_forgetful forgetful]
          have innerOrder : env.InOrder start (scope.enter rule pos).frames :=
            order.cons inactive visible ahead
          refine env.besideItself_carries.answerRule rfl ?_
          rintro inner _ rfl frames - other otherVisible q further
          refine ih room' (frames ▸ innerOrder) ?_ ?_ otherVisible (ahead.trans further)
          · simpa only [Scope.Enough, frames] using enough.enter rule pos
          · simpa only [Scope.Enough, frames] using enough'.enter rule pos

/-- Without a memo, calls end alike from any two states. -/
theorem call_forgetful (forgetful : env.config.memoize = false)
    (unlimited : env.config.maxDepth = none) (unbounded : env.config.ceiling = none)
    (name : Name) (pos : Int) {s t : MatcherState} (resolves : s.Resolves env.grammar)
    (resolves' : t.Resolves env.grammar)
    : CallAlike (env.call name pos s) (env.call name pos t) := by
  have called := Coupling.callName_lockstep_of_visible (env.besideItself_carries.resolve name)
    fun rule visible => applyRule_forgetful forgetful unlimited (env.room s.resolved pos)
      (env.room t.resolved pos) .empty (enough_of_unbounded unbounded s.resolved pos)
      (enough_of_unbounded unbounded t.resolved pos) visible (Subject.Ahead.refl env.subject pos)
  exact .of_paired (called s t ⟨resolves, resolves', trivial⟩)

-----------------------------------------------------------------------------------------
-- With a memo
-----------------------------------------------------------------------------------------

/-- A state to go on from: names are resolved rightly, and what is known is settled, if answers are
kept at all.
-/
structure Reusable (env : MatchEnv) (s : MatcherState) : Prop where
  resolves : s.Resolves env.grammar
  sound : env.config.memoize = true → Memo.Sound env s.memo s.furthest

theorem Reusable.fresh (env : MatchEnv) : env.Reusable {} :=
  ⟨.initial env.grammar, fun _ => .empty _ _⟩

/-- From a state to go on from, a call goes alike with and without a memo. -/
theorem Reusable.call_paired (reusable : (env.withMemo true).Reusable s)
    (built : env.grammar.Built) (unlimited : env.config.maxDepth = none)
    (unbounded : env.config.ceiling = none) (name : Name) (pos : Int)
    : env.memoBeside.Paired (env.memoBeside.SameMatch env.subject pos True)
        ((env.withMemo true).call name pos s) ((env.withMemo false).call name pos s) := by
  have called := Coupling.callName_lockstep_of_visible (env.memoBeside_carries.resolve name)
    fun rule visible => applyRule_lockstep_memo built unlimited (env.room s.resolved pos) .empty
      (enough_of_unbounded unbounded s.resolved pos) (by simp [Stuck]) visible
      (Subject.Ahead.refl env.subject pos)
  exact called s s ⟨reusable.resolves, reusable.resolves, reusable.sound, .refl _⟩

/-- However a call ends, it leaves a state to go on from. -/
theorem Reusable.after_call {t : MatcherState} (reusable : (env.withMemo true).Reusable s)
    (built : env.grammar.Built) (unlimited : env.config.maxDepth = none)
    (unbounded : env.config.ceiling = none)
    (ended
      : (∃ answer, (env.withMemo true).call name pos s = .ok answer t)
        ∨ ∃ fault, (env.withMemo true).call name pos s = .error fault t)
    : (env.withMemo true).Reusable t := by
  have paired := reusable.call_paired built unlimited unbounded name pos
  rcases ended with ⟨answer, ended⟩ | ⟨fault, ended⟩
  · rw [ended] at paired
    generalize (env.withMemo false).call name pos s = right at paired
    cases paired with
    | ok _ kept => exact ⟨kept.1, kept.2.2.1⟩
    | excused excuse => cases excuse
  · rw [ended] at paired
    generalize (env.withMemo false).call name pos s = right at paired
    cases paired with
    | error _ kept => exact ⟨kept.1, kept.2.2.1⟩
    | excused excuse => cases excuse

/-- A matcher may be used again after any calls, by induction on them. -/
theorem Used.reusable (built : env.grammar.Built) (unlimited : env.config.maxDepth = none)
    (unbounded : env.config.ceiling = none) (used : env.Used s)
    : env.Reusable s := by
  cases memoize : env.config.memoize with
  | false =>
      refine ⟨used.sane.resolves, fun memoizes => ?_⟩
      rw [memoize] at memoizes
      cases memoizes
  | true =>
      have same : env.withMemo true = env := memoize ▸ env.withMemo_eq
      rw [← same] at used ⊢
      induction used with
      | fresh => exact .fresh _
      | answered _ ended before =>
          exact before.after_call built unlimited unbounded (Or.inl ⟨_, ended⟩)
      | stopped _ ended before =>
          exact before.after_call built unlimited unbounded (Or.inr ⟨_, ended⟩)

/-- A call from a state to go on from ends as it does on a fresh matcher: both end as the call does
without a memo, which nothing kept can change.
-/
theorem Reusable.call_alike (reusable : env.Reusable s) (built : env.grammar.Built)
    (unlimited : env.config.maxDepth = none) (unbounded : env.config.ceiling = none)
    (name : Name) (pos : Int)
    : CallAlike (env.call name pos s) (env.call name pos {}) := by
  have fresh := Reusable.fresh env
  cases memoize : env.config.memoize with
  | false =>
      exact call_forgetful memoize unlimited unbounded name pos reusable.resolves fresh.resolves
  | true =>
      have same : env.withMemo true = env := memoize ▸ env.withMemo_eq
      rw [← same] at reusable fresh ⊢
      have here := CallAlike.of_paired (reusable.call_paired built unlimited unbounded name pos)
      have there := CallAlike.of_paired (fresh.call_paired built unlimited unbounded name pos)
      -- what is known may differ, so the two calls are compared through those without a memo
      have forgetful : (env.withMemo false).config.memoize = false := rfl
      have between := call_forgetful forgetful unlimited unbounded name pos reusable.resolves
        fresh.resolves
      exact (here.trans between).trans there.symm

-----------------------------------------------------------------------------------------
-- What is known
-----------------------------------------------------------------------------------------

/-- Answers are only kept if they may be, and each for a rule of the grammar. -/
def Keyed (env : MatchEnv) (memo : Memo) : Prop :=
  ∀ key answer,
    memo.find? key = some answer
    → env.config.memoize = true
      ∧ ∃ rule ∈ env.grammar.visibleRules, key = ⟨rule.name, rule.tag, key.pos⟩

theorem Keyed.insert {memo : Memo} (keyed : env.Keyed memo) (memoize : env.config.memoize = true)
    {rule : Rule} (visible : rule ∈ env.grammar.visibleRules) (pos : Int) (answer : Option Match)
    : env.Keyed (memo.insert ⟨rule.name, rule.tag, pos⟩ answer) := by
  intro key known found
  rcases Memo.find?_insert_cases found with ⟨rfl, -⟩ | before
  · exact ⟨memoize, rule, visible, rfl⟩
  · exact keyed key known before

theorem Keyed.empty (env : MatchEnv) : env.Keyed {} := by
  intro key answer found
  rw [Memo.find?_empty] at found
  cases found

/-- After any calls, what is known is known of rules of the grammar. -/
theorem Used.keyed (used : env.Used s) : env.Keyed s.memo := by
  have upkeep : env.Upkeep fun memo _ => Memo.Ahead env.subject memo ∧ env.Keyed memo := {
    ahead := fun _ _ => And.left
    note := fun _ => id
    insert := fun memoize visible stops ⟨ahead, keyed⟩ =>
      ⟨ahead.insert stops, keyed.insert memoize visible _ _⟩
  }
  have initial := (MatcherState.Sane.initial env).memo
  exact (upkeep.used ⟨initial, .empty env⟩ used).2.2

/-- A settled answer is what a fresh matcher without a memo answers: both are what evaluation gives
with enough fuel.
-/
theorem Settled.fresh (built : env.grammar.Built) (unlimited : env.config.maxDepth = none)
    (unbounded : env.config.ceiling = none) {rule : Rule}
    (visible : rule ∈ env.grammar.visibleRules) {answer : Option Match} {reach : Furthest}
    (settled : env.Settled rule pos answer reach)
    : ∃ found t,
        applyRule (env.withMemo false) ((env.withMemo false).room [] pos) {} rule pos {}
          = .ok found t
        ∧ found.map Match.bare = answer.map Match.bare := by
  obtain ⟨fuel, settled⟩ := settled
  have resolves := MatcherState.Resolves.initial env.grammar
  obtain ⟨quietly, _, ran, same, -⟩ := settled { quiet := true } {} resolves (Or.inl rfl)
  have loud := Coupling.unguarded_paired (fun _ _ _ _ => True) (Nat.le_refl fuel) {}
    { quiet := true } (fun _ _ _ _ _ kept => kept) rule pos resolves resolves trivial
  rw [ran] at loud
  have unlimited' : (env.withMemo false).config.maxDepth = none := unlimited
  have unbounded' : (env.withMemo false).config.ceiling = none := unbounded
  have forgets (memoize : (env.withMemo false).config.memoize = true)
      : Memo.Sound (env.withMemo false) {} ({} : MatcherState).furthest := by
    cases memoize
  have built' : (env.withMemo false).grammar.Built := built
  have applied := applyRule_halting built' unlimited' fuel .empty
    (enough_of_unbounded unbounded' [] pos) (by simp [Stuck]) visible
    (Subject.Ahead.refl env.subject pos) {} {} ⟨resolves, resolves, forgets, .refl _⟩
  rw [unguarded_withMemo] at applied
  generalize unguarded env fuel {} rule pos {} = evaluated at loud applied
  cases loud with
  | ok value _ =>
      generalize applyRule (env.withMemo false) _ {} rule pos {} = ended at applied
      cases applied with
      | ok value' _ =>
          refine ⟨_, _, rfl, ?_⟩
          rw [(answers_of_sameMatch value').1, (answers_of_sameMatch value).1, same]

-----------------------------------------------------------------------------------------
-- Any calls
-----------------------------------------------------------------------------------------

/-- The states of a matcher with books that has been called any number of times, also with calls
that ended in a fault.
-/
inductive BookedUsed (env : MatchEnv) : BookedState → Prop
  | fresh : env.BookedUsed {}
  | answered {s t name pos answer} (before : env.BookedUsed s)
    (ended : env.bookedCall name pos s = .ok answer t)
    : env.BookedUsed t
  | stopped {s t name pos fault} (before : env.BookedUsed s)
    (ended : env.bookedCall name pos s = .error fault t)
    : env.BookedUsed t

/-- Between calls the books are empty, and the rest is what calls without books leave, by induction
on the calls.
-/
theorem BookedUsed.used {s : BookedState} (used : env.BookedUsed s)
    : env.Used s.state ∧ s.books = {} := by
  induction used with
  | fresh => exact ⟨.fresh, rfl⟩
  | @answered s t name pos answer _ ended before =>
      obtain ⟨state, books⟩ := s
      obtain ⟨used, rfl⟩ := before
      rw [bookedCall_empty] at ended
      obtain ⟨ran, kept⟩ := BookedM.step_eq_ok ended
      exact ⟨.answered used ran, kept⟩
  | @stopped s t name pos fault _ ended before =>
      obtain ⟨state, books⟩ := s
      obtain ⟨used, rfl⟩ := before
      rw [bookedCall_empty] at ended
      obtain ⟨ran, kept⟩ := BookedM.step_eq_error ended
      exact ⟨.stopped used ran, kept⟩

/-- A matcher may be used again, also after a fault: between calls nothing is in progress, each call
ends as on a fresh matcher, and what is known is what a fresh matcher without a memo answers.
-/
theorem call_reused {s : BookedState} (built : env.grammar.Built)
    (unlimited : env.config.maxDepth = none) (unbounded : env.config.ceiling = none)
    (used : env.BookedUsed s)
    : (s.books.active = [] ∧ s.books.stack = [] ∧ s.books.quiet = 0)
      ∧ (∀ name pos,
          env.bookedCall name pos s = BookedM.step (fun _ => env.call name pos) s
          ∧ CallAlike (env.bookedCall name pos s) (env.bookedCall name pos {}))
      ∧ ∀ key answer,
          s.state.memo.find? key = some answer
          → ∃ rule ∈ env.grammar.visibleRules,
              key = ⟨rule.name, rule.tag, key.pos⟩
              ∧ ∃ found t,
                  applyRule (env.withMemo false) ((env.withMemo false).room [] key.pos) {} rule
                      key.pos {}
                    = .ok found t
                  ∧ found.map Match.bare = answer.map Match.bare := by
  obtain ⟨state, books⟩ := s
  obtain ⟨used, rfl⟩ := used.used
  have reusable := used.reusable built unlimited unbounded
  refine ⟨⟨rfl, rfl, rfl⟩, fun name pos => ⟨bookedCall_empty env name pos state, ?_⟩,
    fun key answer known => ?_⟩
  · have fresh : env.bookedCall name pos {} = BookedM.step (fun _ => env.call name pos) {} :=
      bookedCall_empty env name pos {}
    rw [bookedCall_empty, fresh]
    exact .of_steps (reusable.call_alike built unlimited unbounded name pos)
  · obtain ⟨memoizes, rule, visible, keyed⟩ := used.keyed key answer known
    have settled := reusable.sound memoizes rule visible key.pos answer (keyed ▸ known)
    exact ⟨rule, visible, keyed, settled.fresh built unlimited unbounded visible⟩

/-- A rule that matches a letter and then calls a name that stands for nothing. -/
def lostRule : Rule where
  name := "lost"
  expr := .sequence [.reference "letter" none, .reference "gone" none]
  kind := .token

def letterRule : Rule where
  name := "letter"
  expr := .literal "x"
  kind := .token

/-- A matcher for these rules over a text of one letter. -/
def lost : MatchEnv where
  grammar := ⟨⟨"lost", [("lost", .rule lostRule), ("letter", .rule letterRule)]⟩, []⟩
  subject := ⟨#['x']⟩
  config := { ceiling := none }

theorem lost_built : lost.grammar.Built := by
  intro layer member
  obtain rfl := List.mem_singleton.mp member
  have first : Layer.register { name := "lost" } "lost" lostRule
      = .ok (lostRule, ⟨"lost", [("lost", .rule lostRule)]⟩) := rfl
  have second : Layer.register ⟨"lost", [("lost", .rule lostRule)]⟩ "letter" letterRule
      = .ok (letterRule, lost.grammar.own) := rfl
  exact .registered (.registered (.empty "lost") first) second

/-- A call that ends in an unknown name keeps what it knew by then, and a matcher may be used again
after it.
-/
theorem call_reused_lost
    : lost.grammar.Built
      ∧ lost.config.maxDepth = none
      ∧ lost.config.ceiling = none
      ∧ ∃ fault s,
          lost.bookedCall "lost" 0 {} = .error fault s
          ∧ (s.state.memo.find? ⟨"letter", none, 0⟩).isSome = true
          ∧ lost.BookedUsed s
          ∧ s.books.active = []
          ∧ CallAlike (lost.bookedCall "letter" 0 s) (lost.bookedCall "letter" 0 {}) := by
  have ends : ∃ fault s,
      lost.bookedCall "lost" 0 {} = .error fault s
      ∧ (s.state.memo.find? ⟨"letter", none, 0⟩).isSome = true := ⟨_, _, rfl, rfl⟩
  obtain ⟨fault, s, ended, known⟩ := ends
  have used : lost.BookedUsed s := .stopped .fresh ended
  have reused := call_reused lost_built rfl rfl used
  exact ⟨lost_built, rfl, rfl, fault, s, ended, known, used, reused.1.1, (reused.2.1 "letter" 0).2⟩

end MatchEnv

end RuleGrammar
