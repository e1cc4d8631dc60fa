import RuleGrammar.Proofs.Grammar.Nullability
import RuleGrammar.Proofs.Matcher.Halting

/-! Calls that stay at their offset. Which names can match the empty text is computed as if every
tag had something to match; as far as that is so, each name whose call ends where it was made is
among them, whatever the matcher was called with before.
-/

namespace RuleGrammar

/-- Known matches stop ahead, and where they start only for nullable names. -/
def Memo.Moving (env : MatchEnv) (memo : Memo) : Prop :=
  ∀ key m,
    memo.find? key = some (some m)
    → env.subject.Ahead key.pos m.stop
      ∧ (m.stop = key.pos → key.rule ∈ env.grammar.ruleTable.nullableNames)

namespace Memo.Moving

variable {env : MatchEnv} {memo : Memo}

theorem empty (env : MatchEnv) : Memo.Moving env {} := by
  intro key m found
  rw [Memo.find?_empty] at found
  cases found

theorem insert {key : Key} {answer : Option Match} (moving : memo.Moving env)
    (ahead : ∀ m ∈ answer, env.subject.Ahead key.pos m.stop)
    (still
      : ∀ m ∈ answer, m.stop = key.pos → key.rule ∈ env.grammar.ruleTable.nullableNames)
    : (memo.insert key answer).Moving env := by
  intro other m found
  rcases Memo.find?_insert_cases found with ⟨rfl, rfl⟩ | before
  · exact ⟨ahead m rfl, still m rfl⟩
  · exact moving other m before

end Memo.Moving

-----------------------------------------------------------------------------------------
-- Calls that are heard of
-----------------------------------------------------------------------------------------

/-- A listener hears of each call that the body of a rule makes itself, before it is made: which
application makes it, of which name, and where.
-/
abbrev Listener : Type :=
  Key → Name → Int → MatchM Unit

/-- Applies a rule like the matcher, before a listener. -/
def heardRule (env : MatchEnv) (listener : Listener)
    : Nat → Scope → Rule → Int → MatchM (Option Match)
  | 0, scope, rule, pos => guarded env scope rule pos (throw (.outOfRoom rule.name pos))
  | room + 1, scope, rule, pos =>
      guarded env scope rule pos
        (evaluateRule env scope rule pos fun inner callee q => do
          listener ⟨rule.name, rule.tag, pos⟩ callee q
          callName env (heardRule env listener room inner) callee q)

/-- Calls a name from outside any rule, before a listener. -/
def MatchEnv.heardCall (env : MatchEnv) (listener : Listener) (name : Name) (pos : Int)
    : MatchM (Option Match) := do
  callName env (heardRule env listener (env.room (← get).resolved pos) {}) name pos

/-- Before a listener that does nothing, rules are applied as they are without one, by induction on
the room.
-/
theorem heardRule_default (env : MatchEnv) (room : Nat)
    : heardRule env (fun _ _ _ => pure ()) room = applyRule env room := by
  induction room with
  | zero => rfl
  | succ room ih =>
      funext scope rule pos
      simp only [heardRule, applyRule, ih, pure_bind]

theorem MatchEnv.heardCall_default (env : MatchEnv) (name : Name) (pos : Int)
    : env.heardCall (fun _ _ _ => pure ()) name pos = env.call name pos := by
  simp only [heardCall, call, callWithin, heardRule_default]

/-- What a rule may call where it is applied: a name at the left edge of its body, or white space
that may be tried there unseen.
-/
def Rule.AtEdge (rule : Rule) (nullable : List Name) (callee : Name) : Prop :=
  callee ∈ rule.expr.leftCalls nullable rule.sigspace
  ∨ callee = "ws" ∧ rule.sigspace = true ∧ rule.expr.unseenSpace nullable = true

-----------------------------------------------------------------------------------------
-- Calls that stay
-----------------------------------------------------------------------------------------

namespace MatchEnv

variable {env : MatchEnv}

/-- One run that knows matches of nullable names only where they stay. -/
abbrev movingRun (env : MatchEnv) : Coupling :=
  env.oneRun (Memo.Moving env) (fun _ => True) fun _ => False

theorem movingRun_carries (env : MatchEnv) : env.movingRun.Carries env env Eq :=
  env.oneRun_carries _ _ fun _ _ => trivial

section Tagged

variable (built : env.grammar.Built)
  (tagged
    : ∀ rule ∈ env.grammar.visibleRules,
        Expr.sym.Part rule.expr
        → rule.tag ≠ some [])

include built tagged

/-- A rule stays where it is applied only if its name is nullable, and before a listener that only
has to do with calls away from the left edge it is applied as without one. Induction on the room:
the names that its body calls stay only if they are nullable, or their answers were known and
moving, so that what it calls where it is applied is at its left edge.
-/
theorem heardRule_moving {listener : Listener}
    (silent
      : ∀ rule ∈ env.grammar.visibleRules, ∀ pos callee q,
          (q = pos → rule.AtEdge env.grammar.ruleTable.nullableNames callee)
          → listener ⟨rule.name, rule.tag, pos⟩ callee q = pure ())
    (room : Nat) {name : Name} {entry : Entry} (found : env.grammar.lookup name = some entry)
    {rule : Rule} (member : rule ∈ entry.rules) (scope : Scope) (pos : Int)
    : env.movingRun.Lockstep
        (env.movingRun.SameMatch env.subject pos (name ∈ env.grammar.ruleTable.nullableNames))
        (heardRule env listener room scope rule pos) (applyRule env room scope rule pos) := by
  induction room generalizing name entry rule scope pos with
  | zero =>
      rw [applyRule_eq_guarded, ← (built.under found).name_eq member]
      exact oneRun_guarded (fun _ _ => trivial) (fun _ _ moving => moving _)
        fun _ => .throw ⟨rfl, trivial⟩
  | succ room ih =>
      have visible := Grammar.mem_visibleRules.mpr ⟨name, entry, found, member⟩
      have calls (inner : Scope) (callee : Name) (q : Int)
          (atEdge : q = pos → rule.AtEdge env.grammar.ruleTable.nullableNames callee)
          : env.movingRun.Lockstep
              (env.movingRun.SameMatch env.subject q
                (callee ∈ env.grammar.ruleTable.nullableNames))
              (do
                listener ⟨rule.name, rule.tag, pos⟩ callee q
                callName env (heardRule env listener room inner) callee q)
              (callName env (applyRule env room inner) callee q) := by
        rw [silent rule visible pos callee q atEdge, pure_bind]
        exact Coupling.callName_lockstep (env.movingRun_carries.resolve callee)
          fun _ stands _ inEntry => ih stands inEntry inner q
      have nullable := RuleTable.mem_nullableNames (Grammar.mem_ruleTable_of_lookup found) member
      have answered : env.movingRun.Lockstep
          (env.movingRun.SameMatch env.subject pos
            (name ∈ env.grammar.ruleTable.nullableNames))
          (answerRule env scope rule pos fun inner callee q => do
            listener ⟨rule.name, rule.tag, pos⟩ callee q
            callName env (heardRule env listener room inner) callee q)
          (answerRule env scope rule pos fun inner => callName env (applyRule env room inner)) := by
        refine Coupling.Lockstep.mono (env.movingRun_carries.answerRule_nullable
          (tagged rule visible) env.grammar.ruleTable.nullableNames scope ?_ ?_)
          fun _ _ same => same.mono nullable
        · intro sigspace inner q _ spaced
          have space := calls inner "ws" q fun here =>
            (spaced here).imp_right fun unseen => ⟨rfl, sigspace, unseen⟩
          exact space.mono fun _ _ same => same.mono fun _ => trivial
        · exact fun _ inner q _ edge => calls inner _ q fun here => Or.inl (edge here)
      have named := (built.under found).name_eq member
      rw [applyRule_eq_guarded]
      refine oneRun_guarded (fun _ _ => trivial) (fun _ _ moving => named ▸ moving _) fun _ => ?_
      refine .bind answered fun m n same => ?_
      have kept := oneRun_remember scope ⟨rule.name, rule.tag, pos⟩ (same.mono fun _ => trivial)
        fun _ _ _ moving => moving.insert same.ahead (named ▸ same.still)
      exact .bind kept fun _ _ _ => .pure same

/-- A call in a state that only knows moving matches is the same before such a listener. -/
theorem heardCall_moving (listener : Listener)
    (silent
      : ∀ rule ∈ env.grammar.visibleRules, ∀ pos callee q,
          (q = pos → rule.AtEdge env.grammar.ruleTable.nullableNames callee)
          → listener ⟨rule.name, rule.tag, pos⟩ callee q = pure ())
    (name : Name) (pos : Int) {s : MatcherState} (resolves : s.Resolves env.grammar)
    (moving : s.memo.Moving env)
    : env.movingRun.Paired
        (env.movingRun.SameMatch env.subject pos (name ∈ env.grammar.ruleTable.nullableNames))
        (env.heardCall listener name pos s) (env.call name pos s) := by
  have called := Coupling.callName_lockstep (env.movingRun_carries.resolve name)
    fun _ found _ member => heardRule_moving built tagged silent (env.room s.resolved pos) found
      member {} pos
  exact called s s ⟨rfl, resolves, moving⟩

/-- A call in a state that only knows moving matches stays only if its name is nullable. -/
theorem call_moving (name : Name) (pos : Int) {s : MatcherState}
    (resolves : s.Resolves env.grammar) (moving : s.memo.Moving env)
    : env.movingRun.Paired
        (env.movingRun.SameMatch env.subject pos (name ∈ env.grammar.ruleTable.nullableNames))
        (env.call name pos s) (env.call name pos s) := by
  have heard := heardCall_moving built tagged (fun _ _ _ => pure ()) (fun _ _ _ _ _ _ => rfl) name
    pos resolves moving
  rwa [heardCall_default] at heard

/-- Whatever has been called before, a matcher only knows moving matches. -/
theorem Used.moving {s : MatcherState} (used : env.Used s)
    : s.Resolves env.grammar ∧ s.memo.Moving env :=
  used.kept (Memo.Moving.empty env) fun name pos resolves moving =>
    (call_moving built tagged name pos resolves moving).mono
      fun _ _ same => same.mono fun _ => trivial

/-- A call that ends in a match where it was made calls a nullable name, whatever has been called
before, as long as no rule matches a tag that is empty.
-/
theorem mem_nullableNames_of_call {s t : MatcherState} (used : env.Used s) {name : Name}
    {pos : Int} {m : Match} (ended : env.call name pos s = .ok (some m) t) (stays : m.stop = pos)
    : name ∈ env.grammar.ruleTable.nullableNames := by
  obtain ⟨resolves, moving⟩ := used.moving built tagged
  have paired := call_moving built tagged name pos resolves moving
  rw [ended] at paired
  cases paired with
  | ok same _ => exact same.still m rfl stays

end Tagged

/-- A matcher over the empty text for a group of one alternative. -/
def oneAlternative (tag : Name) (expr : Expr) : MatchEnv where
  grammar := ⟨⟨"signs", [("sign", .group ⟨"sign", [⟨"sign", expr, .token, some tag⟩]⟩)]⟩, []⟩
  subject := ⟨#[]⟩

theorem oneAlternative_built (tag : Name) (expr : Expr)
    : (oneAlternative tag expr).grammar.Built := by
  intro layer member
  obtain rfl := List.mem_singleton.mp member
  have done : Layer.register { name := "signs" } "sign" ⟨"sign", expr, .token, some tag⟩
      = .ok (⟨"sign", expr, .token, some tag⟩, (oneAlternative tag expr).grammar.own) := rfl
  exact .registered (.empty "signs") done

/-- An alternative that may leave out its tag. -/
def optionalSign : MatchEnv :=
  oneAlternative "+" (.repetition .sym 0 (some 1) none false)

theorem mem_nullableNames_of_call_optionalSign
    : optionalSign.grammar.Built
      ∧ (∀ rule ∈ optionalSign.grammar.visibleRules,
          Expr.sym.Part rule.expr
          → rule.tag ≠ some [])
      ∧ ∃ m t,
          optionalSign.call "sign" 0 {} = .ok (some m) t
          ∧ m.stop = 0
          ∧ ("sign" : Name) ∈ optionalSign.grammar.ruleTable.nullableNames := by
  have plain : ∀ rule ∈ optionalSign.grammar.visibleRules, rule.tag ≠ some [] := by
    decide +kernel
  have built : optionalSign.grammar.Built := oneAlternative_built _ _
  have tagged (rule : Rule) (visible : rule ∈ optionalSign.grammar.visibleRules)
      (_ : Expr.sym.Part rule.expr)
      : rule.tag ≠ some [] :=
    plain rule visible
  have ended : ∃ m t, optionalSign.call "sign" 0 {} = .ok (some m) t ∧ m.stop = 0 :=
    ⟨_, _, rfl, rfl⟩
  obtain ⟨m, t, ended, stays⟩ := ended
  exact ⟨built, tagged, m, t, ended, stays,
    mem_nullableNames_of_call built tagged .fresh ended stays⟩

/-- An alternative whose tag is empty matches it without consuming anything, yet its name does not
count as nullable.
-/
theorem exists_stays_not_nullable
    : ∃ env : MatchEnv,
        env.grammar.Built
        ∧ ∃ m t,
            env.call "sign" 0 {} = .ok (some m) t
            ∧ m.stop = 0
            ∧ ("sign" : Name) ∉ env.grammar.ruleTable.nullableNames :=
  ⟨oneAlternative [] .sym, oneAlternative_built _ _, _, _, rfl, rfl, by decide +kernel⟩

end MatchEnv

end RuleGrammar
