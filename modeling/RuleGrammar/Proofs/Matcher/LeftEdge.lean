import RuleGrammar.Proofs.Matcher.Staying

/-! Calls at the left edge. What the body of a rule calls itself where the rule is applied is among
its calls at the left edge, but for white space in a few places.
-/

namespace RuleGrammar

namespace MatchEnv

variable {env : MatchEnv}

-----------------------------------------------------------------------------------------
-- Calls that are made
-----------------------------------------------------------------------------------------

/-- An application makes a call itself, somewhere in a run of the matcher: a listener that minds no
other call changes the run.
-/
def Makes (env : MatchEnv) (s : MatcherState) (start : Name) (begins : Int) (key : Key)
    (callee : Name) (pos : Int)
    : Prop :=
  ∃ listener : Listener,
    (∀ other name q, (other, name, q) ≠ (key, callee, pos) → listener other name q = pure ())
      ∧ env.heardCall listener start begins s ≠ env.call start begins s

/-- A listener that stops the run at a call. -/
def stoppingAt (key : Key) (callee : Name) (pos : Int) : Listener :=
  fun other name q =>
    if (other, name, q) = (key, callee, pos) then throw (.outOfRoom callee pos) else pure ()

theorem Makes.of_stopped {s t u : MatcherState} {start : Name} {begins : Int} {key : Key}
    {callee : Name} {pos : Int} {fault : Fault} {answer : Option Match}
    (stopped : env.heardCall (stoppingAt key callee pos) start begins s = .error fault t)
    (ended : env.call start begins s = .ok answer u)
    : env.Makes s start begins key callee pos := by
  refine ⟨stoppingAt key callee pos, fun other name q apart => if_neg apart, ?_⟩
  rw [stopped, ended]
  nofun

/-- What the body of a rule calls itself where the rule is applied is at the left edge of the body,
or it is the white space that a rule of kind `rule` tries there after the opener of a goal, between
two rounds, or before a separator that trails. This is so whatever has been called before and
wherever the rule is applied in a run, as long as no rule matches a tag that is empty.
-/
theorem mem_leftCalls_of_makes (built : env.grammar.Built)
    (tagged
      : ∀ rule ∈ env.grammar.visibleRules,
          Expr.sym.Part rule.expr
          → rule.tag ≠ some [])
    {s : MatcherState} (used : env.Used s) {start : Name} {begins : Int} {rule : Rule}
    (visible : rule ∈ env.grammar.visibleRules) {pos : Int} {callee : Name}
    (makes : env.Makes s start begins ⟨rule.name, rule.tag, pos⟩ callee pos)
    : callee ∈ rule.expr.leftCalls env.grammar.ruleTable.nullableNames rule.sigspace
      ∨ callee = "ws"
        ∧ rule.sigspace = true
        ∧ rule.expr.unseenSpace env.grammar.ruleTable.nullableNames = true := by
  by_contra outside
  obtain ⟨listener, silent, heard⟩ := makes
  obtain ⟨resolves, moving⟩ := used.moving built tagged
  have silentAtEdge : ∀ other ∈ env.grammar.visibleRules, ∀ q name at_,
      (at_ = q → other.AtEdge env.grammar.ruleTable.nullableNames name)
      → listener ⟨other.name, other.tag, q⟩ name at_ = pure () := by
    intro other otherVisible q name at_ atEdge
    refine silent _ _ _ fun same => outside ?_
    obtain ⟨sameKey, sameCall⟩ := Prod.mk.inj same
    obtain ⟨rfl, rfl⟩ := Prod.mk.inj sameCall
    obtain ⟨sameName, sameTag, samePos⟩ := Key.mk.inj sameKey
    rw [← built.eq_of_key otherVisible visible sameName sameTag]
    exact atEdge samePos.symm
  exact heard (oneRun_eq
    (heardCall_moving built tagged listener silentAtEdge start begins resolves moving))

-----------------------------------------------------------------------------------------
-- White space that is unseen
-----------------------------------------------------------------------------------------

/-- A goal whose opener matches without consuming anything. -/
def unopenedRule : Rule where
  name := "top"
  expr := .goal (.reference "nothing" none) (.literal ")") (.literal "x")
  kind := .rule

def emptyOpenerRule : Rule where
  name := "nothing"
  expr := .literal ""

/-- A matcher for this goal over a text that it matches. -/
def unopened : MatchEnv where
  grammar := ⟨⟨"goals", [("top", .rule unopenedRule), ("nothing", .rule emptyOpenerRule)]⟩, []⟩
  subject := ⟨("x)" : Text).toArray⟩

theorem unopened_built : unopened.grammar.Built := by
  intro layer member
  obtain rfl := List.mem_singleton.mp member
  have first : Layer.register { name := "goals" } "top" unopenedRule
      = .ok (unopenedRule, ⟨"goals", [("top", .rule unopenedRule)]⟩) := rfl
  have second : Layer.register ⟨"goals", [("top", .rule unopenedRule)]⟩ "nothing" emptyOpenerRule
      = .ok (emptyOpenerRule, unopened.grammar.own) := rfl
  exact .registered (.registered (.empty "goals") first) second

theorem unopenedRule_visible : unopenedRule ∈ unopened.grammar.visibleRules :=
  Grammar.mem_visibleRules.mpr ⟨"top", .rule unopenedRule, rfl, by simp [Entry.rules]⟩

theorem unopened_tagged : ∀ rule ∈ unopened.grammar.visibleRules, rule.tag ≠ some [] := by
  decide +kernel

/-- Where its opener consumes nothing, the goal calls it and then white space at its own offset. -/
theorem unopened_makes
    : unopened.Makes {} "top" 0 ⟨"top", none, 0⟩ "nothing" 0
      ∧ unopened.Makes {} "top" 0 ⟨"top", none, 0⟩ "ws" 0 := by
  obtain ⟨answer, t, ended⟩ : ∃ answer t, unopened.call "top" 0 {} = .ok answer t := ⟨_, _, rfl⟩
  have opens : ∃ fault t,
      unopened.heardCall (stoppingAt ⟨"top", none, 0⟩ "nothing" 0) "top" 0 {} = .error fault t :=
    ⟨_, _, rfl⟩
  have spaces : ∃ fault t,
      unopened.heardCall (stoppingAt ⟨"top", none, 0⟩ "ws" 0) "top" 0 {} = .error fault t :=
    ⟨_, _, rfl⟩
  obtain ⟨_, _, opens⟩ := opens
  obtain ⟨_, _, spaces⟩ := spaces
  exact ⟨.of_stopped opens ended, .of_stopped spaces ended⟩

theorem mem_leftCalls_of_makes_unopened
    : unopened.grammar.Built
      ∧ (∀ rule ∈ unopened.grammar.visibleRules, Expr.sym.Part rule.expr → rule.tag ≠ some [])
      ∧ unopened.Used {}
      ∧ unopenedRule ∈ unopened.grammar.visibleRules
      ∧ unopened.Makes {} "top" 0 ⟨unopenedRule.name, unopenedRule.tag, 0⟩ "nothing" 0
      ∧ ("nothing" : Name) ∈ unopenedRule.expr.leftCalls
          unopened.grammar.ruleTable.nullableNames unopenedRule.sigspace := by
  have tagged rule (visible : rule ∈ unopened.grammar.visibleRules) (_ : Expr.sym.Part rule.expr) :=
    unopened_tagged rule visible
  refine ⟨unopened_built, tagged, .fresh, unopenedRule_visible, unopened_makes.1, ?_⟩
  refine (mem_leftCalls_of_makes unopened_built tagged .fresh unopenedRule_visible
    unopened_makes.1).resolve_right ?_
  rintro ⟨other, -⟩
  exact absurd other (by decide)

/-- White space is called where a goal is tried, and is not among its calls at the left edge. -/
theorem exists_makes_not_mem_leftCalls
    : ∃ (env : MatchEnv) (rule : Rule),
        env.grammar.Built
        ∧ (∀ other ∈ env.grammar.visibleRules, other.tag ≠ some [])
        ∧ rule ∈ env.grammar.visibleRules
        ∧ env.Makes {} rule.name 0 ⟨rule.name, rule.tag, 0⟩ "ws" 0
        ∧ ("ws" : Name) ∉ rule.expr.leftCalls env.grammar.ruleTable.nullableNames
            rule.sigspace := by
  refine ⟨unopened, unopenedRule, unopened_built, unopened_tagged, unopenedRule_visible,
    unopened_makes.2, ?_⟩
  decide +kernel

end MatchEnv

end RuleGrammar
