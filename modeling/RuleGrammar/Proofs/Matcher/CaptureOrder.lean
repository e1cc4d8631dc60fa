import RuleGrammar.Proofs.Grammar.Built
import RuleGrammar.Proofs.MatchTree.Children
import RuleGrammar.Proofs.Matcher.Ensuring
import RuleGrammar.Proofs.Matcher.Recording

/-! The order of what a rule captured. The node that an application makes has the nodes of its log
as children, by the offsets where they start; it keeps them by name, so what starts at one offset
may change places unless it was captured under one name.
-/

namespace RuleGrammar.MatchEnv

variable {env : MatchEnv} {room : Nat} {scope : Scope} {rule : Rule} {pos : Int}
  {s t : MatcherState} {m : Match}

/-- The calls that a body makes answer with nodes of the history. -/
theorem records_callWithin (env : MatchEnv) (room : Nat) (scope : Scope) (rule : Rule) (pos : Int)
    : Site.Records ⟨env.subject, rule, scope.enter rule pos, callWithin env room⟩ :=
  ⟨fun inner name _ _ inside =>
    AnswersFrom.callName name fun other _ => .applyRule room inner other inside⟩

/-- What an evaluation answers is the node of what the body reaches: before it the trace may get a
line, and behind it the answer is traced and kept.
-/
theorem exists_body_of_evaluateRule
    (ended : evaluateRule env scope rule pos (callWithin env room) s = .ok (some m) t)
    : ∃ s' r t',
        traceStart env scope rule pos s = .ok () s'
        ∧ env.evalBody room scope rule pos s' = .ok (some r) t'
        ∧ m = .ofLog ⟨t'.nextId, pos, r.stop, rule.name, rule.tag⟩ r.caught := by
  obtain ⟨answer, _, answered, ended⟩ := bind_eq_ok.mp ended
  obtain ⟨_, _, -, ended⟩ := bind_eq_ok.mp ended
  cases ended
  obtain ⟨s', reached, t', started, ran, same⟩ := exists_body_of_answerRule answered
  obtain ⟨r, rfl, rfl⟩ := Option.map_eq_some_iff.mp same.symm
  exact ⟨s', r, t', started, ran, rfl⟩

/-- The children of what an application makes are the nodes that its body captured, each once, by
the offsets where they start. They stand as they were captured exactly if those of each offset do
in the node; so they do where each offset has one name, and then each ends before the next starts.
-/
theorem children_of_evaluateRule {nodes : List Match} (made : s.Made env.subject.size nodes)
    (inside : env.subject.Inside pos)
    (ended : evaluateRule env scope rule pos (callWithin env room) s = .ok (some m) t)
    : ∃ s' r t',
        traceStart env scope rule pos s = .ok () s'
        ∧ env.evalBody room scope rule pos s' = .ok (some r) t'
        ∧ m.children.Perm (logNodes r.caught)
        ∧ m.children.map Match.start = (logNodes r.caught).map Match.start
        ∧ (m.children = logNodes r.caught
          ↔ ∀ q, startingAt q m.captured = startingAt q (logNodes r.caught))
        ∧ (NamedByStart r.caught
          → m.children = logNodes r.caught
            ∧ m.children.Pairwise fun a b => a.stop ≤ b.start) := by
  obtain ⟨s', r, t', started, ran, rfl⟩ := exists_body_of_evaluateRule ended
  obtain ⟨before, -, madeHere, -⟩ := Grows.traceStart env scope rule pos s made () s' started
  obtain ⟨later, -, -, found⟩ := Site.recorded_eval (env.records_callWithin room scope rule pos)
    rule.expr before pos inside s' madeHere (some r) t' ran
  have order := (found r rfl).order
  refine ⟨s', r, t', started, ran, Match.children_ofLog_perm _ _,
    Match.map_start_children_ofLog order.ascending, Match.children_ofLog_iff order.ascending, ?_⟩
  intro named
  rw [Match.children_ofLog order.ascending named]
  exact ⟨rfl, order.follow⟩

/-- A rule that captures what matches nothing under two names, and a letter under the first again.
-/
def returningRule : Rule where
  name := "returning"
  expr := .sequence
    [.reference "nothing" (some "first"), .reference "nothing" (some "second"),
      .reference "alpha" (some "first")]

/-- A rule that matches nothing. -/
def nothingRule : Rule where
  name := "nothing"
  expr := .literal []

/-- A matcher for these rules over one letter. -/
def returns : MatchEnv where
  grammar := ⟨⟨"order", [("returning", .rule returningRule), ("nothing", .rule nothingRule)]⟩, []⟩
  subject := ⟨#['x']⟩

theorem returns_built : returns.grammar.Built := by
  intro layer member
  obtain rfl := List.mem_singleton.mp member
  have first : Layer.register { name := "order" } "returning" returningRule
      = .ok (returningRule, ⟨"order", [("returning", .rule returningRule)]⟩) := rfl
  have second : Layer.register ⟨"order", [("returning", .rule returningRule)]⟩ "nothing" nothingRule
      = .ok (nothingRule, returns.grammar.own) := rfl
  exact .registered (.registered (.empty "order") first) second

/-- All three nodes are children, all of them at the start. -/
theorem children_of_evaluateRule_returning
    : MatcherState.Made {} returns.subject.size []
      ∧ returns.subject.Inside 0
      ∧ ∃ m t,
          evaluateRule returns {} returningRule 0 (callWithin returns 1) {} = .ok (some m) t
          ∧ ∃ s' r t',
              traceStart returns {} returningRule 0 {} = .ok () s'
              ∧ returns.evalBody 1 {} returningRule 0 s' = .ok (some r) t'
              ∧ m.children.Perm (logNodes r.caught)
              ∧ m.children.map Match.start = (logNodes r.caught).map Match.start := by
  have made := MatcherState.Made.initial returns.subject.size
  have inside : returns.subject.Inside 0 := ⟨by decide, by decide⟩
  obtain ⟨m, t, ended⟩ : ∃ m t,
      evaluateRule returns {} returningRule 0 (callWithin returns 1) {} = .ok (some m) t :=
    ⟨_, _, rfl⟩
  obtain ⟨s', r, t', started, ran, all, starts, -⟩ := children_of_evaluateRule made inside ended
  exact ⟨made, inside, m, t, ended, s', r, t', started, ran, all, starts⟩

/-- The letter stands with the first node that it shares its name with, before the second node: not
where it was captured, and it ends behind the start of the next.
-/
theorem exists_children_out_of_order
    : ∃ (env : MatchEnv) (rule : Rule) (m : Match) (t t' : MatcherState) (r : Reached),
        env.grammar.Built
        ∧ rule ∈ env.grammar.visibleRules
        ∧ evaluateRule env {} rule 0 (callWithin env 1) {} = .ok (some m) t
        ∧ env.evalBody 1 {} rule 0 {} = .ok (some r) t'
        ∧ m.children ≠ logNodes r.caught
        ∧ ¬ m.children.Pairwise fun a b => a.stop ≤ b.start := by
  obtain ⟨m, t, ended, kept⟩ : ∃ m t,
      evaluateRule returns {} returningRule 0 (callWithin returns 1) {} = .ok (some m) t
      ∧ m.captured.map (fun child => (child.start, child.stop)) = [(0, 0), (0, 1), (0, 0)] :=
    ⟨_, _, rfl, rfl⟩
  obtain ⟨r, t', ran, caught⟩ : ∃ r t',
      returns.evalBody 1 {} returningRule 0 {} = .ok (some r) t'
      ∧ (logNodes r.caught).map (fun child => (child.start, child.stop))
        = [(0, 0), (0, 0), (0, 1)] :=
    ⟨_, _, rfl, rfl⟩
  have starts : ∀ child ∈ m.captured, child.start = 0 := by
    intro child member
    have span := List.mem_map_of_mem (f := fun child : Match => (child.start, child.stop)) member
    rw [kept] at span
    simp at span
    omega
  have children := Match.children_of_start starts
  have visible : returningRule ∈ returns.grammar.visibleRules :=
    Grammar.mem_visibleRules.mpr ⟨"returning", _, rfl, List.mem_singleton_self _⟩
  refine ⟨returns, returningRule, m, t, t', r, returns_built, visible, ended, ran, ?_, ?_⟩
  · intro same
    rw [← children, same, caught] at kept
    cases kept
  · intro follow
    rw [children] at follow
    have spans : (m.captured.map fun child => (child.start, child.stop)).Pairwise
        fun a b => a.2 ≤ b.1 :=
      List.pairwise_map.mpr follow
    rw [kept] at spans
    revert spans
    decide

end RuleGrammar.MatchEnv
