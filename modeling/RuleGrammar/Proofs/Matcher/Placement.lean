import RuleGrammar.Proofs.Action.Acting
import RuleGrammar.Proofs.Matcher.Memoization
import RuleGrammar.Proofs.Matcher.Recording

/-! Match trees are well placed: every node lies inside the subject and inside its parent, and what
one node captured is apart and in order, whatever the grammar and however the matcher is set up.
-/

namespace RuleGrammar.MatchEnv

variable {env : MatchEnv} {start : Name} {pos : Int} {anchored : Bool} {root : Match}

/-- A match that counts is the answer of its call: nothing else is done to it. -/
theorem call_of_matched {s t : MatcherState}
    (ended : matchFrom env start pos anchored s = .ok (.matched root) t)
    : env.call start pos s = .ok (some root) t ∧ isComplete env anchored root = true := by
  rcases matchFrom_cases env start pos anchored s with
    ⟨_, _, -, stopped⟩ | ⟨_, _, called, complete, matched⟩ | ⟨_, _, _, -, -, failed⟩
  · cases ended.symm.trans stopped
  · cases ended.symm.trans matched
    exact ⟨called, complete⟩
  · cases ended.symm.trans failed

/-- A run that matches is a call from a fresh state, past the checks of its start. -/
theorem call_of_run (ended : (run env start pos anchored).outcome = .ok (.matched root))
    : (∃ t, env.call start pos {} = .ok (some root) t)
      ∧ isComplete env anchored root = true := by
  obtain ⟨-, t, matched⟩ := run_outcome_eq_ok.mp ended
  obtain ⟨called, complete⟩ := call_of_matched matched
  exact ⟨⟨t, called⟩, complete⟩

/-- What a run matches is a node of the history that the run leaves, from where it began. -/
theorem exists_history_of_run (inside : env.subject.Inside pos)
    (ended : (run env start pos anchored).outcome = .ok (.matched root))
    : ∃ nodes,
        History env.subject.size nodes
        ∧ root.From env.subject.size nodes pos := by
  obtain ⟨⟨t, called⟩, -⟩ := call_of_run ended
  have answers : AnswersFrom env.subject.size pos [] (callName env
      (applyRule env (env.room [] pos) {}) start pos) :=
    .callName start fun rule _ => .applyRule _ _ rule inside
  obtain ⟨nodes, -, made, found⟩ := answers {} (.initial _) _ t called
  exact ⟨nodes, made.history, found root rfl⟩

/-- In what a run matches, nodes of one identity are one node: they have one place in its history.
-/
theorem coherent_of_run (inside : env.subject.Inside pos)
    (ended : (run env start pos anchored).outcome = .ok (.matched root))
    : root.Coherent := by
  obtain ⟨nodes, history, found⟩ := exists_history_of_run inside ended
  have known := history.walk_subset root found.member
  exact fun m inTree n inTree' same => history.eq_of_id (known inTree) (known inTree') same

/-- A match starts where it was asked for, and all nodes of its tree are placed in the subject:
each spans a stretch of it, encloses what it captured, and captured it apart and in order.
-/
theorem run_placed (inside : 0 ≤ pos ∧ pos ≤ env.subject.size)
    (ended : (run env start pos anchored).outcome = .ok (.matched root))
    : root.start = pos ∧ ∀ node ∈ root.walk, node.Placed env.subject.size := by
  obtain ⟨nodes, history, found⟩ := exists_history_of_run inside ended
  refine ⟨found.start, fun node inTree => ?_⟩
  exact history.placed node (history.walk_subset root found.member inTree)

/-- The chain of two letters matches as one node inside another. -/
theorem run_placed_chain
    : (0 ≤ (0 : Int) ∧ (0 : Int) ≤ chain.subject.size)
      ∧ ∃ root,
          (run chain "a" 0 true).outcome = .ok (.matched root)
          ∧ root.start = 0
          ∧ ∀ node ∈ root.walk, node.Placed chain.subject.size := by
  have inside : 0 ≤ (0 : Int) ∧ (0 : Int) ≤ chain.subject.size := by decide
  obtain ⟨root, ended⟩
      : ∃ root, (run chain "a" 0 true).outcome = .ok (.matched root) := ⟨_, rfl⟩
  exact ⟨inside, root, ended, run_placed inside ended⟩

end RuleGrammar.MatchEnv
