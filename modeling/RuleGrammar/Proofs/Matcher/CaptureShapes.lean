import RuleGrammar.Proofs.Grammar.Built
import RuleGrammar.Proofs.Matcher.Accounting
import RuleGrammar.Proofs.Matcher.Ensuring
import RuleGrammar.Proofs.Matcher.Halting
import RuleGrammar.Proofs.Matcher.Invariants

/-! The shapes of captures. A name stands for a list in the node that a rule makes if a repetition
that may go round more than once took part in the match and may capture under it; apart from that
it stands for a list exactly if it captured more than once.
-/

namespace RuleGrammar

-----------------------------------------------------------------------------------------
-- Nodes and accounts
-----------------------------------------------------------------------------------------

/-- What stands for the nodes of a name that nothing makes a list: nothing for none of them, and a
list only for more than one.
-/
def Capture.ofNodes? (key : Name) : List Match → Option Capture
  | [] => none
  | [node] => some (.single key node)
  | nodes => some (.listed key nodes)

/-- A node captures what took part in its match. All of its names can be read off the expression,
those of a repetition that may go round again stand for lists of the nodes that were captured under
them, be there any or not, and each other name stands for a list exactly if there is more than one.
-/
structure Match.ShapedBy (m : Match) (e : Expr) (parts : List Part) : Prop where
  names : ∀ capture ∈ m.named, capture.name ≠ [] → capture.name ∈ e.captureNames
  listed : ∀ key ≠ [],
    ListedAmong parts key
    → m.get? key = some (.listed key (parts.filterMap (Part.nodeNamed? key)))
  counted : ∀ key ≠ [],
    ¬ ListedAmong parts key
    → m.get? key = Capture.ofNodes? key (parts.filterMap (Part.nodeNamed? key))

/-- A name that nothing in a log makes a list stands in the log if a node does under it. -/
theorem mem_names_iff_of_unlisted {log : List Caught} {key : Name}
    (unlisted : listsName log key = false)
    : key ∈ log.filterMap Caught.name ↔ log.filterMap (Caught.nodeNamed? key) ≠ [] := by
  rw [Ne, List.filterMap_eq_nil_iff, List.mem_filterMap]
  push Not
  refine exists_congr fun entry => and_congr_right fun inLog => ?_
  cases entry with
  | mark name =>
      have other : ¬ name = key := fun same =>
        List.any_eq_false.mp unlisted _ inLog (by simp [Caught.name, Caught.makesList, same])
      simp [Caught.name, Caught.nodeNamed?, other]
  | node name m listed => cases name <;> simp [Caught.name, Caught.nodeNamed?]

/-- A name that nothing in a log makes a list is captured as its nodes are counted. -/
theorem Match.get?_ofLog_of_unlisted {info : NodeInfo} {log : List Caught} {key : Name}
    (unlisted : listsName log key = false)
    : (Match.ofLog info log).get? key
      = Capture.ofNodes? key (log.filterMap (Caught.nodeNamed? key)) := by
  have stands := mem_names_iff_of_unlisted unlisted
  by_cases member : key ∈ log.filterMap Caught.name
  · rw [get?_ofLog member, Capture.ofLog, ← listsName, unlisted]
    have some_ := stands.mp member
    cases nodes : log.filterMap (Caught.nodeNamed? key) with
    | nil => exact absurd nodes some_
    | cons first rest => cases rest <;> rfl
  · rw [get?_ofLog_of_absent member, not_not.mp (mt stands.mpr member)]
    rfl

/-- A log that shows what took part folds into a node with captures of its shape. -/
theorem Shows.shapedBy {e : Expr} {log : List Caught} {parts : List Part}
    (shows_ : Shows e.captures false log parts) (info : NodeInfo)
    : (Match.ofLog info log).ShapedBy e parts where
  names capture member counts := by
    obtain ⟨name, inLog, rfl⟩ := List.mem_map.mp member
    rw [Capture.name_ofLog] at counts ⊢
    exact mem_distinct.mpr (shows_.among name counts (mem_distinct.mp inLog))
  listed key counts listed := by
    have lists := shows_.lists key counts listed
    rw [Match.get?_ofLog (mem_names_of_listsName lists), Capture.ofLog, ← listsName, lists,
      shows_.nodes]
    rfl
  counted key counts plain := by
    have unlisted := Bool.eq_false_iff.mpr (mt (shows_.exact rfl key counts) plain)
    rw [Match.get?_ofLog_of_unlisted unlisted, shows_.nodes]

-----------------------------------------------------------------------------------------
-- Remembered answers
-----------------------------------------------------------------------------------------

namespace MatchEnv

variable {env : MatchEnv} {room : Nat} {scope : Scope} {rule : Rule} {pos : Int}
  {s t : MatcherState} {m : Match}

/-- All that a state knows of visible rules are answers that their bodies gave. -/
structure Remembers (env : MatchEnv) (s : MatcherState) : Prop where
  resolves : s.Resolves env.grammar
  known : ∀ rule ∈ env.grammar.visibleRules, ∀ pos answer,
    s.memo.find? ⟨rule.name, rule.tag, pos⟩ = some answer
    → env.Evaluates rule pos answer

theorem Remembers.initial (env : MatchEnv) : env.Remembers {} where
  resolves := .initial env.grammar
  known rule _ pos answer found := by
    rw [Memo.find?_empty] at found
    cases found

/-- Matching remembers only what bodies gave: a key belongs to no other visible rule. -/
theorem remembers_invariant (built : env.grammar.Built)
    : env.Invariant env.Remembers (fun _ => True) (· ∈ env.grammar.visibleRules) where
  literal := fun _ _ => trivial
  next := fun _ _ => trivial
  fresh := fun kept => ⟨kept.resolves, kept.known⟩
  trace := fun _ kept => ⟨kept.resolves, kept.known⟩
  resolve := fun name => maintains_resolveOnce name (·.resolves) fun kept resolves =>
    ⟨resolves, kept.known⟩
  known := fun _ _ _ _ _ => trivial
  note := fun _ _ _ _ kept => ⟨kept.resolves, kept.known⟩
  insert := fun visible _ _ evaluated kept => by
    refine ⟨kept.resolves, fun other otherVisible at_ answer found => ?_⟩
    rcases Memo.find?_insert_cases found with ⟨same, rfl⟩ | before
    · cases built.eq_of_key otherVisible visible (congrArg Key.rule same) (congrArg Key.tag same)
      cases congrArg Key.pos same
      exact evaluated
    · exact kept.known other otherVisible at_ answer before

/-- What an application answers, the body of the rule gave, now or before. -/
theorem Remembers.evaluates (kept : env.Remembers s) (visible : rule ∈ env.grammar.visibleRules)
    {answer : Option Match} (applied : applyRule env room scope rule pos s = .ok answer t)
    : env.Evaluates rule pos answer := by
  rw [applyRule_eq_guarded] at applied
  rcases guarded_ends env scope rule pos (applyFresh env room scope rule pos) s with
    ⟨known, -, found, ran⟩ | ⟨fault, ran⟩ | ran
  · cases ran.symm.trans applied
    exact kept.known rule visible pos answer found
  · cases ran.symm.trans applied
  · have fresh := ran.symm.trans applied
    cases room with
    | zero => cases fresh
    | succ room =>
        obtain ⟨_, u, answered, ended⟩ := bind_eq_ok.mp fresh
        obtain ⟨_, _, -, ended⟩ := bind_eq_ok.mp ended
        cases ended
        exact ⟨room, scope, s, u, answered⟩

-----------------------------------------------------------------------------------------
-- Applications
-----------------------------------------------------------------------------------------

/-- The body of a rule as it is evaluated when the rule is applied in a scope, with an account of
what takes part.
-/
abbrev accountBody (env : MatchEnv) (room : Nat) (scope : Scope) (rule : Rule) (pos : Int)
    : MatchM (Option (Account Reached)) :=
  Accounted.eval ⟨env.subject, rule, scope.enter rule pos, callWithin env room⟩ rule.expr pos

/-- What an application makes is the node of an evaluation of the rule's body, and its captures are
shaped by what took part in that.
-/
theorem applyRule_shapedBy (built : env.grammar.Built)
    (visible : rule ∈ env.grammar.visibleRules) (kept : env.Remembers s)
    (applied : applyRule env room scope rule pos s = .ok (some m) t)
    : env.Remembers t
      ∧ ∃ room' scope' s' t' account,
          env.evalBody room' scope' rule pos s' = .ok (some account.value) t'
          ∧ env.accountBody room' scope' rule pos s' = .ok (some account) t'
          ∧ m
            = .ofLog ⟨t'.nextId, pos, account.value.stop, rule.name, rule.tag⟩
              account.value.caught
          ∧ m.ShapedBy rule.expr account.parts := by
  have after := ((remembers_invariant built).applyRule room (fun _ => remembers_invariant built)
    visible trivial).of_ok kept applied
  obtain ⟨room', scope', s₀, _, answered⟩ := kept.evaluates visible applied
  obtain ⟨s', reached, t', -, ran, same⟩ := exists_body_of_answerRule answered
  obtain ⟨r, rfl, rfl⟩ := Option.map_eq_some_iff.mp same.symm
  obtain ⟨answer, accounted, image, shown⟩ := (Accounted.accounts_eval _ rule.expr pos).of_ok ran
  obtain ⟨account, rfl, rfl⟩ := Option.map_eq_some_iff.mp image
  exact ⟨after.1, room', scope', s', t', account, ran, accounted, rfl,
    (shown account rfl).shapedBy _⟩

/-- A rule for a letter and any number of digits behind it. -/
def tailedRule : Rule where
  name := "tailed"
  expr := .sequence
    [.reference "alpha" (some "head"),
      .repetition (.reference "digit" (some "tail")) 0 none none false]

/-- A matcher for that rule over a letter without digits. -/
def tailed : MatchEnv where
  grammar := ⟨⟨"tails", [("tailed", .rule tailedRule)]⟩, []⟩
  subject := ⟨#['x']⟩

theorem tailed_built : tailed.grammar.Built := by
  intro layer member
  obtain rfl := List.mem_singleton.mp member
  have done : Layer.register { name := "tails" } "tailed" tailedRule
      = .ok (tailedRule, tailed.grammar.own) := rfl
  exact .registered (.empty "tails") done

/-- The letter stands alone, and the digits are a list, though there are none. -/
theorem applyRule_shapedBy_tailed
    : tailed.grammar.Built
      ∧ tailedRule ∈ tailed.grammar.visibleRules
      ∧ tailed.Remembers {}
      ∧ ∃ m t,
          applyRule tailed 2 {} tailedRule 0 {} = .ok (some m) t
          ∧ (∃ letter, m.get? "head" = some (.single "head" letter))
          ∧ m.get? "tail" = some (.listed "tail" [])
          ∧ tailed.Remembers t
          ∧ ∃ parts, m.ShapedBy tailedRule.expr parts := by
  have visible : tailedRule ∈ tailed.grammar.visibleRules :=
    Grammar.mem_visibleRules.mpr ⟨"tailed", _, rfl, List.mem_singleton_self _⟩
  have kept := Remembers.initial tailed
  obtain ⟨m, t, applied, head, tail⟩ : ∃ m t,
      applyRule tailed 2 {} tailedRule 0 {} = .ok (some m) t
      ∧ (∃ letter, m.get? "head" = some (.single "head" letter))
      ∧ m.get? "tail" = some (.listed "tail" []) :=
    ⟨_, _, rfl, ⟨_, rfl⟩, rfl⟩
  obtain ⟨after, _, _, _, _, account, -, -, -, shaped⟩ :=
    applyRule_shapedBy tailed_built visible kept applied
  exact ⟨tailed_built, visible, kept, m, t, applied, head, tail, after, account.parts, shaped⟩

end MatchEnv

end RuleGrammar
