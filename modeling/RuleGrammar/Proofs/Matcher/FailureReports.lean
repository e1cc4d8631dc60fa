import RuleGrammar.Proofs.Matcher.Limits
import RuleGrammar.Proofs.Matcher.Memoization
import RuleGrammar.Proofs.Matcher.Soundness

/-! Failure reports with and without a memo. What is known is not evaluated again, so the failures
in it are not noted again. Reports agree all the same, but for the goal that they name if several
are missed where they have come: it is the last one noted.
-/

namespace RuleGrammar

-----------------------------------------------------------------------------------------
-- Goals that are named
-----------------------------------------------------------------------------------------

namespace Furthest

variable {f : Furthest} {missed : Option Name → Int → Text → Prop}

/-- A goal that a record names is all that it expects, and one that is missed where it says. -/
def Genuine (missed : Option Name → Int → Text → Prop) (f : Furthest) : Prop :=
  ∀ what ∈ f.goal, f.expected = [what] ∧ missed f.rule f.position what

namespace Genuine

theorem empty : Genuine missed {} :=
  nofun

theorem text (genuine : f.Genuine missed) (rule : Option Name) (pos : Int) (what : Text)
    : (f.note (.text rule pos what)).Genuine missed := by
  intro goal named
  have same := note_text_of_named (Option.isSome_iff_exists.mpr ⟨goal, named⟩)
  rw [same] at named ⊢
  exact genuine goal named

theorem goal (genuine : f.Genuine missed) {rule : Option Name} {pos : Int} {what : Text}
    (here : missed rule pos what)
    : (f.note (.goal rule pos what)).Genuine missed := by
  by_cases reached : f.position ≤ pos
  · rw [note_goal reached]
    rintro _ ⟨⟩
    exact ⟨rfl, here⟩
  · have behind : (Note.goal rule pos what).pos < f.position := Int.not_le.mp reached
    rw [note_of_lt behind]
    exact genuine

end Genuine

end Furthest

-----------------------------------------------------------------------------------------
-- Failures
-----------------------------------------------------------------------------------------

/-- A failure that names a goal is the record as it is, under the name of the start if the record
has none.
-/
theorem Failure.ofFurthest_of_goal {start : Name} {pos : Int} {f : Furthest} {what : Text}
    (named : what ∈ (Failure.ofFurthest start pos f).goal)
    : what ∈ f.goal
      ∧ (Failure.ofFurthest start pos f).position = f.position
      ∧ (Failure.ofFurthest start pos f).expected = f.expected
      ∧ ∀ rule ∈ f.rule,
          (Failure.ofFurthest start pos f).rule = if rule.isEmpty then start else rule := by
  unfold Failure.ofFurthest at named ⊢
  split at named
  · cases named
  · rename_i noted
    rw [if_neg noted]
    refine ⟨named, rfl, rfl, fun rule reported => ?_⟩
    simp only [Option.mem_def.mp reported]

/-- What a failure of a match says of a goal is so: its closer is all that is expected, and if all
classes compile, then a goal with this closer, of the rule that is reported, is missed where the
match failed.
-/
structure Failure.Truthful (g : Grammar) (subject : Subject) (start : Name) (pos : Int)
    (f : Failure)
    : Prop where
  expected : ∀ what ∈ f.goal, f.expected = [what]
  missed
    : (∀ rule ∈ g.visibleRules, ∀ cls ∈ rule.expr.classes, cls.fault? = none)
      → ∀ what ∈ f.goal,
          ∃ rule : Rule,
            f.rule = (if rule.qualified.isEmpty then start else rule.qualified)
            ∧ MissedGoal g subject (· = .call start pos) rule f.position what

/-- All goals that a match misses at an offset have one closer and are of rules with one name. -/
def OneGoalMissed (g : Grammar) (subject : Subject) (start : Name) (pos closing : Int) : Prop :=
  ∀ rule rule' what what',
    MissedGoal g subject (· = .call start pos) rule closing what
    → MissedGoal g subject (· = .call start pos) rule' closing what'
    → rule.qualified = rule'.qualified ∧ what = what'

/-- Two failures agree: they are at one position, and they are the same or both name a goal. -/
structure Failure.Agrees (f g : Failure) : Prop where
  position : f.position = g.position
  goal : f.goal.isSome = g.goal.isSome
  same : f.goal = none → f = g

namespace Failure.Agrees

variable {f g : Failure}

/-- Records in agreement are reported as failures that agree. -/
theorem ofFurthest {f g : Furthest} (agrees : f.Agrees g) (start : Name) (pos : Int)
    : Failure.Agrees (.ofFurthest start pos f) (.ofFurthest start pos g) := by
  unfold Failure.ofFurthest
  rw [← agrees.position]
  split
  · exact ⟨rfl, rfl, fun _ => rfl⟩
  · exact ⟨rfl, agrees.goal, fun goalless => by rw [agrees.same goalless]⟩

/-- Failures that agree are the same where no two goals are missed. -/
theorem eq_of_oneGoalMissed {h : Grammar} {subject : Subject} {start : Name} {pos : Int}
    (agrees : f.Agrees g) (truthful : f.Truthful h subject start pos)
    (truthful' : g.Truthful h subject start pos)
    (compiles : ∀ rule ∈ h.visibleRules, ∀ cls ∈ rule.expr.classes, cls.fault? = none)
    (one : OneGoalMissed h subject start pos f.position)
    : f = g := by
  cases named : f.goal with
  | none => exact agrees.same named
  | some what =>
      obtain ⟨what', named'⟩ := Option.isSome_iff_exists.mp (by rw [← agrees.goal, named]; rfl)
      obtain ⟨rule, reported, missed⟩ := truthful.missed compiles what named
      obtain ⟨rule', reported', missed'⟩ := truthful'.missed compiles what' named'
      obtain ⟨sameName, rfl⟩ := one rule rule' what what' missed (agrees.position ▸ missed')
      have position := agrees.position
      have expected := (truthful.expected what named).trans (truthful'.expected what named').symm
      have sameRule : f.rule = g.rule := by rw [reported, reported', sameName]
      have goal := named.trans named'.symm
      cases f
      cases g
      rw [Failure.mk.injEq]
      exact ⟨position, sameRule, expected, goal⟩

end Failure.Agrees

-----------------------------------------------------------------------------------------
-- What a call notes
-----------------------------------------------------------------------------------------

namespace MatchEnv

variable {env : MatchEnv} {start : Name} {pos : Int} {anchored : Bool}

/-- Calls never name a goal beside other things that are expected. -/
theorem upkeep_genuine (env : MatchEnv)
    : env.Upkeep fun memo f =>
        Memo.Ahead env.subject memo ∧ f.Genuine fun _ _ _ => True where
  ahead _ _ kept := kept.1
  note note kept := by
    refine ⟨kept.1, ?_⟩
    cases note with
    | text rule pos what => exact kept.2.text rule pos what
    | goal rule pos what => exact kept.2.goal trivial
  insert _ _ stops kept := ⟨kept.1.insert stops, kept.2⟩

/-- What is kept during a call whose rules are fit to be evaluated: known answers can be derived,
and a goal that the record names is one that the call misses.
-/
structure Reporting (env : MatchEnv) (start : Name) (pos : Int) (memo : Memo) (f : Furthest)
    : Prop where
  known
    : ∀ rule ∈ env.grammar.visibleRules, ∀ q answer,
        memo.find? ⟨rule.name, rule.tag, q⟩ = some answer
        → Derives env.grammar env.subject (.apply rule q (answer.map Match.bare))
  goal
    : f.Genuine fun reported closing what =>
        ∃ rule : Rule,
          reported = some rule.qualified
          ∧ MissedGoal env.grammar env.subject (· = .call start pos) rule closing what

theorem Reporting.initial (env : MatchEnv) (start : Name) (pos : Int)
    : env.Reporting start pos {} {} where
  known rule _ q answer found := by
    rw [Memo.find?_empty] at found
    cases found
  goal := .empty

/-- An answer that can be derived may be kept: in a grammar that was built, it is known for its own
rule only.
-/
theorem Reporting.insert {memo : Memo} {f : Furthest} (reporting : env.Reporting start pos memo f)
    (built : env.grammar.Built) {rule : Rule} (visible : rule ∈ env.grammar.visibleRules) {q : Int}
    {answer : Option Match}
    (derived : Derives env.grammar env.subject (.apply rule q (answer.map Match.bare)))
    : env.Reporting start pos (memo.insert ⟨rule.name, rule.tag, q⟩ answer) f where
  known other otherVisible q' answer' found := by
    rcases Memo.find?_insert_cases found with ⟨same, rfl⟩ | before
    · obtain ⟨name, tag, rfl⟩ := Key.mk.inj same
      rw [built.eq_of_key otherVisible visible name tag]
      exact derived
    · exact reporting.known other otherVisible q' answer' before
  goal := reporting.goal

/-- Any fault is allowed during such a call. -/
abbrev reporting (env : MatchEnv) (start : Name) (pos : Int) : Terms where
  keeps := env.Reporting start pos
  allowed _ := True
  text kept rule q what := ⟨kept.known, kept.goal.text rule q what⟩

section Compiling

variable (built : env.grammar.Built)
  (compiles : ∀ rule ∈ env.grammar.visibleRules, ∀ cls ∈ rule.expr.classes, cls.fault? = none)

include built compiles

/-- What a rule gives that a call tries can be derived, and the goals that are noted on the way are
missed by the call. Induction on the room.
-/
theorem applyRule_reports (room : Nat) (scope : Scope) {rule : Rule}
    (visible : rule ∈ env.grammar.visibleRules) (q : Int)
    (tried
      : scope.quiet = false
        → Tried env.grammar env.subject (· = .call start pos) (.expr rule rule.expr q))
    : Ends env.grammar (env.reporting start pos) (applyRule env room scope rule q) fun m =>
        Derives env.grammar env.subject (.apply rule q (m.map Match.bare)) := by
  have known memo f (answer : Option Match) (kept : env.Reporting start pos memo f) :=
    kept.known rule visible q answer
  induction room generalizing scope rule q with
  | zero => exact .guarded known trivial (fun _ => trivial) (.throw trivial)
  | succ room ih =>
      refine .guarded known trivial (fun _ => trivial) ?_
      -- a call that stops at a fault reports nothing, so that names and tags may be at fault
      have fit : rule.expr.Fit env.grammar (env.reporting start pos) rule := {
        names := fun _ => Or.inr trivial
        tags := fun _ => Or.inr trivial
        classes := fun inside =>
          CharClass.exists_of_fault? (compiles rule visible _ inside.mem_classes)
      }
      refine (answerRule_derives ?_ fit tried).bind fun answer derived => ?_
      · exact {
          call := fun inner name q' tried =>
            callName_derives inner tried fun other visible tried =>
              ih inner visible q' tried fun memo f answer kept =>
                kept.known other visible q' answer
          goal := fun _ missed _ _ kept => ⟨kept.known, kept.goal.goal ⟨rule, rfl, missed⟩⟩
          room := fun _ _ => trivial
        }
      · refine (Ends.remember fun _ _ _ kept => ?_).bind fun _ _ => .pure derived
        exact Reporting.insert kept built visible derived

theorem call_reports {answer : Option Match} {t : MatcherState}
    (ended : env.call start pos {} = .ok answer t)
    : env.Reporting start pos t.memo t.furthest := by
  have tried : Tried env.grammar env.subject (· = .call start pos) (.call start pos) := .begin rfl
  have called : Ends env.grammar (env.reporting start pos)
      (callName env (applyRule env (env.room [] pos) {}) start pos) fun m =>
        Derives env.grammar env.subject (.call start pos (m.map Match.bare)) :=
    callName_derives {} (fun _ => tried)
      (fun _ visible tried => applyRule_reports built compiles _ {} visible pos tried)
      (Or.inr trivial)
  rcases called {} (.initial env.grammar) (.initial env start pos) with
    ⟨_, _, ran, -, kept, -⟩ | ⟨_, _, ran, -⟩
  · cases ended.symm.trans ran
    exact kept
  · cases ended.symm.trans ran

end Compiling

-----------------------------------------------------------------------------------------
-- What a run reports
-----------------------------------------------------------------------------------------

/-- A run that fails has called its start, and reports a record that says of goals no more than what
was noted by then.
-/
theorem exists_call_of_failed {f : Failure}
    (failed : (run env start pos anchored).outcome = .ok (.failed f))
    : ∃ answer t reach,
        env.call start pos {} = .ok answer t
        ∧ f = .ofFurthest start pos reach
        ∧ ∀ missed, t.furthest.Genuine missed → reach.Genuine missed := by
  obtain ⟨-, v, ended⟩ := run_outcome_eq_ok.mp failed
  rcases matchFrom_cases env start pos anchored {} with
    ⟨_, _, -, stopped⟩ | ⟨_, _, -, -, matched⟩ | ⟨answer, t, u, called, noted, failed⟩
  · cases ended.symm.trans stopped
  · cases ended.symm.trans matched
  · cases ended.symm.trans failed
    refine ⟨answer, t, v.furthest, called, rfl, fun missed genuine => ?_⟩
    rcases noted with rfl | ⟨stop, furthest⟩
    · exact genuine
    · rw [furthest]
      exact genuine.text _ _ _

/-- Whatever the configuration, what a failed run says of a goal is so. -/
theorem truthful_of_failed (built : env.grammar.Built) {f : Failure}
    (failed : (run env start pos anchored).outcome = .ok (.failed f))
    : f.Truthful env.grammar env.subject start pos := by
  obtain ⟨answer, t, reach, called, rfl, genuine⟩ := exists_call_of_failed failed
  constructor
  · intro what named
    obtain ⟨named, -, expected, -⟩ := Failure.ofFurthest_of_goal named
    have initial : Memo.Ahead env.subject {} ∧ Furthest.Genuine (fun _ _ _ => True) {} :=
      ⟨(MatcherState.Sane.initial env).memo, .empty⟩
    obtain ⟨-, -, noted⟩ := (upkeep_genuine env).used initial (.answered .fresh called)
    rw [expected]
    exact (genuine _ noted what named).1
  · intro compiles what named
    obtain ⟨named, position, -, reported⟩ := Failure.ofFurthest_of_goal named
    obtain ⟨-, rule, noted, missed⟩ :=
      genuine _ (call_reports built compiles called).goal what named
    rw [position]
    exact ⟨rule, reported _ noted, missed⟩

-----------------------------------------------------------------------------------------
-- Two reports
-----------------------------------------------------------------------------------------

/-- Where a run without limits fails, it also fails with the memo switched on or off, and the
failures agree.
-/
theorem exists_failed_withMemo (built : env.grammar.Built) (unlimited : env.config.maxDepth = none)
    (unbounded : env.config.ceiling = none) {memoize : Bool} {f : Failure}
    (failed : (run (env.withMemo memoize) start pos anchored).outcome = .ok (.failed f))
    : ∃ g,
        (run (env.withMemo !memoize) start pos anchored).outcome = .ok (.failed g)
        ∧ f.Agrees g := by
  obtain ⟨other, ended, agrees⟩ := exists_outcome_withMemo built unlimited unbounded failed
  cases agrees with
  | failed agrees => exact ⟨_, ended, .ofFurthest agrees start pos⟩

/-- Keeping answers does not change the report of a failure, but for the goal that it names. Where a
run without a limit on its depth fails, the run with the memo switched on or off fails at the same
position, unless a ceiling stops it: if no goal is named, with the same rule and the same things
expected, and if one is, then with a goal too. Whichever is named, it is all that is expected and is
missed there, so that the reports are the same if no other is.
-/
theorem run_reports (built : env.grammar.Built) (unlimited : env.config.maxDepth = none)
    {memoize : Bool} {f : Failure}
    (failed : (run (env.withMemo memoize) start pos anchored).outcome = .ok (.failed f))
    : (env.withMemo !memoize).StoppedAtCeiling start pos anchored
      ∨ ∃ g,
          (run (env.withMemo !memoize) start pos anchored).outcome = .ok (.failed g)
          ∧ f.Agrees g
          ∧ f.Truthful env.grammar env.subject start pos
          ∧ g.Truthful env.grammar env.subject start pos
          ∧ ((∀ rule ∈ env.grammar.visibleRules, ∀ cls ∈ rule.expr.classes, cls.fault? = none)
            → OneGoalMissed env.grammar env.subject start pos f.position
            → f = g) := by
  -- the run at hand was not stopped by a limit, so that it fails without limits too
  have lifted
      : (run (env.lifted.withMemo memoize) start pos anchored).outcome = .ok (.failed f) := by
    rcases run_lifted (env.withMemo memoize) start pos anchored with same | ⟨_, stopped, -⟩
    · exact same.symm.trans failed
    · cases failed.symm.trans stopped
  obtain ⟨g, failed', agrees⟩ := exists_failed_withMemo
    (show env.lifted.grammar.Built from built) rfl rfl lifted
  rcases run_lifted_or_stopped (env.withMemo !memoize) unlimited start pos anchored with
    same | stopped
  · have built' memoize : (env.withMemo memoize).grammar.Built := built
    have truthful := truthful_of_failed (built' memoize) failed
    have truthful' := truthful_of_failed (built' !memoize) (same.trans failed')
    exact Or.inr ⟨g, same.trans failed', agrees, truthful, truthful',
      agrees.eq_of_oneGoalMissed truthful truthful'⟩
  · exact Or.inl stopped

/-- A rule that asks for a letter in brackets. -/
def bracketed (name : Name) (closer : Text) : Rule where
  name := name
  expr := .goal (.literal "(") (.literal closer) (.literal "x")

/-- A rule that tries two kinds of brackets, and the first kind again. -/
def bracketsRule : Rule where
  name := "top"
  expr := .choice [.reference "a" none, .reference "b" none, .reference "a" none]

/-- A matcher for these rules over a bracket that is never closed. -/
def brackets : MatchEnv where
  grammar := ⟨⟨"brackets",
    [("top", .rule bracketsRule), ("a", .rule (bracketed "a" ")")),
      ("b", .rule (bracketed "b" "]"))]⟩, []⟩
  subject := ⟨("(x" : Text).toArray⟩

theorem brackets_built : brackets.grammar.Built := by
  intro layer member
  obtain rfl := List.mem_singleton.mp member
  have first : Layer.register { name := "brackets" } "top" bracketsRule
      = .ok (bracketsRule, ⟨"brackets", [("top", .rule bracketsRule)]⟩) := rfl
  have second
      : Layer.register ⟨"brackets", [("top", .rule bracketsRule)]⟩ "a" (bracketed "a" ")")
        = .ok (bracketed "a" ")",
          ⟨"brackets", [("top", .rule bracketsRule), ("a", .rule (bracketed "a" ")"))]⟩) := rfl
  have third
      : Layer.register
          ⟨"brackets", [("top", .rule bracketsRule), ("a", .rule (bracketed "a" ")"))]⟩ "b"
          (bracketed "b" "]")
        = .ok (bracketed "b" "]", brackets.grammar.own) := rfl
  exact .registered (.registered (.registered (.empty "brackets") first) second) third

theorem run_reports_brackets
    : brackets.grammar.Built
      ∧ brackets.config.maxDepth = none
      ∧ (∀ rule ∈ brackets.grammar.visibleRules, ∀ cls ∈ rule.expr.classes, cls.fault? = none)
      ∧ ∃ f g,
          (run (brackets.withMemo true) "top" 0 true).outcome = .ok (.failed f)
          ∧ (run (brackets.withMemo false) "top" 0 true).outcome = .ok (.failed g)
          ∧ f.Agrees g
          ∧ f.Truthful brackets.grammar brackets.subject "top" 0
          ∧ g.Truthful brackets.grammar brackets.subject "top" 0
          ∧ (OneGoalMissed brackets.grammar brackets.subject "top" 0 f.position → f = g) := by
  obtain ⟨f, failed⟩
      : ∃ f, (run (brackets.withMemo true) "top" 0 true).outcome = .ok (.failed f) := ⟨_, rfl⟩
  obtain ⟨other, failed'⟩
      : ∃ g, (run (brackets.withMemo false) "top" 0 true).outcome = .ok (.failed g) := ⟨_, rfl⟩
  have compiles : ∀ rule ∈ brackets.grammar.visibleRules, ∀ cls ∈ rule.expr.classes,
      cls.fault? = none := by decide +kernel
  rcases run_reports brackets_built rfl failed with
    ⟨_, _, stopped, -⟩ | ⟨g, ended, agrees, truthful, truthful', same⟩
  · cases failed'.symm.trans stopped
  · exact ⟨brackets_built, rfl, compiles, f, g, failed, ended, agrees, truthful, truthful',
      same compiles⟩

/-- With a memo the goal that is missed first is not missed again, so another one is reported. -/
theorem run_reports_differ
    : ∃ f g,
        brackets.grammar.Built
        ∧ brackets.config = {}
        ∧ (run (brackets.withMemo true) "top" 0 true).outcome = .ok (.failed f)
        ∧ (run (brackets.withMemo false) "top" 0 true).outcome = .ok (.failed g)
        ∧ f.rule ≠ g.rule
        ∧ f.expected ≠ g.expected
        ∧ f.goal ≠ g.goal :=
  ⟨_, _, brackets_built, rfl, rfl, rfl, by decide, by decide, by decide⟩

end MatchEnv

end RuleGrammar
