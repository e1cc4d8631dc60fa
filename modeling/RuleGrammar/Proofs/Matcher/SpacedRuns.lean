import RuleGrammar.Proofs.Matcher.Confinement
import RuleGrammar.Proofs.Matcher.Limits
import RuleGrammar.Proofs.Matcher.SpacedBodies

/-! Runs with white space written out. A rule that tries white space by itself and the token that
calls it optionally match the same, so a grammar and what stands for it when some of its rules are
written out end every run alike, where neither a limit on nesting nor validation interferes.
-/

namespace RuleGrammar

namespace MatchEnv

-----------------------------------------------------------------------------------------
-- Two grammars beside each other
-----------------------------------------------------------------------------------------

/-- A matcher beside one over another grammar, each with names resolved rightly. They end in one
fault, and their matches agree but for identities; what they have noted may differ.
-/
def besideSpaced (env : MatchEnv) (h : Grammar) : Coupling where
  states s t := s.Resolves env.grammar ∧ t.Resolves h
  faults f g := f = g
  excused _ := False
  view := Match.bare
  view_stop := Match.bare_stop
  view_ofLog := by
    intro s t _ info log log' same
    rw [Match.bare_ofLog, Match.bare_ofLog, same]
  counted coupled := coupled

variable {env : MatchEnv} {h : Grammar}

section Calls

variable (spacedOut : env.grammar.SpacedOut h)

include spacedOut

end Calls

-----------------------------------------------------------------------------------------
-- Applications of rules
-----------------------------------------------------------------------------------------

/-- Two scopes with applications of one key each in progress, in the same order. -/
def SameKeys (scope scope' : Scope) : Prop :=
  scope'.frames.map Frame.key = scope.frames.map Frame.key

theorem SameKeys.enter {scope scope' inner inner' : Scope} {rule rule' : Rule} {pos : Int}
    (keys : SameKeys scope scope') (same : rule.SpacedOut rule')
    (frames : inner.frames = (scope.enter rule pos).frames)
    (frames' : inner'.frames = (scope'.enter rule' pos).frames)
    : SameKeys inner inner' := by
  unfold SameKeys at keys ⊢
  rw [frames, frames']
  simp only [Scope.enter, List.map_cons, Frame.key, same.name_eq, same.tag_eq]
  exact congrArg (_ :: ·) keys

theorem SameKeys.isActive {scope scope' : Scope} (keys : SameKeys scope scope') (key : Key)
    : scope'.isActive key = scope.isActive key := by
  have active (other : Scope)
      : other.isActive key = (other.frames.map Frame.key).any (decide <| · = key) := by
    simp only [Scope.isActive, List.any_map]
    rfl
  rw [active, active, keys]

section Applications

variable (spacedOut : env.grammar.SpacedOut h) (forgetful : env.config.memoize = false)
  (unlimited : env.config.maxDepth = none)

include forgetful unlimited

/-- A rule and what stands for it are applied alike without a memo if they are where neither is in
progress yet: what is in progress has the same keys on both sides.
-/
theorem applyRule_of_fresh {start : Int} {room room' : Nat} {scope scope' : Scope}
    (order : env.InOrder start scope.frames)
    (order' : (env.withGrammar h).InOrder start scope'.frames)
    (keys : SameKeys scope scope') {rule rule' : Rule} (same : rule.SpacedOut rule')
    (visible : rule ∈ env.grammar.visibleRules) (visible' : rule' ∈ h.visibleRules) {pos : Int}
    (ahead : env.subject.Ahead start pos)
    (fresh
      : env.InOrder start (⟨rule, pos⟩ :: scope.frames)
        → (env.withGrammar h).InOrder start (⟨rule', pos⟩ :: scope'.frames)
        → (env.besideSpaced h).Lockstep ((env.besideSpaced h).SameMatch env.subject pos True)
            (applyFresh env room scope rule pos)
            (applyFresh (env.withGrammar h) room' scope' rule' pos))
    : (env.besideSpaced h).Lockstep ((env.besideSpaced h).SameMatch env.subject pos True)
        (applyRule env room scope rule pos)
        (applyRule (env.withGrammar h) room' scope' rule' pos) := by
  have forgetful' : (env.withGrammar h).config.memoize = false := forgetful
  have unlimited' : (env.withGrammar h).config.maxDepth = none := unlimited
  have active : scope'.isActive ⟨rule'.name, rule'.tag, pos⟩
      = scope.isActive ⟨rule.name, rule.tag, pos⟩ := by
    rw [same.name_eq, same.tag_eq, keys.isActive]
  rw [applyRule_eq_guarded, applyRule_eq_guarded, guarded_forgetful forgetful unlimited,
    guarded_forgetful forgetful' unlimited', same.qualified_eq]
  refine .ite (by rw [active]) (fun _ => .throw rfl) fun inactive => ?_
  have inactive' : ¬ scope'.isActive ⟨rule'.name, rule'.tag, pos⟩ = true := by rwa [active]
  exact fresh (order.cons inactive visible ahead) (order'.cons inactive' visible' ahead)

include spacedOut

end Applications

end MatchEnv

-----------------------------------------------------------------------------------------
-- Whole runs
-----------------------------------------------------------------------------------------

/-- Two runs end the same: in trees that agree but for the identities of their nodes, in failures of
any kind, or in one fault.
-/
inductive SameEnd : Except Fault Outcome → Except Fault Outcome → Prop
  | matched {m n : Match} (same : m.bare = n.bare) : SameEnd (.ok (.matched m)) (.ok (.matched n))
  | failed (f g : Failure) : SameEnd (.ok (.failed f)) (.ok (.failed g))
  | stopped (fault : Fault) : SameEnd (.error fault) (.error fault)

namespace SameEnd

variable {first second third : Except Fault Outcome}

theorem symm (same : SameEnd first second) : SameEnd second first := by
  cases same with
  | matched same => exact .matched same.symm
  | failed f g => exact .failed g f
  | stopped fault => exact .stopped fault

theorem trans (same : SameEnd first second) (next : SameEnd second third)
    : SameEnd first third := by
  cases same with
  | matched same => cases next with | matched next => exact .matched (same.trans next)
  | failed f _ => cases next with | failed _ g => exact .failed f g
  | stopped fault => exact next

end SameEnd

namespace MatchEnv

variable {env : MatchEnv} {h : Grammar}

end MatchEnv

end RuleGrammar
