import Mathlib.Data.List.Forall2
import RuleGrammar.Proofs.Matcher.Longest
import RuleGrammar.Proofs.Matcher.Settling

/-! The two ways to the longest match. A group that dispatches over its alternatives and an
expression for the longest of their bodies choose alike: where a body ends is settled, so that the
same alternative wins at the same end, whatever is known and in progress on either way.
-/

namespace RuleGrammar

/-- Steps in turn answer as each of them does, and keep what each of them keeps, by induction on
them.
-/
theorem forall₂_of_mapM {γ δ : Type} {step : γ → MatchM δ} {keeps : MatcherState → Prop}
    {kind : γ → δ → Prop} {items : List γ} {answers : List δ} {s t : MatcherState}
    (each
      : ∀ item ∈ items, ∀ s a t,
          keeps s
          → step item s = .ok a t
          → kind item a ∧ keeps t)
    (kept : keeps s) (ran : items.mapM step s = .ok answers t)
    : List.Forall₂ kind items answers := by
  induction items generalizing s answers with
  | nil =>
      cases ran
      exact .nil
  | cons item rest ih =>
      obtain ⟨here, later⟩ := List.forall_mem_cons.mp each
      rw [List.mapM_cons] at ran
      obtain ⟨a, u, first, ran⟩ := bind_eq_ok.mp ran
      obtain ⟨others, v, second, ran⟩ := bind_eq_ok.mp ran
      cases ran
      obtain ⟨value, keeps⟩ := here s a u kept first
      exact .cons value (ih later keeps second)

/-- Answers of two kinds that end where the same items do have the same ends, by induction on them. -/
theorem endsOf_eq {α β γ : Type} {stop : α → Int} {stop' : β → Int}
    {left right : γ → Option Int → Prop} {items : List γ} {answers : List (Option α)}
    {others : List (Option β)}
    (unique : ∀ item ∈ items, ∀ ends ends', left item ends → right item ends' → ends = ends')
    (each : List.Forall₂ (fun item answer => left item (answer.map stop)) items answers)
    (each' : List.Forall₂ (fun item answer => right item (answer.map stop')) items others)
    : endsOf stop answers = endsOf stop' others := by
  induction each generalizing others with
  | nil =>
      cases each'
      rfl
  | cons here later ih =>
      cases each' with
      | cons here' later' =>
          obtain ⟨same, rest⟩ := List.forall_mem_cons.mp unique
          rw [endsOf, endsOf, List.map_cons, List.map_cons, same _ _ here here']
          exact congrArg _ (ih rest later')

namespace MatchEnv

/-- A rule beside a group of alternatives of its kind, none of which matches its tag. -/
structure Rivals (env : MatchEnv) (name : Name) (group : ProtoGroup) (rule : Rule) : Prop where
  stands : env.grammar.lookup name = some (.group group)
  kind : ∀ alternative ∈ group.alternatives, alternative.kind = rule.kind
  tagless : ∀ alternative ∈ group.alternatives, ¬ Expr.sym.Part alternative.expr

variable {env : MatchEnv} {name : Name} {group : ProtoGroup} {rule : Rule} {pos : Int}
  {room room' : Nat} {scope scope' : Scope} {s s' t t' : MatcherState}

/-- The alternatives of a group and their bodies in a rule of their kind end alike. -/
theorem Rivals.ends (rivals : env.Rivals name group rule) (built : env.grammar.Built)
    (reusable : env.Reusable s) (reusable' : env.Reusable s') {answers : List (Option Match)}
    {reached : List (Option Reached)}
    (applied
      : (group.alternatives.mapM fun alternative => applyRule env room scope alternative pos) s
        = .ok answers t)
    (evaluated
      : ((group.alternatives.map Rule.expr).mapM fun e =>
          eval (env.siteWithin room' scope' rule) e pos) s'
        = .ok reached t')
    : endsOf Match.stop answers = endsOf Reached.stop reached := by
  obtain ⟨fuel, ample⟩ := env.exists_ample pos
  have visible (alternative : Rule) (member : alternative ∈ group.alternatives)
      : alternative ∈ env.grammar.visibleRules :=
    Grammar.mem_visibleRules.mpr ⟨name, _, rivals.stands, member⟩
  have left : List.Forall₂
      (fun alternative answer =>
        env.EndsAt fuel alternative alternative.expr pos (answer.map Match.stop))
      group.alternatives answers :=
    forall₂_of_mapM (fun alternative member _ _ _ kept ran =>
      kept.applyRule_ends built ample (visible alternative member) ran) reusable applied
  have right : List.Forall₂
      (fun e found => env.EndsAt fuel rule e pos (found.map Reached.stop))
      (group.alternatives.map Rule.expr) reached :=
    forall₂_of_mapM (fun _ _ _ _ _ kept ran => kept.eval_ends built ample ran) reusable' evaluated
  refine endsOf_eq (fun alternative member ends ends' here here' => ?_) left
    (List.forall₂_map_left_iff.mp right)
  have sigspace : alternative.sigspace = rule.sigspace := by
    rw [Rule.sigspace, Rule.sigspace, rivals.kind alternative member]
  exact EndsAt.unique sigspace (rivals.tagless alternative member) here here'

/-- The call of a group resolves its name and then dispatches. -/
theorem Rivals.dispatched (rivals : env.Rivals name group rule) (reusable : env.Reusable s)
    {best : Option Match} (called : callWithin env room scope name pos s = .ok best t)
    : ∃ u,
        resolveOnce env name s = .ok (.group group) u
        ∧ env.Reusable u
        ∧ dispatch (applyRule env room scope) pos group.alternatives none u = .ok best t := by
  rcases resolveOnce_spec name reusable.resolves with
    ⟨entry, resolved, found, ran, resolves⟩ | ⟨missing, -⟩
  · cases found.symm.trans rivals.stands
    refine ⟨_, ran, ⟨resolves, reusable.sound⟩, ?_⟩
    rw [callWithin, callName, bind_of_ok ran] at called
    exact called
  · rw [rivals.stands] at missing
    cases missing

/-- Of alternatives that are tried in turn without a fault, the earliest one among those that end
furthest wins, with what it captured and nothing besides, and there is no winner only if all have
failed; so it is for a group and for an expression alike. A group of alternatives that match no tags
and an expression for the longest of their bodies, in a rule of their kind, have the same winner, at
the same end.
-/
theorem longest_wins
    : (∀ apply alternatives pos s best t,
        dispatch apply pos alternatives none s = .ok best t
        → ∃ answers,
            (alternatives.mapM fun rule => apply rule pos) s = .ok answers t
            ∧ Chosen Match.stop answers best)
      ∧ (∀ site alternatives pos s best t,
          eval site (.longest alternatives) pos s = .ok best t
          → ∃ answers,
              (alternatives.mapM fun e => eval site e pos) s = .ok answers t
              ∧ Chosen Reached.stop answers best)
      ∧ ∀ (env : MatchEnv) name group rule pos room room' scope scope' s s' best best' t t',
          env.grammar.Built
          → env.Rivals name group rule
          → env.Reusable s
          → env.Reusable s'
          → callWithin env room scope name pos s = .ok best t
          → eval (env.siteWithin room' scope' rule) (.longest (group.alternatives.map Rule.expr))
                pos s'
              = .ok best' t'
          → ∃ u answers reached,
              resolveOnce env name s = .ok (.group group) u
              ∧ (group.alternatives.mapM fun rival => applyRule env room scope rival pos) u
                = .ok answers t
              ∧ ((group.alternatives.map Rule.expr).mapM fun e =>
                    eval (env.siteWithin room' scope' rule) e pos) s'
                = .ok reached t'
              ∧ SameChoice Match.stop Reached.stop answers reached best best' := by
  have dispatched (apply alternatives pos s best t)
      (ended : dispatch apply pos alternatives none s = .ok best t)
      : ∃ answers,
          (alternatives.mapM fun rule => apply rule pos) s = .ok answers t
          ∧ Chosen Match.stop answers best := by
    rw [dispatch_eq] at ended
    exact chosen_of_mapM ended
  have longest (site : Site) (alternatives pos s best t)
      (ended : eval site (.longest alternatives) pos s = .ok best t)
      : ∃ answers,
          (alternatives.mapM fun e => eval site e pos) s = .ok answers t
          ∧ Chosen Reached.stop answers best := by
    rw [eval, evalLongest_eq] at ended
    exact chosen_of_mapM ended
  refine ⟨dispatched, longest, ?_⟩
  intro env name group rule pos room room' scope scope' s s' best best' t t' built rivals reusable
    reusable' called evaluated
  obtain ⟨u, resolved, after, called⟩ := rivals.dispatched reusable called
  obtain ⟨answers, applied, chosen⟩ := dispatched _ _ _ _ _ _ called
  obtain ⟨reached, tried, chosen'⟩ := longest _ _ _ _ _ _ evaluated
  have ends := rivals.ends built after reusable' applied tried
  exact ⟨u, answers, reached, resolved, applied, tried, chosen.same chosen' ends⟩

/-- An alternative of the name `p`. -/
def rival (tag : String) (expr : Expr) : Rule where
  name := "p"
  expr := expr
  tag := some tag

/-- A letter, the same letter and another one after it, and both of them at once. -/
def rivalGroup : ProtoGroup where
  name := "p"
  alternatives :=
    [rival "one" (.literal "x"), rival "each" (.sequence [.literal "x", .literal "y"]),
      rival "both" (.literal "xy")]

/-- A token for the longest of the same bodies. -/
def rivalRule : Rule where
  name := "longest"
  expr := .longest (rivalGroup.alternatives.map Rule.expr)

/-- A matcher for the group over a text of both letters. -/
def rivals : MatchEnv where
  grammar := ⟨⟨"rivals", [("p", .group rivalGroup)]⟩, []⟩
  subject := ⟨#['x', 'y']⟩

theorem rivals_built : rivals.grammar.Built := by
  intro layer member
  obtain rfl := List.mem_singleton.mp member
  let upTo (count : Nat) : Layer :=
    ⟨"rivals", [("p", .group ⟨"p", rivalGroup.alternatives.take count⟩)]⟩
  have first : Layer.addAlternative { name := "rivals" } "p" "one" (rival "one" (.literal "x"))
      = .ok (rival "one" (.literal "x"), upTo 1) := rfl
  have second : Layer.addAlternative (upTo 1) "p" "each"
        (rival "each" (.sequence [.literal "x", .literal "y"]))
      = .ok (rival "each" (.sequence [.literal "x", .literal "y"]), upTo 2) := rfl
  have third : Layer.addAlternative (upTo 2) "p" "both" (rival "both" (.literal "xy"))
      = .ok (rival "both" (.literal "xy"), rivals.grammar.own) := rfl
  exact .extended (.extended (.extended (.empty "rivals") first) second) third

theorem rivals_group : rivals.Rivals "p" rivalGroup rivalRule where
  stands := rfl
  kind := by decide
  tagless alternative member inside := by
    simp only [rivalGroup, List.mem_cons, List.not_mem_nil, or_false] at member
    rcases member with rfl | rfl | rfl
    · cases inside
    · cases inside with | item member inside => ?_
      rcases List.mem_pair.mp member with rfl | rfl <;> cases inside
    · cases inside

/-- Both ways come to the end of the text, which the second alternative reaches before the third. -/
theorem longest_wins_rivals
    : rivals.grammar.Built
      ∧ rivals.Rivals "p" rivalGroup rivalRule
      ∧ rivals.Reusable {}
      ∧ ∃ best t best' t' u answers reached,
          callWithin rivals 9 {} "p" 0 {} = .ok best t
          ∧ eval (rivals.siteWithin 9 {} rivalRule)
              (.longest (rivalGroup.alternatives.map Rule.expr)) 0 {}
            = .ok best' t'
          ∧ best.map Match.tag = some (some (Text.ofString "each"))
          ∧ best.map Match.stop = some 2
          ∧ best'.map Reached.stop = some 2
          ∧ resolveOnce rivals "p" {} = .ok (.group rivalGroup) u
          ∧ (rivalGroup.alternatives.mapM fun rival => applyRule rivals 9 {} rival 0) u
            = .ok answers t
          ∧ ((rivalGroup.alternatives.map Rule.expr).mapM fun e =>
                eval (rivals.siteWithin 9 {} rivalRule) e 0) {}
            = .ok reached t'
          ∧ SameChoice Match.stop Reached.stop answers reached best best' := by
  have ended : ∃ best t,
      callWithin rivals 9 {} "p" 0 {} = .ok best t
      ∧ best.map Match.tag = some (some (Text.ofString "each"))
      ∧ best.map Match.stop = some 2 := ⟨_, _, rfl, rfl, rfl⟩
  have ended' : ∃ best' t',
      eval (rivals.siteWithin 9 {} rivalRule) (.longest (rivalGroup.alternatives.map Rule.expr)) 0 {}
        = .ok best' t'
      ∧ best'.map Reached.stop = some 2 := ⟨_, _, rfl, rfl⟩
  obtain ⟨best, t, called, tag, stop⟩ := ended
  obtain ⟨best', t', evaluated, stop'⟩ := ended'
  obtain ⟨u, answers, reached, resolved, applied, tried, same⟩ :=
    longest_wins.2.2 rivals "p" rivalGroup rivalRule 0 9 9 {} {} {} {} best best' t t' rivals_built
      rivals_group (.fresh rivals) (.fresh rivals) called evaluated
  exact ⟨rivals_built, rivals_group, .fresh rivals, best, t, best', t', u, answers, reached, called,
    evaluated, tag, stop, stop', resolved, applied, tried, same⟩

end MatchEnv

end RuleGrammar
