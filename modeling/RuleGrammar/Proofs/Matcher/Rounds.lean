import RuleGrammar.Proofs.Matcher.Ensuring
import RuleGrammar.Proofs.Matcher.Termination

/-! What a repetition matches, round by round. Inside a matcher whatever matches stops ahead, so the
bound on the rounds is never used up: a repetition ends where its rounds lead, and they end for a
reason that the grammar gives.
-/

namespace RuleGrammar

-----------------------------------------------------------------------------------------
-- Expressions inside a matcher
-----------------------------------------------------------------------------------------

namespace MatchEnv

/-- The site of a rule's expressions inside a matcher, with room for the applications inside. -/
def siteWithin (env : MatchEnv) (room : Nat) (scope : Scope) (rule : Rule) : Site :=
  ⟨env.subject, rule, scope, callWithin env room⟩

variable {env : MatchEnv}

/-- One run that knows only matches that stop ahead, and that may end in any fault. -/
abbrev aheadRun (env : MatchEnv) : Coupling :=
  env.saneRun (fun _ => True) fun _ => False

theorem aheadRun_carries (env : MatchEnv) : env.aheadRun.Carries env env Eq :=
  env.oneRun_carries _ _ fun _ _ => trivial

/-- Calls inside a matcher stop ahead. -/
theorem callWithin_ahead (room : Nat) (scope : Scope) (name : Name) (pos : Int)
    : env.aheadRun.Lockstep (env.aheadRun.SameMatch env.subject pos True)
        (callWithin env room scope name pos) (callWithin env room scope name pos) :=
  Coupling.callName_lockstep_of_visible (env.aheadRun_carries.resolve name)
    fun _ visible => (Upkeep.ofAhead env).applyRule room scope visible pos

namespace Ensures

variable (room : Nat) (scope : Scope) (rule : Rule) (pos : Int)

/-- Inside a matcher an expression matches ahead of its offset. -/
theorem eval_ahead (e : Expr)
    : env.Ensures (Memo.Ahead env.subject) (eval (env.siteWithin room scope rule) e pos) fun r =>
        ∀ reached ∈ r, env.subject.Ahead pos reached.stop := by
  have alike : env.aheadRun.Lockstep (env.aheadRun.SameReached env.subject pos True)
      (eval (env.siteWithin room scope rule) e pos) (eval (env.siteWithin room scope rule) e pos) :=
    Coupling.evalBody_lockstep rfl (fun _ => rfl) (callWithin env room) (callWithin env room)
      (env.aheadRun_carries.notes rfl rfl) env.aheadRun_carries.ordinary
      (fun name q _ => callWithin_ahead room scope name q)
      fun name q _ => callWithin_ahead room { scope with quiet := true } name q
  exact (of_oneRun alike).mono fun _ same => same.ahead

/-- Inside a matcher white space leads ahead. -/
theorem skipSpace_ahead
    : env.Ensures (Memo.Ahead env.subject) ((env.siteWithin room scope rule).skipSpace pos)
        fun stop => env.subject.Ahead pos stop := by
  have beside : env.aheadRun.Beside (env.siteWithin room scope rule)
      (env.siteWithin room scope rule) :=
    ⟨rfl, rfl, env.aheadRun_carries.notes rfl rfl⟩
  have alike : env.aheadRun.Lockstep (Coupling.SameOffset env.subject pos)
      ((env.siteWithin room scope rule).skipSpace pos)
      ((env.siteWithin room scope rule).skipSpace pos) :=
    beside.skipSpace fun _ => callWithin_ahead room { scope with quiet := true } "ws" pos
  exact (of_oneRun alike).mono fun _ same => same.2

end Ensures

end MatchEnv

-----------------------------------------------------------------------------------------
-- Rounds
-----------------------------------------------------------------------------------------

namespace Site

/-- An expression matches from an offset to an offset and takes a state to a state. -/
def Matches (site : Site) (e : Expr) (pos stop : Int) (s t : MatcherState) : Prop :=
  ∃ log, eval site e pos s = .ok (some ⟨stop, log⟩) t

/-- An expression is missed at an offset. -/
def Misses (site : Site) (e : Expr) (pos : Int) (s t : MatcherState) : Prop :=
  eval site e pos s = .ok none t

/-- White space between two parts of a body leads from an offset to an offset. In a body of kind
`rule` it is called quietly, and leads to where its match stops, or nowhere if it has none; in any
other body it is not tried.
-/
inductive Skips (site : Site) (pos : Int) : Int → MatcherState → MatcherState → Prop
  | untried {s} (kind : site.rule.kind ≠ .rule) : site.Skips pos pos s s
  | found {space s t} (kind : site.rule.kind = .rule)
    (called : site.call { site.scope with quiet := true } "ws" pos s = .ok (some space) t)
    : site.Skips pos space.stop s t
  | missed {s t} (kind : site.rule.kind = .rule)
    (called : site.call { site.scope with quiet := true } "ws" pos s = .ok none t)
    : site.Skips pos pos s t

variable {site : Site} {pos stop : Int} {s t : MatcherState}

theorem skips_of_skipSpace (ran : site.skipSpace pos s = .ok stop t) : site.Skips pos stop s t := by
  unfold skipSpace Rule.sigspace at ran
  by_cases kind : site.rule.kind = .rule
  · rw [if_pos (by simpa using kind)] at ran
    obtain ⟨answer, _, called, ran⟩ := bind_eq_ok.mp ran
    cases answer with
    | none =>
        cases ran
        exact .missed kind called
    | some space =>
        cases ran
        exact .found kind called
  · rw [if_neg (by simpa using kind)] at ran
    cases ran
    exact .untried kind

theorem Skips.skipSpace (skipped : site.Skips pos stop s t) : site.skipSpace pos s = .ok stop t := by
  unfold Site.skipSpace Rule.sigspace
  cases skipped with
  | untried kind =>
      rw [if_neg (by simpa using kind)]
      rfl
  | found kind called | missed kind called =>
      rw [if_pos (by simpa using kind)]
      exact bind_of_ok called

end Site

/-- Rounds are given by where their bodies stopped, the last one first. This is where the last of
them stopped; before the first one it is the offset of the repetition.
-/
def lastStop (pos : Int) (stops : List Int) : Int :=
  stops.headD pos

namespace Loop

/-- The last round made no progress, and there are as many rounds as are asked for. -/
def Settled (loop : Loop) (pos : Int) : List Int → Prop
  | [] => False
  | stop :: before => stop = lastStop pos before ∧ loop.min ≤ before.length + 1

/-- Another round is tried after these. -/
structure GoesOn (loop : Loop) (pos : Int) (stops : List Int) : Prop where
  below : ∀ bound ∈ loop.max, stops.length < bound
  unsettled : ¬ loop.Settled pos stops

end Loop

namespace Site

/-- The way from the end of some rounds to the body of the next one: none before the first, and
later the separator with white space around it, or white space alone.
-/
inductive Approaches (site : Site) (sep : Option Expr) (pos : Int)
    : List Int → Int → MatcherState → MatcherState → Prop
  | first {s} : site.Approaches sep pos [] pos s s
  | space {stop before start s t} (unseparated : sep = none) (skipped : site.Skips stop start s t)
    : site.Approaches sep pos (stop :: before) start s t
  | separator {e stop before left right start s t u v} (separated : sep = some e)
    (skipped : site.Skips stop left s t) (found : site.Matches e left right t u)
    (skippedAfter : site.Skips right start u v)
    : site.Approaches sep pos (stop :: before) start s v

/-- The rounds that a repetition takes one after the other from an offset and a state. -/
inductive Takes (site : Site) (loop : Loop) (pos : Int) (s : MatcherState)
    : List Int → MatcherState → Prop
  | none : site.Takes loop pos s [] s
  | next {stops start stop t u v} (before : site.Takes loop pos s stops t)
    (onward : loop.GoesOn pos stops) (approach : site.Approaches loop.sep pos stops start t u)
    (body : site.Matches loop.body start stop u v)
    : site.Takes loop pos s (stop :: stops) v

/-- Why no round follows: there are as many as there may be, the last one made no progress, or the
next separator or the next body is missed.
-/
inductive Ceases (site : Site) (loop : Loop) (pos : Int) (stops : List Int) (s : MatcherState)
    : MatcherState → Prop
  | full (all : loop.max = some stops.length) : site.Ceases loop pos stops s s
  | settled (still : loop.Settled pos stops) : site.Ceases loop pos stops s s
  | unseparated {e start t u} (onward : loop.GoesOn pos stops) (later : stops ≠ [])
    (separated : loop.sep = some e) (skipped : site.Skips (lastStop pos stops) start s t)
    (missed : site.Misses e start t u)
    : site.Ceases loop pos stops s u
  | missed {start t u} (onward : loop.GoesOn pos stops)
    (approach : site.Approaches loop.sep pos stops start s t)
    (missed : site.Misses loop.body start t u)
    : site.Ceases loop pos stops s u

/-- What may follow the rounds: one more separator, if it is asked for and there was a round. -/
inductive Trails (site : Site) (sep : Option Expr) (trailing : Bool) (pos : Int)
    (stops : List Int)
    : Int → MatcherState → MatcherState → Prop
  | untried {s} (untried : trailing = false ∨ sep = none ∨ stops = [])
    : site.Trails sep trailing pos stops (lastStop pos stops) s s
  | missed {e start s t u} (asked : trailing = true) (later : stops ≠ []) (separated : sep = some e)
    (skipped : site.Skips (lastStop pos stops) start s t) (missed : site.Misses e start t u)
    : site.Trails sep trailing pos stops (lastStop pos stops) s u
  | found {e start stop s t u} (asked : trailing = true) (later : stops ≠ [])
    (separated : sep = some e) (skipped : site.Skips (lastStop pos stops) start s t)
    (found : site.Matches e start stop t u)
    : site.Trails sep trailing pos stops stop s u

end Site

-----------------------------------------------------------------------------------------
-- Evaluation, one round at a time
-----------------------------------------------------------------------------------------

theorem belowMax_iff {max : Option Nat} {count : Nat}
    : belowMax max count = true ↔ ∀ bound ∈ max, count < bound := by
  cases max <;> simp [belowMax]

theorem Loop.settled_cons_iff {loop : Loop} {pos stop : Int} {stops : List Int}
    : loop.Settled pos (stop :: stops)
      ↔ isLastRound loop.min (stops.length + 1) (lastStop pos stops) stop = true := by
  simp [Settled, isLastRound]

/-- A progress has come as far as some rounds lead. -/
structure Progress.Follows (p : Progress) (pos : Int) (stops : List Int) : Prop where
  stop : p.stop = lastStop pos stops
  rounds : p.rounds = stops.length

theorem Progress.Follows.round {p : Progress} {pos : Int} {stops : List Int}
    (follows : p.Follows pos stops) (stop : Int) (caught : List Caught)
    : (p.round stop caught).Follows pos (stop :: stops) :=
  ⟨rfl, congrArg (· + 1) follows.rounds⟩

/-- The rounds of a repetition, from a progress on. -/
def Site.rounds (site : Site) (loop : Loop) (bound : Nat) (p : Progress) : MatchM Progress :=
  repeatRounds site.rule.name (eval site loop.body) (betweenRounds site (evalOption site loop.sep))
    loop.min loop.max bound p

section Steps

variable {site : Site} {loop : Loop} {bound : Nat} {p : Progress} {s t u : MatcherState}

theorem rounds_full (full : belowMax loop.max p.rounds = false)
    : site.rounds loop (bound + 1) p s = .ok p s := by
  unfold Site.rounds repeatRounds
  rw [if_neg (by simp [full])]
  rfl

theorem rounds_unseparated (below : belowMax loop.max p.rounds = true)
    (missed : gapBefore (betweenRounds site (evalOption site loop.sep)) p s = .ok none t)
    : site.rounds loop (bound + 1) p s = .ok p t := by
  unfold Site.rounds repeatRounds
  rw [if_pos below, bind_of_ok missed]
  rfl

theorem rounds_missed {gap : Reached} (below : belowMax loop.max p.rounds = true)
    (led : gapBefore (betweenRounds site (evalOption site loop.sep)) p s = .ok (some gap) t)
    (missed : eval site loop.body gap.stop t = .ok none u)
    : site.rounds loop (bound + 1) p s = .ok p u := by
  unfold Site.rounds repeatRounds
  rw [if_pos below, bind_of_ok led]
  dsimp only
  rw [bind_of_ok missed]
  rfl

/-- A round that matched is the last one, or the repetition goes on from it. -/
theorem rounds_round {gap r : Reached} (below : belowMax loop.max p.rounds = true)
    (led : gapBefore (betweenRounds site (evalOption site loop.sep)) p s = .ok (some gap) t)
    (matched : eval site loop.body gap.stop t = .ok (some r) u)
    : site.rounds loop (bound + 1) p s
      = if isLastRound loop.min (p.rounds + 1) p.stop r.stop then
          .ok (p.round r.stop (roundLog loop.max (gap.caught ++ r.caught))) u
        else
          site.rounds loop bound
            (p.round r.stop (roundLog loop.max (gap.caught ++ r.caught))) u := by
  rw [Site.rounds, repeatRounds, if_pos below, bind_of_ok led]
  dsimp only
  rw [bind_of_ok matched]
  dsimp only
  by_cases last : isLastRound loop.min
      (p.round r.stop (roundLog loop.max (gap.caught ++ r.caught))).rounds p.stop r.stop = true
  · rw [if_pos last,
      if_pos (show isLastRound loop.min (p.rounds + 1) p.stop r.stop = true from last)]
    rfl
  · rw [if_neg last,
      if_neg (show ¬ isLastRound loop.min (p.rounds + 1) p.stop r.stop = true from last)]
    rfl

end Steps

section Gaps

variable {site : Site} {sep : Option Expr} {pos : Int} {stops : List Int} {p : Progress}
  {s t : MatcherState}

theorem Progress.Follows.gapBefore_first (follows : p.Follows pos [])
    (between : Int → MatchM (Option Reached))
    : gapBefore between p = pure (some ⟨pos, []⟩) := by
  rw [gapBefore, if_pos (show p.rounds = 0 from follows.rounds), follows.stop]
  rfl

theorem Progress.Follows.gapBefore_later {stop : Int} {before : List Int}
    (follows : p.Follows pos (stop :: before)) (between : Int → MatchM (Option Reached))
    : gapBefore between p = between stop := by
  rw [gapBefore, if_neg (by simp [follows.rounds]), follows.stop]
  rfl

/-- What stands before a round leads to its body. -/
theorem Site.approaches_of_gapBefore (follows : p.Follows pos stops) {gap : Reached}
    (led : gapBefore (betweenRounds site (evalOption site sep)) p s = .ok (some gap) t)
    : site.Approaches sep pos stops gap.stop s t := by
  cases stops with
  | nil =>
      rw [follows.gapBefore_first] at led
      cases led
      exact .first
  | cons last before =>
      rw [follows.gapBefore_later] at led
      obtain ⟨start, _, skipped, led⟩ := bind_eq_ok.mp led
      cases sep with
      | none =>
          cases led
          exact .space rfl (skips_of_skipSpace skipped)
      | some e =>
          obtain ⟨found, _, separated, led⟩ := bind_eq_ok.mp led
          cases found with
          | none => cases led
          | some r =>
              obtain ⟨right, _, skippedAfter, led⟩ := bind_eq_ok.mp led
              cases led
              exact .separator rfl (skips_of_skipSpace skipped) ⟨_, separated⟩
                (skips_of_skipSpace skippedAfter)

/-- Before a round only a separator can be missed. -/
theorem Site.unseparated_of_gapBefore (follows : p.Follows pos stops)
    (missed : gapBefore (betweenRounds site (evalOption site sep)) p s = .ok none t)
    : stops ≠ [] ∧ ∃ e start u,
        sep = some e
        ∧ site.Skips (lastStop pos stops) start s u
        ∧ site.Misses e start u t := by
  cases stops with
  | nil =>
      rw [follows.gapBefore_first] at missed
      cases missed
  | cons last before =>
      rw [follows.gapBefore_later] at missed
      obtain ⟨start, _, skipped, missed⟩ := bind_eq_ok.mp missed
      cases sep with
      | none => cases missed
      | some e =>
          obtain ⟨found, _, separated, missed⟩ := bind_eq_ok.mp missed
          cases found with
          | none =>
              cases missed
              exact ⟨by simp, e, start, _, rfl, skips_of_skipSpace skipped, separated⟩
          | some r =>
              obtain ⟨right, _, skippedAfter, missed⟩ := bind_eq_ok.mp missed
              cases missed

/-- The way to a body is what stands before its round. -/
theorem Site.Approaches.gapBefore {start : Int} (follows : p.Follows pos stops)
    (approach : site.Approaches sep pos stops start s t)
    : ∃ log,
        gapBefore (betweenRounds site (evalOption site sep)) p s = .ok (some ⟨start, log⟩) t := by
  cases approach with
  | first => exact ⟨[], by rw [follows.gapBefore_first]; rfl⟩
  | space unseparated skipped =>
      rw [follows.gapBefore_later, unseparated]
      exact ⟨[], bind_of_ok skipped.skipSpace⟩
  | separator separated skipped found skippedAfter =>
      rw [follows.gapBefore_later, separated]
      obtain ⟨log, found⟩ := found
      refine ⟨log, (bind_of_ok skipped.skipSpace).trans ?_⟩
      exact (bind_of_ok found).trans (bind_of_ok skippedAfter.skipSpace)

theorem gapBefore_of_unseparated {e : Expr} {start : Int} {u : MatcherState}
    (follows : p.Follows pos stops) (later : stops ≠ []) (separated : sep = some e)
    (skipped : site.Skips (lastStop pos stops) start s t) (missed : site.Misses e start t u)
    : gapBefore (betweenRounds site (evalOption site sep)) p s = .ok none u := by
  obtain ⟨last, before, rfl⟩ := List.exists_cons_of_ne_nil later
  rw [follows.gapBefore_later, separated]
  exact (bind_of_ok skipped.skipSpace).trans (bind_of_ok missed)

end Gaps

-----------------------------------------------------------------------------------------
-- All rounds
-----------------------------------------------------------------------------------------

namespace Site

variable {site : Site} {loop : Loop} {pos : Int}

/-- Rounds that are taken are no more than there may be. -/
theorem Takes.length_le {stops : List Int} {s t : MatcherState}
    (taken : site.Takes loop pos s stops t)
    : ∀ bound ∈ loop.max, stops.length ≤ bound := by
  intro bound member
  cases taken with
  | none => exact Nat.zero_le _
  | next _ onward _ _ => exact onward.below bound member

/-- Where no more rounds may follow, there are as many as there may be. -/
theorem Takes.full {stops : List Int} {s t : MatcherState}
    (taken : site.Takes loop pos s stops t) (full : ¬ belowMax loop.max stops.length = true)
    : loop.max = some stops.length := by
  cases limited : loop.max with
  | none => exact absurd (belowMax_iff.mpr (by simp [limited])) full
  | some bound =>
      have few := taken.length_le bound limited
      have many : ¬ stops.length < bound := by simpa [limited, belowMax] using full
      rw [Nat.le_antisymm few (Nat.le_of_not_lt many)]

/-- The rounds that a repetition goes through from some rounds on are taken, and end for a reason.
Induction on the bound, which an answer has not used up.
-/
theorem takes_of_rounds {bound : Nat} {stops : List Int} {p q : Progress}
    {s t w : MatcherState} (taken : site.Takes loop pos s stops t) (follows : p.Follows pos stops)
    (unsettled : ¬ loop.Settled pos stops)
    (ran : site.rounds loop bound p t = .ok q w)
    : ∃ stops' u,
        site.Takes loop pos s stops' u
        ∧ q.Follows pos stops'
        ∧ site.Ceases loop pos stops' u w := by
  induction bound generalizing stops p t with
  | zero => cases ran
  | succ bound ih =>
      by_cases below : belowMax loop.max p.rounds = true
      · have onward : loop.GoesOn pos stops :=
          ⟨follows.rounds ▸ belowMax_iff.mp below, unsettled⟩
        have steps := ran
        rw [rounds, repeatRounds, if_pos below] at steps
        obtain ⟨gap, u, led, steps⟩ := bind_eq_ok.mp steps
        cases gap with
        | none =>
            cases steps
            obtain ⟨later, e, start, v, separated, skipped, missed⟩ :=
              unseparated_of_gapBefore follows led
            exact ⟨stops, t, taken, follows,
              .unseparated onward later separated skipped missed⟩
        | some gap =>
            have approach := approaches_of_gapBefore follows led
            obtain ⟨found, v, evaluated, steps⟩ := bind_eq_ok.mp steps
            cases found with
            | none =>
                cases steps
                exact ⟨stops, t, taken, follows, .missed onward approach evaluated⟩
            | some r =>
                have next : site.Takes loop pos s (r.stop :: stops) v :=
                  taken.next onward approach ⟨_, evaluated⟩
                have followsNext := follows.round r.stop
                  (roundLog loop.max (gap.caught ++ r.caught))
                have settled : isLastRound loop.min (p.rounds + 1) p.stop r.stop = true
                    ↔ loop.Settled pos (r.stop :: stops) := by
                  rw [Loop.settled_cons_iff, follows.rounds, follows.stop]
                rw [rounds_round below led evaluated] at ran
                by_cases last : isLastRound loop.min (p.rounds + 1) p.stop r.stop = true
                · rw [if_pos last] at ran
                  cases ran
                  exact ⟨_, _, next, followsNext, .settled (settled.mp last)⟩
                · rw [if_neg last] at ran
                  exact ih next followsNext (fun still => last (settled.mpr still)) ran
      · rw [rounds_full (Bool.eq_false_iff.mpr below)] at ran
        cases ran
        refine ⟨stops, _, taken, follows, .full ?_⟩
        rw [follows.rounds] at below
        exact taken.full below

-----------------------------------------------------------------------------------------
-- Rounds are gone through
-----------------------------------------------------------------------------------------

/-- A round that is taken is gone through at the cost of one of the bound, and the repetition goes
on from it unless it made no progress.
-/
theorem rounds_taken {stops : List Int} {start stop : Int} {p : Progress}
    {t u v : MatcherState} (follows : p.Follows pos stops) (onward : loop.GoesOn pos stops)
    (approach : site.Approaches loop.sep pos stops start t u)
    (body : site.Matches loop.body start stop u v)
    : ∃ q : Progress,
        q.Follows pos (stop :: stops)
        ∧ (loop.Settled pos (stop :: stops)
          → ∀ bound, site.rounds loop (bound + 1) p t = .ok q v)
        ∧ (¬ loop.Settled pos (stop :: stops)
          → ∀ bound, site.rounds loop (bound + 1) p t = site.rounds loop bound q v) := by
  obtain ⟨gapLog, led⟩ := approach.gapBefore follows
  obtain ⟨log, matched⟩ := body
  have below : belowMax loop.max p.rounds = true :=
    belowMax_iff.mpr (follows.rounds ▸ onward.below)
  have settled : loop.Settled pos (stop :: stops)
      ↔ isLastRound loop.min (p.rounds + 1) p.stop stop = true := by
    rw [Loop.settled_cons_iff, follows.rounds, follows.stop]
  refine ⟨_, follows.round stop (roundLog loop.max (gapLog ++ log)), fun still bound => ?_,
    fun onward bound => ?_⟩
  · rw [rounds_round below led matched, if_pos (settled.mp still)]
  · rw [rounds_round below led matched, if_neg (mt settled.mpr onward)]

/-- Rounds after which another one may follow are gone through one by one, each at the cost of one
of the bound. Induction on the rounds.
-/
theorem Takes.rounds_eq {stops : List Int} {s t : MatcherState}
    (taken : site.Takes loop pos s stops t) (unsettled : ¬ loop.Settled pos stops)
    : ∃ p : Progress,
        p.Follows pos stops
        ∧ ∀ bound,
            site.rounds loop (bound + stops.length) ⟨pos, 0, []⟩ s
              = site.rounds loop bound p t := by
  induction taken with
  | none => exact ⟨⟨pos, 0, []⟩, ⟨rfl, rfl⟩, fun _ => rfl⟩
  | @next stops start stop t u v before onward approach body ih =>
      obtain ⟨p, follows, ran⟩ := ih onward.unsettled
      obtain ⟨q, followsNext, -, goesOn⟩ := rounds_taken follows onward approach body
      refine ⟨q, followsNext, fun bound => ?_⟩
      rw [List.length_cons, ← Nat.add_assoc, Nat.add_right_comm, ran, goesOn unsettled]

/-- Rounds that are taken are gone through, and then the repetition stops for the reason there is.
That takes a bound that the rounds do not use up, of which the last one may use the rest if no
further one is tried.
-/
theorem Ceases.rounds_eq {stops : List Int} {s t u : MatcherState}
    (ceases : site.Ceases loop pos stops t u) (taken : site.Takes loop pos s stops t)
    {bound : Nat} (few : stops.length ≤ bound)
    (spare : ¬ loop.Settled pos stops → stops.length < bound)
    : ∃ p : Progress, p.Follows pos stops ∧ site.rounds loop bound ⟨pos, 0, []⟩ s = .ok p u := by
  by_cases settled : loop.Settled pos stops
  · cases taken with
    | none => exact settled.elim
    | @next stops start stop t u v before onward approach body =>
        obtain ⟨p, follows, ran⟩ := before.rounds_eq onward.unsettled
        obtain ⟨q, followsNext, ends, -⟩ := rounds_taken follows onward approach body
        obtain ⟨more, rfl⟩ : ∃ more, bound = more + 1 + stops.length :=
          ⟨bound - 1 - stops.length, by simp only [List.length_cons] at few; omega⟩
        refine ⟨q, followsNext, ?_⟩
        rw [ran, ends settled]
        cases ceases with
        | full => rfl
        | settled => rfl
        | unseparated onward => exact absurd settled onward.unsettled
        | missed onward => exact absurd settled onward.unsettled
  · obtain ⟨p, follows, ran⟩ := taken.rounds_eq settled
    obtain ⟨more, rfl⟩ : ∃ more, bound = more + 1 + stops.length :=
      ⟨bound - 1 - stops.length, by have := spare settled; omega⟩
    refine ⟨p, follows, ?_⟩
    rw [ran]
    cases ceases with
    | full all => exact rounds_full (by simp [all, follows.rounds, belowMax])
    | settled still => exact absurd still settled
    | unseparated onward later separated skipped missed =>
        exact rounds_unseparated (belowMax_iff.mpr (follows.rounds ▸ onward.below))
          (gapBefore_of_unseparated follows later separated skipped missed)
    | missed onward approach missed =>
        obtain ⟨log, led⟩ := approach.gapBefore follows
        exact rounds_missed (belowMax_iff.mpr (follows.rounds ▸ onward.below)) led missed

-----------------------------------------------------------------------------------------
-- Trailing separators
-----------------------------------------------------------------------------------------

section Trailing

variable {sep : Option Expr} {trailing : Bool} {stops : List Int} {p : Progress}
  {s t : MatcherState}

/-- Where no separator is asked for, or none can trail, nothing is read after the rounds. -/
theorem trailingSeparator_untried (follows : p.Follows pos stops)
    (untried : trailing = false ∨ sep = none ∨ stops = [])
    : trailingSeparator site (evalOption site sep) trailing p
      = pure ⟨lastStop pos stops, []⟩ := by
  rw [← follows.stop]
  rcases untried with rfl | rfl | rfl
  · cases sep <;> rfl
  · rfl
  · have none : p.rounds = 0 := follows.rounds
    cases sep <;> simp [RuleGrammar.trailingSeparator, none]

/-- Where it is tried, one more separator is read after the rounds if it is there. -/
theorem trailingSeparator_tried (follows : p.Follows pos stops) (later : stops ≠ []) (e : Expr)
    : trailingSeparator site (evalOption site (some e)) true p = do
        match ← eval site e (← site.skipSpace (lastStop pos stops)) with
        | none => return ⟨lastStop pos stops, []⟩
        | some r => return r := by
  have tried : (true && decide (p.rounds ≠ 0)) = true := by simp [follows.rounds, later]
  rw [← follows.stop]
  exact if_pos tried

/-- What is read after the rounds is what may follow them. -/
theorem trails_of_trailingSeparator (follows : p.Follows pos stops) {last : Reached}
    (ran : trailingSeparator site (evalOption site sep) trailing p s = .ok last t)
    : site.Trails sep trailing pos stops last.stop s t := by
  by_cases untried : trailing = false ∨ sep = none ∨ stops = []
  · rw [trailingSeparator_untried follows untried] at ran
    cases ran
    exact .untried untried
  · simp only [not_or, Bool.not_eq_false] at untried
    obtain ⟨rfl, separated, later⟩ := untried
    obtain ⟨e, rfl⟩ := Option.ne_none_iff_exists'.mp separated
    rw [trailingSeparator_tried follows later] at ran
    obtain ⟨start, _, skipped, ran⟩ := bind_eq_ok.mp ran
    obtain ⟨found, _, evaluated, ran⟩ := bind_eq_ok.mp ran
    cases found with
    | none =>
        cases ran
        exact .missed rfl later rfl (skips_of_skipSpace skipped) evaluated
    | some r =>
        cases ran
        exact .found rfl later rfl (skips_of_skipSpace skipped) ⟨_, evaluated⟩

/-- What follows the rounds is read after them. -/
theorem Trails.trailingSeparator {stop : Int} (trails : site.Trails sep trailing pos stops stop s t)
    (follows : p.Follows pos stops)
    : ∃ log,
        trailingSeparator site (evalOption site sep) trailing p s = .ok ⟨stop, log⟩ t := by
  cases trails with
  | untried untried => exact ⟨[], by rw [trailingSeparator_untried follows untried]; rfl⟩
  | missed asked later separated skipped missed =>
      refine ⟨[], ?_⟩
      rw [asked, separated, trailingSeparator_tried follows later]
      exact (bind_of_ok skipped.skipSpace).trans (bind_of_ok missed)
  | found asked later separated skipped found =>
      obtain ⟨log, found⟩ := found
      refine ⟨log, ?_⟩
      rw [asked, separated, trailingSeparator_tried follows later]
      exact (bind_of_ok skipped.skipSpace).trans (bind_of_ok found)

end Trailing

end Site

-----------------------------------------------------------------------------------------
-- Repetitions inside a matcher
-----------------------------------------------------------------------------------------

namespace MatchEnv

variable {env : MatchEnv} {room : Nat} {scope : Scope} {rule : Rule} {pos : Int}
  {s t : MatcherState}

theorem matches_ahead (sane : s.Sane env) {e : Expr} {stop : Int}
    (matched : (env.siteWithin room scope rule).Matches e pos stop s t)
    : t.Sane env ∧ env.subject.Ahead pos stop := by
  obtain ⟨log, matched⟩ := matched
  obtain ⟨resolves, memo, ahead⟩ :=
    Ensures.eval_ahead room scope rule pos e s sane.resolves sane.memo _ _ matched
  exact ⟨⟨resolves, memo⟩, ahead _ rfl⟩

theorem skips_ahead (sane : s.Sane env) {stop : Int}
    (skipped : (env.siteWithin room scope rule).Skips pos stop s t)
    : t.Sane env ∧ env.subject.Ahead pos stop := by
  obtain ⟨resolves, memo, ahead⟩ :=
    Ensures.skipSpace_ahead room scope rule pos s sane.resolves sane.memo _ _ skipped.skipSpace
  exact ⟨⟨resolves, memo⟩, ahead⟩

/-- The way to the body of a round leads ahead. -/
theorem approaches_ahead (sane : s.Sane env) {sep : Option Expr} {stops : List Int} {start : Int}
    (approach : (env.siteWithin room scope rule).Approaches sep pos stops start s t)
    : t.Sane env ∧ env.subject.Ahead (lastStop pos stops) start := by
  cases approach with
  | first => exact ⟨sane, .refl _ _⟩
  | space unseparated skipped => exact skips_ahead sane skipped
  | separator separated skipped found skippedAfter =>
      obtain ⟨sane, ahead⟩ := skips_ahead sane skipped
      obtain ⟨sane, further⟩ := matches_ahead sane found
      obtain ⟨sane, furthest⟩ := skips_ahead sane skippedAfter
      exact ⟨sane, (ahead.trans further).trans furthest⟩

/-- Rounds lead ahead, by induction on them. While more may follow, each of them has left less of
the subject or has brought their number closer to the minimum.
-/
theorem takes_ahead (sane : s.Sane env) {loop : Loop} {stops : List Int}
    (taken : (env.siteWithin room scope rule).Takes loop pos s stops t)
    : t.Sane env
      ∧ (¬ loop.Settled pos stops
        → stops.length + (env.subject.size - lastStop pos stops).toNat
            + (loop.min - stops.length)
          ≤ (env.subject.size - pos).toNat + loop.min)
      ∧ stops.length ≤ (env.subject.size - pos).toNat + loop.min + 1 := by
  induction taken with
  | none => exact ⟨sane, fun _ => by simp [lastStop], by simp⟩
  | @next stops start stop t u v before onward approach body ih =>
      obtain ⟨sane, few, -⟩ := ih
      have few := few onward.unsettled
      obtain ⟨sane, led⟩ := approaches_ahead sane approach
      obtain ⟨sane, ahead⟩ := matches_ahead sane body
      refine ⟨sane, fun unsettled => ?_, by simp only [List.length_cons]; omega⟩
      have ahead := led.trans ahead
      simp only [List.length_cons, lastStop, List.headD_cons]
      by_cases moved : stop = lastStop pos stops
      · have missing : ¬ loop.min ≤ stops.length + 1 := fun enough => unsettled ⟨moved, enough⟩
        rw [moved]
        omega
      · have less := ahead.rest_lt moved
        omega

/-- A repetition inside a matcher matches exactly where its rounds lead: as many as are asked for
and no more than there may be, none of which could be followed by another one, and at most one more
separator behind them.
-/
theorem matches_repetition_iff (sane : s.Sane env) {body : Expr} {min : Nat} {max : Option Nat}
    {sep : Option Expr} {trailing : Bool} {stop : Int}
    : (env.siteWithin room scope rule).Matches (.repetition body min max sep trailing) pos stop s t
      ↔ ∃ stops u v,
          (env.siteWithin room scope rule).Takes ⟨body, min, max, sep⟩ pos s stops u
          ∧ min ≤ stops.length
          ∧ (∀ bound ∈ max, stops.length ≤ bound)
          ∧ (env.siteWithin room scope rule).Ceases ⟨body, min, max, sep⟩ pos stops u v
          ∧ (env.siteWithin room scope rule).Trails sep trailing pos stops stop v t := by
  constructor
  · rintro ⟨log, ran⟩
    simp only [eval, evalRepetition] at ran
    obtain ⟨p, v, rounds, ran⟩ := bind_eq_ok.mp ran
    obtain ⟨last, w, trailed, ran⟩ := bind_eq_ok.mp ran
    have untaken : (env.siteWithin room scope rule).Takes ⟨body, min, max, sep⟩ pos s [] s := .none
    obtain ⟨stops, u, taken, follows, ceases⟩ :=
      Site.takes_of_rounds untaken ⟨rfl, rfl⟩ id rounds
    have trails := Site.trails_of_trailingSeparator follows trailed
    by_cases few : p.rounds < min
    · rw [if_pos few] at ran
      cases ran
    · rw [if_neg few] at ran
      cases ran
      refine ⟨stops, u, v, taken, ?_, taken.length_le, ceases, trails⟩
      rw [← follows.rounds]
      exact Nat.le_of_not_lt few
  · rintro ⟨stops, u, v, taken, enough, -, ceases, trails⟩
    obtain ⟨-, spare, few⟩ := takes_ahead sane taken
    have bounded : stops.length ≤ (env.subject.size - pos).toNat + min + 1 := few
    obtain ⟨p, follows, rounds⟩ := ceases.rounds_eq taken bounded
      fun unsettled => by have := spare unsettled; simp only at this; omega
    obtain ⟨log, trailed⟩ := trails.trailingSeparator follows
    have many : ¬ p.rounds < min := by rw [follows.rounds]; omega
    let names := (Expr.repetition body min max sep trailing).captureNames
    refine ⟨p.log ++ log ++ if Expr.repeats max then names.map Caught.mark else [], ?_⟩
    simp only [eval, evalRepetition]
    refine (bind_of_ok rounds).trans ((bind_of_ok trailed).trans ?_)
    rw [if_neg many]
    rfl

/-- A matcher over a row of two letters, with a comma and a blank behind each of them. -/
def blankRow : MatchEnv where
  grammar := ⟨{ name := "rows" }, []⟩
  subject := ⟨#['a', ',', ' ', 'a', ',', ' ']⟩

/-- A rule for letters with commas between them, and white space around the commas. -/
def blankRowRule : Rule where
  name := "row"
  expr := .repetition (.literal "a") 1 none (some (.literal ",")) false
  kind := .rule

/-- White space is skipped in front of the second letter, and the comma behind it is given back. -/
theorem matches_repetition_iff_blankRow
    : MatcherState.Sane {} blankRow
      ∧ blankRowRule.kind = .rule
      ∧ ∃ t,
          (blankRow.siteWithin 1 {} blankRowRule).Matches blankRowRule.expr 0 4 {} t
          ∧ ∃ stops u v,
              (blankRow.siteWithin 1 {} blankRowRule).Takes
                ⟨.literal "a", 1, none, some (.literal ",")⟩ 0 {} stops u
              ∧ (blankRow.siteWithin 1 {} blankRowRule).Ceases
                  ⟨.literal "a", 1, none, some (.literal ",")⟩ 0 stops u v := by
  have matched : ∃ t, (blankRow.siteWithin 1 {} blankRowRule).Matches blankRowRule.expr 0 4 {} t :=
    ⟨_, _, rfl⟩
  obtain ⟨t, matched⟩ := matched
  obtain ⟨stops, u, v, taken, -, -, ceases, -⟩ :=
    (matches_repetition_iff (.initial blankRow)).mp matched
  exact ⟨.initial blankRow, rfl, t, matched, stops, u, v, taken, ceases⟩

end MatchEnv

end RuleGrammar
