import Mathlib.Order.Filter.AtTopBot.Basic
import RuleGrammar.Proofs.Matcher.Ends

/-! Evaluation is complete: what can be derived it gives, once it has enough fuel. Derived answers
lie ahead, so that the rounds of a repetition stay within the bound that evaluation sets them.
-/

namespace RuleGrammar

-----------------------------------------------------------------------------------------
-- Derived answers lie ahead
-----------------------------------------------------------------------------------------

/-- What is derived lies ahead of the offset it is derived for; of a choice by length this is
said only if the best answer so far does.
-/
def Judgment.Ahead (subject : Subject) : Judgment → Prop
  | .expr _ _ pos answer | .items _ _ _ pos answer | .choice _ _ pos answer =>
      ∀ r ∈ answer, subject.Ahead pos r.stop
  | .longest _ _ best pos answer =>
      (∀ r ∈ best, subject.Ahead pos r.stop) → ∀ r ∈ answer, subject.Ahead pos r.stop
  | .space _ pos stop | .start _ _ pos stop => subject.Ahead pos stop
  | .gap _ _ p answer => ∀ r ∈ answer, subject.Ahead p.stop r.stop
  | .rounds _ _ p last => subject.Ahead p.stop last.stop
  | .trail _ _ _ p last => subject.Ahead p.stop last.stop
  | .call _ pos answer | .apply _ pos answer => ∀ m ∈ answer, subject.Ahead pos m.stop
  | .group _ best pos answer =>
      (∀ m ∈ best, subject.Ahead pos m.stop) → ∀ m ∈ answer, subject.Ahead pos m.stop

/-- What is derived lies ahead, by induction on the derivation. -/
theorem Derives.ahead {g : Grammar} {subject : Subject} {j : Judgment}
    (derived : Derives g subject j)
    : j.Ahead subject := by
  induction derived with
  | @literal _ text pos =>
      intro r found
      split at found
      · cases found
        exact Subject.ahead_of_holds ‹_›
      · cases found
  | @charClass _ cls holds pos _ =>
      intro r found
      split at found
      · rename_i member
        cases found
        refine Subject.ahead_succ ?_
        by_cases inside : pos < subject.size
        · exact inside
        · simp [Subject.at?, inside] at member
      · cases found
  | anyChar =>
      intro r found
      split at found
      · cases found
        exact Subject.ahead_succ ‹_›
      · cases found
  | anchor =>
      intro r found
      split at found
      · cases found
        exact .refl _ _
      · cases found
  | reference _ ih =>
      intro r found
      obtain ⟨m, member, rfl⟩ := Option.map_eq_some_iff.mp found
      exact ih m member
  | sym _ =>
      intro r found
      split at found
      · cases found
        exact Subject.ahead_of_holds ‹_›
      · cases found
  | lookahead _ _ =>
      intro r found
      split at found
      · cases found
        exact .refl _ _
      · cases found
  | repetition _ _ rounds trail =>
      intro r found
      split at found
      · cases found
      · cases found
        exact rounds.trans trail
  | sequence _ ih => exact ih
  | choice _ ih => exact ih
  | longest _ ih => exact ih (by simp)
  | goalUnopened _ _ => simp [Judgment.Ahead]
  | goalUnfilled _ _ _ _ _ _ => simp [Judgment.Ahead]
  | goal _ _ _ _ _ opened space filled spaceAfter closed =>
      intro r found
      obtain ⟨c, member, rfl⟩ := Option.map_eq_some_iff.mp found
      exact ((((opened _ rfl).trans space).trans (filled _ rfl)).trans spaceAfter).trans
        (closed c member)
  | capture _ ih =>
      intro r found
      obtain ⟨b, member, rfl⟩ := Option.map_eq_some_iff.mp found
      exact ih b member
  | itemsDone => simp [Judgment.Ahead, Subject.Ahead.refl]
  | itemsMissed _ _ _ _ => simp [Judgment.Ahead]
  | itemsNext _ _ _ started item later =>
      intro r found
      obtain ⟨l, member, rfl⟩ := Option.map_eq_some_iff.mp found
      exact (started.trans (item _ rfl)).trans (later l member)
  | choiceNone => simp [Judgment.Ahead]
  | choiceHere _ ih => exact ih
  | choiceLater _ _ _ ih => exact ih
  | longestDone => exact id
  | longestNext _ _ here later => exact fun ahead => later (Reached.forall_mem_further ahead here)
  | spaceless _ => exact .refl _ _
  | @space _ _ answer _ _ ih =>
      cases answer with
      | none => exact .refl _ _
      | some m => exact ih m rfl
  | startFirst => exact .refl _ _
  | startLater _ ih => exact ih
  | gapFirst _ => simp [Judgment.Ahead, Subject.Ahead.refl]
  | gapPlain _ _ ih => simpa [Judgment.Ahead] using ih
  | gapMissed _ _ _ _ _ => simp [Judgment.Ahead]
  | gapSeparated _ _ _ _ space found spaceAfter =>
      simpa [Judgment.Ahead] using (space.trans (found _ rfl)).trans spaceAfter
  | roundsFull _ => exact .refl _ _
  | roundsUnseparated _ _ _ => exact .refl _ _
  | roundsMissed _ _ _ _ _ => exact .refl _ _
  | roundsLast _ _ _ _ gap round => exact (gap _ rfl).trans (round _ rfl)
  | roundsNext _ _ _ _ _ gap round later =>
      exact ((gap _ rfl).trans (round _ rfl)).trans later
  | trailUntried _ => exact .refl _ _
  | trailMissed _ _ _ _ _ => exact .refl _ _
  | trailFound _ _ _ space found => exact space.trans (found _ rfl)
  | callRule _ _ ih => exact ih
  | callGroup _ _ ih => exact ih (by simp)
  | dispatchDone => exact id
  | dispatchNext _ _ here later => exact fun ahead => later (Match.forall_mem_further ahead here)
  | apply _ ih =>
      intro m found
      obtain ⟨r, member, rfl⟩ := Option.map_eq_some_iff.mp found
      exact ih r member

-----------------------------------------------------------------------------------------
-- Derived answers are evaluated
-----------------------------------------------------------------------------------------

/-- The site of a rule's body in matching without memory. -/
def MatchEnv.site (env : MatchEnv) (fuel : Nat) (rule : Rule) (scope : Scope) : Site :=
  ⟨env.subject, rule, scope, fun inner => callName env (unguarded env fuel inner)⟩

/-- A computation gives a value of a kind. -/
abbrev MatchEnv.Gives (env : MatchEnv) {α : Type} (m : MatchM α) (holds : α → Prop) : Prop :=
  Ends env.grammar (.free fun _ => False) m holds

/-- With so much fuel evaluation gives what is derived, in every scope. -/
def Judgment.Evaluated (env : MatchEnv) (fuel : Nat) : Judgment → Prop
  | .expr rule e pos answer =>
      ∀ scope,
        env.Gives (eval (env.site fuel rule scope) e pos) fun r => r.map Reached.bare = answer
  | .items rule first listed pos answer =>
      ∀ scope,
        env.Gives (evalItems (env.site fuel rule scope) first listed pos) fun r =>
          r.map Reached.bare = answer
  | .choice rule alternatives pos answer =>
      ∀ scope,
        env.Gives (evalChoice (env.site fuel rule scope) alternatives pos) fun r =>
          r.map Reached.bare = answer
  | .longest rule alternatives best pos answer =>
      ∀ scope best',
        best'.map Reached.bare = best
        → env.Gives (evalLongest (env.site fuel rule scope) alternatives best' pos) fun r =>
            r.map Reached.bare = answer
  | .space rule pos stop =>
      ∀ scope, env.Gives ((env.site fuel rule scope).skipSpace pos) (· = stop)
  | .start rule first pos stop =>
      ∀ scope, env.Gives ((env.site fuel rule scope).itemStart first pos) (· = stop)
  | .gap rule sep p answer =>
      ∀ scope (p' : Progress),
        p'.bare = p
        → env.Gives
            (gapBefore (betweenRounds (env.site fuel rule scope)
              (evalOption (env.site fuel rule scope) sep)) p')
            fun r => r.map Reached.bare = answer
  | .rounds rule loop p last =>
      ∀ scope (p' : Progress) bound,
        p'.bare = p
        → (env.subject.size - p.stop).toNat + (loop.min - p.rounds) < bound
        → env.Gives
            (repeatRounds rule.name (eval (env.site fuel rule scope) loop.body)
              (betweenRounds (env.site fuel rule scope)
                (evalOption (env.site fuel rule scope) loop.sep)) loop.min loop.max bound p')
            fun q => q.bare = last
  | .trail rule sep trailing p last =>
      ∀ scope (p' : Progress),
        p'.bare = p
        → env.Gives
            (trailingSeparator (env.site fuel rule scope)
              (evalOption (env.site fuel rule scope) sep) trailing p')
            fun r => r.bare = last
  | .call name pos answer =>
      ∀ scope,
        env.Gives (callName env (unguarded env fuel scope) name pos) fun m =>
          m.map Match.bare = answer
  | .group alternatives best pos answer =>
      ∀ scope best',
        best'.map Match.bare = best
        → env.Gives (dispatch (unguarded env fuel scope) pos alternatives best') fun m =>
            m.map Match.bare = answer
  | .apply rule pos answer =>
      ∀ scope, env.Gives (unguarded env fuel scope rule pos) fun m => m.map Match.bare = answer

namespace Judgment.Evaluated

variable {env : MatchEnv} {fuel : Nat} {rule : Rule} {pos : Int}

theorem reference {name : Name} {capture : Option Name} {answer : Option Match}
    (called : (Judgment.call name pos answer).Evaluated env fuel)
    : (Judgment.expr rule (.reference name capture) pos (answer.map fun m =>
        ⟨m.stop, (Expr.capturing capture).map fun name => .node (some name) m false⟩)).Evaluated
          env fuel := by
  intro scope
  refine (Ends.reference (· = answer) capture (called scope)).mono fun r found => ?_
  obtain ⟨_, rfl, same⟩ := found
  exact same

theorem lookahead {body : Expr} {negated : Bool} {answer : Option Reached}
    (looked : (Judgment.expr rule body pos answer).Evaluated env fuel)
    : (Judgment.expr rule (.lookahead body negated) pos
        (if answer.isSome != negated then some ⟨pos, []⟩ else none)).Evaluated env fuel := by
  intro scope
  refine (Ends.lookahead (· = answer) negated (looked { scope with quiet := true })).mono
    fun r found => ?_
  obtain ⟨_, rfl, same⟩ := found
  exact same

theorem capture {body : Expr} {name : Option Name} {answer : Option Reached}
    (inner : (Judgment.expr rule body pos answer).Evaluated env fuel)
    : (Judgment.expr rule (.capture body name) pos (answer.map fun r =>
        ⟨r.stop, [.node name (.unnamed pos r.stop r.caught) false]⟩)).Evaluated env fuel := by
  intro scope
  refine (Ends.capture (· = answer) name (inner scope)).mono fun r found => ?_
  obtain ⟨_, rfl, same⟩ := found
  exact same

theorem repetition {body : Expr} {min : Nat} {max : Option Nat} {sep : Option Expr}
    {trailing : Bool} {p : Progress} {last : Reached}
    (rounds : (Judgment.rounds rule ⟨body, min, max, sep⟩ ⟨pos, 0, []⟩ p).Evaluated env fuel)
    (trail : (Judgment.trail rule sep trailing p last).Evaluated env fuel)
    : (Judgment.expr rule (.repetition body min max sep trailing) pos
        (if p.rounds < min then none
        else some (p.finish max (Expr.repetition body min max sep trailing).captureNames
          last))).Evaluated env fuel := by
  intro scope
  simp only [eval, evalRepetition]
  refine (rounds scope ⟨pos, 0, []⟩ _ rfl (by simp [MatchEnv.site])).bind fun q same => ?_
  subst same
  refine (trail scope q rfl).bind fun l same => ?_
  subst same
  by_cases few : q.rounds < min
  · simp only [few, if_true, Progress.bare_rounds]
    exact .pure rfl
  · simp only [few, if_false, Progress.bare_rounds]
    exact .pure (congrArg some (q.bare_finish max _ l))

/-- White space is skipped as the call for it says. -/
theorem space {answer : Option Match} (asked : rule.sigspace = true)
    (called : (Judgment.call "ws" pos answer).Evaluated env fuel)
    : (Judgment.space rule pos (answer.elim pos Match.stop)).Evaluated env fuel := by
  intro scope
  have skipped : env.Gives ((env.site fuel rule scope).skipSpace pos) _ :=
    Ends.skipSpace (· = answer) fun _ => called { scope with quiet := true }
  refine skipped.mono fun stop ended => ?_
  rcases ended with ⟨unasked, -⟩ | ⟨-, _, rfl, same⟩
  · exact absurd asked (by simpa [MatchEnv.site] using unasked)
  · exact same

theorem spaceless (unasked : rule.sigspace = false)
    : (Judgment.space rule pos pos).Evaluated env fuel := by
  intro scope
  unfold Site.skipSpace
  simp only [MatchEnv.site, unasked, Bool.false_eq_true, if_false]
  exact .pure rfl

theorem goalUnopened {opener closer body : Expr}
    (missed : (Judgment.expr rule opener pos none).Evaluated env fuel)
    : (Judgment.expr rule (.goal opener closer body) pos none).Evaluated env fuel := by
  intro scope
  simp only [eval, evalGoal]
  refine (missed scope).bind fun o none => ?_
  obtain rfl := Option.map_eq_none_iff.mp none
  exact .pure rfl

theorem goalUnfilled {opener closer body : Expr} {o : Reached} {start : Int}
    (opened : (Judgment.expr rule opener pos (some o)).Evaluated env fuel)
    (space : (Judgment.space rule o.stop start).Evaluated env fuel)
    (missed : (Judgment.expr rule body start none).Evaluated env fuel)
    : (Judgment.expr rule (.goal opener closer body) pos none).Evaluated env fuel := by
  intro scope
  simp only [eval, evalGoal]
  refine (opened scope).bind fun o' found => ?_
  obtain ⟨o', rfl, rfl⟩ := Option.map_eq_some_iff.mp found
  refine (space scope).bind fun start' same => ?_
  subst same
  refine (missed scope).bind fun b none => ?_
  obtain rfl := Option.map_eq_none_iff.mp none
  exact .pure rfl

theorem goal {opener closer body : Expr} {o b : Reached} {start closing : Int}
    {answer : Option Reached}
    (opened : (Judgment.expr rule opener pos (some o)).Evaluated env fuel)
    (space : (Judgment.space rule o.stop start).Evaluated env fuel)
    (filled : (Judgment.expr rule body start (some b)).Evaluated env fuel)
    (spaceAfter : (Judgment.space rule b.stop closing).Evaluated env fuel)
    (closed : (Judgment.expr rule closer closing answer).Evaluated env fuel)
    : (Judgment.expr rule (.goal opener closer body) pos (answer.map fun c =>
        ⟨c.stop, o.caught ++ b.caught
          ++ c.caught.filter fun entry => entry.name.isSome⟩)).Evaluated env fuel := by
  intro scope
  simp only [eval, evalGoal]
  refine (opened scope).bind fun o' found => ?_
  obtain ⟨o', rfl, rfl⟩ := Option.map_eq_some_iff.mp found
  refine (space scope).bind fun start' same => ?_
  subst same
  refine (filled scope).bind fun b' found => ?_
  obtain ⟨b', rfl, rfl⟩ := Option.map_eq_some_iff.mp found
  refine (spaceAfter scope).bind fun closing' same => ?_
  subst same
  refine (closed scope).bind fun c' same => ?_
  subst same
  cases c' with
  | none =>
      refine (Ends.expectGoal scope closing' closer.describe ?_).bind fun _ _ => .pure rfl
      exact fun _ _ _ _ => trivial
  | some c =>
      refine .pure ?_
      simp [Reached.bare, logThrough, ← Coupling.logThrough_filter_named]

theorem itemsMissed {first : Bool} {e : Expr} {rest : List Expr} {start : Int}
    (started : (Judgment.start rule first pos start).Evaluated env fuel)
    (missed : (Judgment.expr rule e start none).Evaluated env fuel)
    : (Judgment.items rule first (e :: rest) pos none).Evaluated env fuel := by
  intro scope
  simp only [evalItems]
  refine (started scope).bind fun start' same => ?_
  subst same
  refine (missed scope).bind fun r none => ?_
  obtain rfl := Option.map_eq_none_iff.mp none
  exact .pure rfl

theorem itemsNext {first : Bool} {e : Expr} {rest : List Expr} {start : Int} {r : Reached}
    {answer : Option Reached}
    (started : (Judgment.start rule first pos start).Evaluated env fuel)
    (item : (Judgment.expr rule e start (some r)).Evaluated env fuel)
    (later : (Judgment.items rule false rest r.stop answer).Evaluated env fuel)
    : (Judgment.items rule first (e :: rest) pos
        (answer.map fun l => ⟨l.stop, r.caught ++ l.caught⟩)).Evaluated env fuel := by
  intro scope
  simp only [evalItems]
  refine (started scope).bind fun start' same => ?_
  subst same
  refine (item scope).bind fun r' found => ?_
  obtain ⟨r', rfl, rfl⟩ := Option.map_eq_some_iff.mp found
  refine (later scope).bind fun l same => ?_
  subst same
  cases l with
  | none => exact .pure rfl
  | some l => exact .pure (by simp [Reached.bare, logThrough])

theorem choiceHere {e : Expr} {rest : List Expr} {r : Reached}
    (found : (Judgment.expr rule e pos (some r)).Evaluated env fuel)
    : (Judgment.choice rule (e :: rest) pos (some r)).Evaluated env fuel := by
  intro scope
  simp only [evalChoice]
  refine (found scope).bind fun r' found => ?_
  obtain ⟨r', rfl, rfl⟩ := Option.map_eq_some_iff.mp found
  exact .pure rfl

theorem choiceLater {e : Expr} {rest : List Expr} {answer : Option Reached}
    (missed : (Judgment.expr rule e pos none).Evaluated env fuel)
    (later : (Judgment.choice rule rest pos answer).Evaluated env fuel)
    : (Judgment.choice rule (e :: rest) pos answer).Evaluated env fuel := by
  intro scope
  simp only [evalChoice]
  refine (missed scope).bind fun r none => ?_
  obtain rfl := Option.map_eq_none_iff.mp none
  exact later scope

theorem longestNext {e : Expr} {rest : List Expr} {best next answer : Option Reached}
    (here : (Judgment.expr rule e pos next).Evaluated env fuel)
    (later : (Judgment.longest rule rest (furtherReached best next) pos answer).Evaluated env fuel)
    : (Judgment.longest rule (e :: rest) best pos answer).Evaluated env fuel := by
  rintro scope best' rfl
  simp only [evalLongest]
  refine (here scope).bind fun next' same => ?_
  subst same
  exact later scope (furtherReached best' next') (Reached.bare_further best' next')

theorem gapFirst {sep : Option Expr} {p : Progress} (first : p.rounds = 0)
    : (Judgment.gap rule sep p (some ⟨p.stop, []⟩)).Evaluated env fuel := by
  rintro scope p rfl
  have first : p.rounds = 0 := first
  unfold gapBefore
  simp only [first, if_true]
  exact .pure rfl

theorem gapPlain {p : Progress} {start : Int} (later : p.rounds ≠ 0)
    (space : (Judgment.space rule p.stop start).Evaluated env fuel)
    : (Judgment.gap rule none p (some ⟨start, []⟩)).Evaluated env fuel := by
  rintro scope p rfl
  have later : p.rounds ≠ 0 := later
  unfold gapBefore betweenRounds
  simp only [later, if_false]
  refine (space scope).bind fun start' same => ?_
  subst same
  exact .pure rfl

theorem gapMissed {sep : Expr} {p : Progress} {start : Int} (later : p.rounds ≠ 0)
    (space : (Judgment.space rule p.stop start).Evaluated env fuel)
    (missed : (Judgment.expr rule sep start none).Evaluated env fuel)
    : (Judgment.gap rule (some sep) p none).Evaluated env fuel := by
  rintro scope p rfl
  have later : p.rounds ≠ 0 := later
  unfold gapBefore betweenRounds
  simp only [later, if_false]
  refine (space scope).bind fun start' same => ?_
  subst same
  refine (missed scope).bind fun r none => ?_
  obtain rfl := Option.map_eq_none_iff.mp none
  exact .pure rfl

theorem gapSeparated {sep : Expr} {p : Progress} {start stop : Int} {s : Reached}
    (later : p.rounds ≠ 0) (space : (Judgment.space rule p.stop start).Evaluated env fuel)
    (found : (Judgment.expr rule sep start (some s)).Evaluated env fuel)
    (spaceAfter : (Judgment.space rule s.stop stop).Evaluated env fuel)
    : (Judgment.gap rule (some sep) p (some ⟨stop, s.caught⟩)).Evaluated env fuel := by
  rintro scope p rfl
  have later : p.rounds ≠ 0 := later
  unfold gapBefore betweenRounds
  simp only [later, if_false]
  refine (space scope).bind fun start' same => ?_
  subst same
  refine (found scope).bind fun s' found => ?_
  obtain ⟨s', rfl, rfl⟩ := Option.map_eq_some_iff.mp found
  refine (spaceAfter scope).bind fun stop' same => ?_
  subst same
  exact .pure rfl

theorem roundsFull {loop : Loop} {p : Progress} (full : belowMax loop.max p.rounds = false)
    : (Judgment.rounds rule loop p p).Evaluated env fuel := by
  rintro scope p bound rfl enough
  have full : belowMax loop.max p.rounds = false := full
  obtain ⟨bound, rfl⟩ : ∃ more, bound = more + 1 := ⟨bound - 1, by omega⟩
  unfold repeatRounds
  simp only [full, Bool.false_eq_true, if_false]
  exact .pure rfl

theorem roundsUnseparated {loop : Loop} {p : Progress}
    (below : belowMax loop.max p.rounds = true)
    (gap : (Judgment.gap rule loop.sep p none).Evaluated env fuel)
    : (Judgment.rounds rule loop p p).Evaluated env fuel := by
  rintro scope p bound rfl enough
  have below : belowMax loop.max p.rounds = true := below
  obtain ⟨bound, rfl⟩ : ∃ more, bound = more + 1 := ⟨bound - 1, by omega⟩
  unfold repeatRounds
  simp only [below, if_true]
  refine (gap scope p rfl).bind fun before none => ?_
  obtain rfl := Option.map_eq_none_iff.mp none
  exact .pure rfl

theorem roundsMissed {loop : Loop} {p : Progress} {before : Reached}
    (below : belowMax loop.max p.rounds = true)
    (gap : (Judgment.gap rule loop.sep p (some before)).Evaluated env fuel)
    (missed : (Judgment.expr rule loop.body before.stop none).Evaluated env fuel)
    : (Judgment.rounds rule loop p p).Evaluated env fuel := by
  rintro scope p bound rfl enough
  have below : belowMax loop.max p.rounds = true := below
  obtain ⟨bound, rfl⟩ : ∃ more, bound = more + 1 := ⟨bound - 1, by omega⟩
  unfold repeatRounds
  simp only [below, if_true]
  refine (gap scope p rfl).bind fun before' found => ?_
  obtain ⟨before', rfl, rfl⟩ := Option.map_eq_some_iff.mp found
  refine (missed scope).bind fun r none => ?_
  obtain rfl := Option.map_eq_none_iff.mp none
  exact .pure rfl

theorem roundsLast {loop : Loop} {p : Progress} {before r : Reached}
    (below : belowMax loop.max p.rounds = true)
    (gap : (Judgment.gap rule loop.sep p (some before)).Evaluated env fuel)
    (round : (Judgment.expr rule loop.body before.stop (some r)).Evaluated env fuel)
    (last : isLastRound loop.min (p.rounds + 1) p.stop r.stop = true)
    : (Judgment.rounds rule loop p
        (p.round r.stop (roundLog loop.max (before.caught ++ r.caught)))).Evaluated env fuel := by
  rintro scope p bound rfl enough
  have below : belowMax loop.max p.rounds = true := below
  obtain ⟨bound, rfl⟩ : ∃ more, bound = more + 1 := ⟨bound - 1, by omega⟩
  unfold repeatRounds
  simp only [below, if_true]
  refine (gap scope p rfl).bind fun before' found => ?_
  obtain ⟨before', rfl, rfl⟩ := Option.map_eq_some_iff.mp found
  refine (round scope).bind fun r' found => ?_
  obtain ⟨r', rfl, rfl⟩ := Option.map_eq_some_iff.mp found
  have last : isLastRound loop.min (p.round r'.stop
      (roundLog loop.max (before'.caught ++ r'.caught))).rounds p.stop r'.stop = true := last
  simp only [last, if_true]
  exact .pure (p.bare_round loop.max before' r')

/-- A round that goes on leaves less of the subject or brings the count closer to the minimum, so
the bound is still enough for those that follow.
-/
theorem roundsNext {loop : Loop} {p last : Progress} {before r : Reached}
    (below : belowMax loop.max p.rounds = true)
    (gap : (Judgment.gap rule loop.sep p (some before)).Evaluated env fuel)
    (round : (Judgment.expr rule loop.body before.stop (some r)).Evaluated env fuel)
    (more : isLastRound loop.min (p.rounds + 1) p.stop r.stop = false)
    (ahead : env.subject.Ahead p.stop r.stop)
    (later
      : (Judgment.rounds rule loop
          (p.round r.stop (roundLog loop.max (before.caught ++ r.caught))) last).Evaluated env
            fuel)
    : (Judgment.rounds rule loop p last).Evaluated env fuel := by
  rintro scope p bound rfl enough
  have below : belowMax loop.max p.rounds = true := below
  obtain ⟨bound, rfl⟩ : ∃ more, bound = more + 1 := ⟨bound - 1, by omega⟩
  unfold repeatRounds
  simp only [below, if_true]
  refine (gap scope p rfl).bind fun before' found => ?_
  obtain ⟨before', rfl, rfl⟩ := Option.map_eq_some_iff.mp found
  refine (round scope).bind fun r' found => ?_
  obtain ⟨r', rfl, rfl⟩ := Option.map_eq_some_iff.mp found
  have more : isLastRound loop.min (p.round r'.stop
      (roundLog loop.max (before'.caught ++ r'.caught))).rounds p.stop r'.stop = false := more
  simp only [more, Bool.false_eq_true, if_false]
  refine later scope _ bound (p.bare_round loop.max before' r') ?_
  simp only [isLastRound, Progress.round, Bool.and_eq_false_iff, decide_eq_false_iff_not] at more
  simp only [Progress.bare_stop, Progress.bare_rounds, Reached.bare_stop] at enough ahead
  simp only [Progress.round, Progress.bare_rounds, Reached.bare_stop]
  rcases more with moved | missing
  · have less := ahead.rest_lt moved
    omega
  · have few := of_decide_eq_false missing
    obtain ⟨onward, -⟩ := ahead
    omega

theorem trailUntried {sep : Option Expr} {trailing : Bool} {p : Progress}
    (untried : sep = none ∨ (trailing && p.rounds ≠ 0) = false)
    : (Judgment.trail rule sep trailing p ⟨p.stop, []⟩).Evaluated env fuel := by
  rintro scope p rfl
  cases sep with
  | none => exact .pure rfl
  | some e =>
      have untried : (trailing && decide (p.rounds ≠ 0)) = false :=
        untried.resolve_left (Option.some_ne_none e)
      simp only [trailingSeparator, evalOption, untried, Bool.false_eq_true, if_false]
      exact .pure rfl

theorem trailMissed {sep : Expr} {trailing : Bool} {p : Progress} {start : Int}
    (tried : (trailing && p.rounds ≠ 0) = true)
    (space : (Judgment.space rule p.stop start).Evaluated env fuel)
    (missed : (Judgment.expr rule sep start none).Evaluated env fuel)
    : (Judgment.trail rule (some sep) trailing p ⟨p.stop, []⟩).Evaluated env fuel := by
  rintro scope p rfl
  have tried : (trailing && decide (p.rounds ≠ 0)) = true := tried
  simp only [trailingSeparator, evalOption, tried, if_true]
  refine (space scope).bind fun start' same => ?_
  subst same
  refine (missed scope).bind fun r none => ?_
  obtain rfl := Option.map_eq_none_iff.mp none
  exact .pure rfl

theorem trailFound {sep : Expr} {trailing : Bool} {p : Progress} {start : Int} {s : Reached}
    (tried : (trailing && p.rounds ≠ 0) = true)
    (space : (Judgment.space rule p.stop start).Evaluated env fuel)
    (found : (Judgment.expr rule sep start (some s)).Evaluated env fuel)
    : (Judgment.trail rule (some sep) trailing p s).Evaluated env fuel := by
  rintro scope p rfl
  have tried : (trailing && decide (p.rounds ≠ 0)) = true := tried
  simp only [trailingSeparator, evalOption, tried, if_true]
  refine (space scope).bind fun start' same => ?_
  subst same
  refine (found scope).bind fun s' found => ?_
  obtain ⟨s', rfl, rfl⟩ := Option.map_eq_some_iff.mp found
  exact .pure rfl

theorem callRule {name : Name} {answer : Option Match}
    (stands : env.grammar.lookup name = some (.rule rule))
    (applied : (Judgment.apply rule pos answer).Evaluated env fuel)
    : (Judgment.call name pos answer).Evaluated env fuel := by
  intro scope
  refine (Ends.resolveOnce_of_lookup stands).bind fun entry same => ?_
  subst same
  exact applied scope

theorem callGroup {name : Name} {group : ProtoGroup} {answer : Option Match}
    (stands : env.grammar.lookup name = some (.group group))
    (dispatched : (Judgment.group group.alternatives none pos answer).Evaluated env fuel)
    : (Judgment.call name pos answer).Evaluated env fuel := by
  intro scope
  refine (Ends.resolveOnce_of_lookup stands).bind fun entry same => ?_
  subst same
  exact dispatched scope none rfl

theorem dispatchNext {rest : List Rule} {best next answer : Option Match}
    (here : (Judgment.apply rule pos next).Evaluated env fuel)
    (later : (Judgment.group rest (furtherMatch best next) pos answer).Evaluated env fuel)
    : (Judgment.group (rule :: rest) best pos answer).Evaluated env fuel := by
  rintro scope best' rfl
  refine (here scope).bind fun next' same => ?_
  subst same
  exact later scope (furtherMatch best' next') (Match.bare_further best' next')

/-- Applying a rule takes one more fuel than evaluating its body. -/
theorem apply {answer : Option Reached}
    (body : (Judgment.expr rule rule.expr pos answer).Evaluated env fuel)
    : (Judgment.apply rule pos (answer.map (rule.node pos))).Evaluated env (fuel + 1) := by
  intro scope
  unfold unguarded answerRule
  refine (Ends.traceStart env scope rule pos).bind fun _ _ => ?_
  refine (body (scope.enter rule pos)).bind fun reached same => ?_
  subst same
  refine (Ends.ruleMatch rule pos reached).bind fun m same => ?_
  exact (Ends.traceEnd env scope rule pos m).bind fun _ _ => .pure same

end Judgment.Evaluated

/-- What can be derived is evaluated once there is enough fuel, by induction on the derivation. -/
theorem Derives.evaluated {env : MatchEnv} {j : Judgment}
    (derived : Derives env.grammar env.subject j)
    : ∀ᶠ fuel in Filter.atTop, j.Evaluated env fuel := by
  induction derived with
  | literal => exact .of_forall fun _ _ => .literal _
  | charClass compiled => exact .of_forall fun _ _ => .charClass compiled
  | anyChar => exact .of_forall fun _ _ => .anyChar
  | anchor => exact .of_forall fun _ _ => .anchor _
  | reference _ called =>
      filter_upwards [called] with fuel called
      exact called.reference
  | sym tagged => exact .of_forall fun _ _ => .sym tagged
  | lookahead _ looked =>
      filter_upwards [looked] with fuel looked
      exact looked.lookahead
  | repetition _ _ rounds trail =>
      filter_upwards [rounds, trail] with fuel rounds trail
      exact rounds.repetition trail
  | sequence _ each =>
      filter_upwards [each] with fuel each scope
      simp only [eval]
      exact each scope
  | choice _ tried =>
      filter_upwards [tried] with fuel tried scope
      simp only [eval]
      exact tried scope
  | longest _ tried =>
      filter_upwards [tried] with fuel tried scope
      simp only [eval]
      exact tried scope none rfl
  | goalUnopened _ missed =>
      filter_upwards [missed] with fuel missed
      exact missed.goalUnopened
  | goalUnfilled _ _ _ opened space missed =>
      filter_upwards [opened, space, missed] with fuel opened space missed
      exact opened.goalUnfilled space missed
  | goal _ _ _ _ _ opened space filled spaceAfter closed =>
      filter_upwards [opened, space, filled, spaceAfter, closed]
        with fuel opened space filled spaceAfter closed
      exact opened.goal space filled spaceAfter closed
  | capture _ inner =>
      filter_upwards [inner] with fuel inner
      exact inner.capture
  | itemsDone => exact .of_forall fun _ _ => .pure rfl
  | itemsMissed _ _ started missed =>
      filter_upwards [started, missed] with fuel started missed
      exact started.itemsMissed missed
  | itemsNext _ _ _ started item later =>
      filter_upwards [started, item, later] with fuel started item later
      exact started.itemsNext item later
  | choiceNone => exact .of_forall fun _ _ => .pure rfl
  | choiceHere _ found =>
      filter_upwards [found] with fuel found
      exact found.choiceHere
  | choiceLater _ _ missed later =>
      filter_upwards [missed, later] with fuel missed later
      exact missed.choiceLater later
  | longestDone => exact .of_forall fun _ _ _ same => .pure same
  | longestNext _ _ here later =>
      filter_upwards [here, later] with fuel here later
      exact here.longestNext later
  | spaceless unasked => exact .of_forall fun _ => .spaceless unasked
  | space asked _ called =>
      filter_upwards [called] with fuel called
      exact .space asked called
  | startFirst => exact .of_forall fun _ _ => .pure rfl
  | startLater _ space =>
      filter_upwards [space] with fuel space
      exact space
  | gapFirst first => exact .of_forall fun _ => .gapFirst first
  | gapPlain later _ space =>
      filter_upwards [space] with fuel space
      exact .gapPlain later space
  | gapMissed later _ _ space missed =>
      filter_upwards [space, missed] with fuel space missed
      exact .gapMissed later space missed
  | gapSeparated later _ _ _ space found spaceAfter =>
      filter_upwards [space, found, spaceAfter] with fuel space found spaceAfter
      exact .gapSeparated later space found spaceAfter
  | roundsFull full => exact .of_forall fun _ => .roundsFull full
  | roundsUnseparated below _ gap =>
      filter_upwards [gap] with fuel gap
      exact .roundsUnseparated below gap
  | roundsMissed below _ _ gap missed =>
      filter_upwards [gap, missed] with fuel gap missed
      exact .roundsMissed below gap missed
  | roundsLast below _ _ last gap round =>
      filter_upwards [gap, round] with fuel gap round
      exact .roundsLast below gap round last
  | roundsNext below derivedGap derivedRound more _ gap round later =>
      have ahead := (derivedGap.ahead _ rfl).trans (derivedRound.ahead _ rfl)
      filter_upwards [gap, round, later] with fuel gap round later
      exact .roundsNext below gap round more ahead later
  | trailUntried untried => exact .of_forall fun _ => .trailUntried untried
  | trailMissed tried _ _ space missed =>
      filter_upwards [space, missed] with fuel space missed
      exact .trailMissed tried space missed
  | trailFound tried _ _ space found =>
      filter_upwards [space, found] with fuel space found
      exact .trailFound tried space found
  | callRule stands _ applied =>
      filter_upwards [applied] with fuel applied
      exact .callRule stands applied
  | callGroup stands _ dispatched =>
      filter_upwards [dispatched] with fuel dispatched
      exact .callGroup stands dispatched
  | dispatchDone => exact .of_forall fun _ _ _ same => .pure same
  | dispatchNext _ _ here later =>
      filter_upwards [here, later] with fuel here later
      exact here.dispatchNext later
  | apply _ body =>
      obtain ⟨enough, body⟩ := Filter.eventually_atTop.mp body
      refine Filter.eventually_atTop.mpr ⟨enough + 1, fun fuel le => ?_⟩
      obtain ⟨less, rfl⟩ : ∃ less, fuel = less + 1 := ⟨fuel - 1, by omega⟩
      exact (body less (by omega)).apply

/-- An expression has one answer at an offset: with enough fuel, one evaluation gives them all. -/
theorem Derives.unique {g : Grammar} {subject : Subject} {rule : Rule} {e : Expr} {pos : Int}
    {answer answer' : Option Reached} (derived : Derives g subject (.expr rule e pos answer))
    (derived' : Derives g subject (.expr rule e pos answer'))
    : answer = answer' := by
  let env : MatchEnv := { grammar := g, subject }
  have first : Derives env.grammar env.subject (.expr rule e pos answer) := derived
  have second : Derives env.grammar env.subject (.expr rule e pos answer') := derived'
  obtain ⟨fuel, gives, gives'⟩ := (first.evaluated.and second.evaluated).exists
  have resolves := MatcherState.Resolves.initial env.grammar
  rcases gives {} {} resolves trivial with ⟨r, t, ran, -, -, rfl⟩ | ⟨_, _, -, impossible⟩
  · rcases gives' {} {} resolves trivial with ⟨r', t', ran', -, -, rfl⟩ | ⟨_, _, -, impossible⟩
    · rw [ran] at ran'
      cases ran'
      rfl
    · cases impossible
  · cases impossible

/-- A call has one answer at an offset, which an expression that captures it gives. -/
theorem Derives.call_unique {g : Grammar} {subject : Subject} {name : Name} {pos : Int}
    {answer answer' : Option Match} (derived : Derives g subject (.call name pos answer))
    (derived' : Derives g subject (.call name pos answer'))
    : answer = answer' := by
  let rule : Rule := { name, expr := .reference name (some "node") }
  have first : Derives g subject (.expr rule (.reference name (some "node")) pos _) :=
    .reference derived
  have second : Derives g subject (.expr rule (.reference name (some "node")) pos _) :=
    .reference derived'
  have same := first.unique second
  cases answer <;> cases answer'
  case none.none => rfl
  case some.some m m' =>
      obtain ⟨-, caught⟩ := Reached.mk.inj (Option.some.inj same)
      obtain ⟨caught, -⟩ := List.cons.inj caught
      exact congrArg some (Caught.node.inj caught).2.1
  all_goals cases same

end RuleGrammar
