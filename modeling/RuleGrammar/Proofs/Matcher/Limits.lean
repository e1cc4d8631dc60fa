import RuleGrammar.Matcher.Parse
import RuleGrammar.Proofs.Matcher.Halting

/-! Limits on nesting. A run under a limit on the depth or a ceiling ends as the run without them
does, or the limit stops it; what is found is never changed by a limit.
-/

namespace RuleGrammar

/-- Whether a fault says that rules nest deeper than they may. -/
def Fault.isLimit : Fault → Bool
  | tooDeep _ _ _ | outOfRoom _ _ => true
  | _ => false

/-- Whether the nesting of rules is limited. -/
def MatchConfig.isLimited (config : MatchConfig) : Bool :=
  config.maxDepth.isSome || config.ceiling.isSome

namespace MatchEnv

variable {env : MatchEnv}

/-- The same matcher without limits. -/
def lifted (env : MatchEnv) : MatchEnv :=
  { env with config := { env.config with maxDepth := none, ceiling := none } }

theorem lifted_eq (unlimited : env.config.isLimited = false) : env.lifted = env := by
  obtain ⟨grammar, subject, config⟩ := env
  obtain ⟨memoize, maxDepth, validate, debug, ceiling⟩ := config
  simp only [MatchConfig.isLimited, Bool.or_eq_false_iff, Option.isSome_eq_false_iff,
    Option.isNone_iff_eq_none] at unlimited
  obtain ⟨rfl, rfl⟩ := unlimited
  rfl

/-- A ceiling only takes away room. -/
theorem room_le_lifted (env : MatchEnv) (resolved : List (Name × Entry)) (pos : Int)
    : env.room resolved pos ≤ env.lifted.room resolved pos := by
  have natural : env.lifted.room resolved pos = env.naturalRoom resolved pos := rfl
  rw [natural, room]
  split
  · exact Nat.le_refl _
  · exact Nat.min_le_right _ _

/-- The same matcher with other limits. -/
def withLimits (env : MatchEnv) (maxDepth : Option Int) (ceiling : Option Nat) : MatchEnv :=
  { env with config := { env.config with maxDepth, ceiling } }

/-- Limits that are no stricter than those of a matcher. Its own limit on depth may stop it earlier,
and so may its ceiling, if there is none instead; these faults are excused.
-/
structure Eases (env : MatchEnv) (maxDepth : Option Int) (ceiling : Option Nat)
    (excused : Fault → Prop)
    : Prop where
  depth : ∀ limit ∈ maxDepth, ∃ own ∈ env.config.maxDepth, own ≤ limit
  tooDeep : ∀ limit rule pos, excused (.tooDeep limit rule pos)
  ceiling
    : ceiling = env.config.ceiling ∨ ceiling = none ∧ ∀ rule pos, excused (.outOfRoom rule pos)

theorem Eases.lifted (env : MatchEnv) : env.Eases none none fun fault => fault.isLimit = true where
  depth := by simp
  tooDeep _ _ _ := rfl
  ceiling := Or.inr ⟨rfl, fun _ _ => rfl⟩

/-- A run under eased limits beside the run of the matcher itself, which may stop alone. -/
abbrev easedRun (env : MatchEnv) (excused : Fault → Prop) : Coupling :=
  env.saneRun (fun _ => True) excused

/-- One run carries a matcher under other limits beside the matcher: names are resolved and traced
without regard to limits.
-/
theorem easedRun_carries (env : MatchEnv) (maxDepth : Option Int) (ceiling : Option Nat)
    (excused : Fault → Prop)
    : (env.easedRun excused).Carries (env.withLimits maxDepth ceiling) env Eq := by
  have carries : (env.easedRun excused).Carries env env Eq :=
    env.oneRun_carries (Memo.Ahead env.subject) _ fun _ _ => trivial
  exact {
    subject := carries.subject
    enter := carries.enter
    hush := carries.hush
    notes := carries.notes
    resolve := carries.resolve
    traceStart := carries.traceStart
    traceEnd := carries.traceEnd
    ordinary := carries.ordinary
  }

namespace Eases

variable {maxDepth : Option Int} {ceiling : Option Nat} {excused : Fault → Prop}
  (eases : env.Eases maxDepth ceiling excused)

include eases

/-- Where the limit on depth is not reached, an eased one is not either. -/
theorem depthReached {scope : Scope} (free : env.config.depthReached scope = none)
    : (env.withLimits maxDepth ceiling).config.depthReached scope = none := by
  simp only [MatchConfig.depthReached, Option.filter_eq_none_iff, decide_eq_true_eq] at free ⊢
  intro limit eased reached
  obtain ⟨own, limited, le⟩ := eases.depth limit eased
  exact free own limited (Int.le_trans le reached)

/-- An eased ceiling leaves as much room, or more where to be out of it is excused. -/
theorem room (resolved : List (Name × Entry)) (pos : Int)
    : (env.withLimits maxDepth ceiling).room resolved pos = env.room resolved pos
      ∨ env.room resolved pos ≤ (env.withLimits maxDepth ceiling).room resolved pos
        ∧ ∀ rule pos, excused (.outOfRoom rule pos) := by
  rcases eases.ceiling with same | ⟨none, excuse⟩
  · rw [same]
    exact Or.inl rfl
  · rw [none]
    exact Or.inr ⟨env.room_le_lifted resolved pos, excuse⟩

theorem guarded {scope : Scope} {rule : Rule} {pos : Int} {left right : MatchM (Option Match)}
    (fresh
      : (env.easedRun excused).Lockstep
          ((env.easedRun excused).SameMatch env.subject pos True) left right)
    : (env.easedRun excused).Lockstep ((env.easedRun excused).SameMatch env.subject pos True)
        (RuleGrammar.guarded (env.withLimits maxDepth ceiling) scope rule pos left)
        (RuleGrammar.guarded env scope rule pos right) := by
  have known : KnownWithin env.subject (fun memo _ => Memo.Ahead env.subject memo)
      ⟨rule.name, rule.tag, pos⟩ True := .of_ahead (fun _ _ => id) _
  refine .bind (oneRun_knownAnswer known) fun a _ same => ?_
  obtain ⟨rfl, answers⟩ := same
  cases a with
  | some answer => exact .pure (answers answer rfl)
  | none =>
      refine .ite Iff.rfl (fun _ => .throw ⟨rfl, trivial⟩) fun _ => ?_
      cases reached : env.config.depthReached scope with
      | some limit => exact .throw_excused (eases.tooDeep _ _ _)
      | none =>
          rw [eases.depthReached reached]
          exact fresh

/-- A rule is applied alike under eased limits, unless it stops at one of its own. Induction on the
room: under the eased ceiling there is as much of it, or more where to be out of it is excused.
-/
theorem applyRule {room room' : Nat}
    (rooms : room' = room ∨ room ≤ room' ∧ ∀ rule pos, excused (.outOfRoom rule pos))
    (scope : Scope) (rule : Rule) (pos : Int)
    : (env.easedRun excused).Lockstep ((env.easedRun excused).SameMatch env.subject pos True)
        (RuleGrammar.applyRule (env.withLimits maxDepth ceiling) room' scope rule pos)
        (RuleGrammar.applyRule env room scope rule pos) := by
  rw [applyRule_eq_guarded, applyRule_eq_guarded]
  refine eases.guarded ?_
  induction room generalizing room' scope rule pos with
  | zero =>
      rcases rooms with rfl | ⟨-, excuse⟩
      · exact .throw ⟨rfl, trivial⟩
      · exact .throw_excused (excuse _ _)
  | succ room ih =>
      obtain ⟨more, rfl⟩ : ∃ more, room' = more + 1 := ⟨room' - 1, by omega⟩
      have body : (env.easedRun excused).Lockstep
          ((env.easedRun excused).SameMatch env.subject pos True)
          (answerRule (env.withLimits maxDepth ceiling) scope rule pos fun inner =>
            callName (env.withLimits maxDepth ceiling)
              (RuleGrammar.applyRule (env.withLimits maxDepth ceiling) more inner))
          (answerRule env scope rule pos fun inner =>
            callName env (RuleGrammar.applyRule env room inner)) := by
        refine (env.easedRun_carries maxDepth ceiling excused).answerRule rfl ?_
        rintro inner _ rfl - - other - q -
        rw [applyRule_eq_guarded, applyRule_eq_guarded]
        refine eases.guarded (ih (rooms.imp (by omega) (And.imp_left (by omega))) inner other q)
      refine .bind body fun m n same => ?_
      have kept := oneRun_remember scope ⟨rule.name, rule.tag, pos⟩ same
        fun _ _ _ ahead => ahead.insert same.ahead
      exact .bind kept fun _ _ _ => .pure same

theorem call (name : Name) (pos : Int) {s : MatcherState} (sane : s.Sane env)
    : (env.easedRun excused).Paired ((env.easedRun excused).SameMatch env.subject pos True)
        ((env.withLimits maxDepth ceiling).call name pos s) (env.call name pos s) := by
  have carries := env.easedRun_carries maxDepth ceiling excused
  have called : (env.easedRun excused).Lockstep
      ((env.easedRun excused).SameMatch env.subject pos True)
      (callWithin (env.withLimits maxDepth ceiling)
        ((env.withLimits maxDepth ceiling).room s.resolved pos) {} name pos)
      (callWithin env (env.room s.resolved pos) {} name pos) :=
    Coupling.callName_lockstep_of_visible (carries.resolve name)
      fun rule _ => eases.applyRule (eases.room s.resolved pos) {} rule pos
  exact called s s ⟨rfl, sane.resolves, sane.memo⟩

/-- A match judges an answer alike under eased limits. -/
theorem matchFrom (start : Name) (pos : Int) (anchored : Bool) {s : MatcherState}
    (sane : s.Sane env)
    : (env.easedRun excused).Paired Eq
        (RuleGrammar.matchFrom (env.withLimits maxDepth ceiling) start pos anchored s)
        (RuleGrammar.matchFrom env start pos anchored s) :=
  Coupling.matchFrom_paired (env.withLimits maxDepth ceiling) env rfl
    ((env.easedRun_carries maxDepth ceiling excused).notes rfl rfl)
    (eases.call start pos sane) (fun _ _ same => congrArg Outcome.matched same)
    fun _ _ coupled => by rw [coupled.1]

/-- A run ends as it does under eased limits, or in an excused fault. -/
theorem run (start : Name) (pos : Int) (anchored : Bool)
    : RuleGrammar.run (env.withLimits maxDepth ceiling) start pos anchored
        = RuleGrammar.run env start pos anchored
      ∨ ∃ fault,
          (RuleGrammar.run env start pos anchored).outcome = .error (fault.atStart start pos)
          ∧ excused fault := by
  have paired := eases.matchFrom start pos anchored (.initial env)
  have checked : checkStart (env.withLimits maxDepth ceiling) start = checkStart env start := rfl
  unfold RuleGrammar.run
  rw [checked]
  cases checkStart env start with
  | error error => exact Or.inl rfl
  | ok _ =>
      simp only
      generalize RuleGrammar.matchFrom (env.withLimits maxDepth ceiling) start pos anchored {}
        = left at paired
      generalize RuleGrammar.matchFrom env start pos anchored {} = right at paired
      cases paired with
      | ok same kept =>
          obtain rfl := same
          obtain rfl := kept.1
          exact Or.inl rfl
      | error same kept =>
          obtain rfl := same.1
          obtain rfl := kept.1
          exact Or.inl rfl
      | excused excuse => exact Or.inr ⟨_, rfl, excuse⟩

end Eases

/-- A run under limits ends as it does without them, or a limit stops it. -/
theorem run_lifted (env : MatchEnv) (start : Name) (pos : Int) (anchored : Bool)
    : (run env start pos anchored).outcome = (run env.lifted start pos anchored).outcome
      ∨ ∃ fault,
          (run env start pos anchored).outcome = .error fault
          ∧ fault.isLimit = true
          ∧ env.config.isLimited = true := by
  by_cases limited : env.config.isLimited = true
  · rcases (Eases.lifted env).run start pos anchored with same | ⟨fault, stopped, limit⟩
    · exact Or.inl (congrArg RunResult.outcome same.symm)
    · refine Or.inr ⟨_, stopped, ?_, limited⟩
      cases fault with
      | tooDeep limit rule q => rfl
      | outOfRoom rule q => rfl
      | _ => cases limit
  · exact Or.inl (by rw [lifted_eq (Bool.not_eq_true _ ▸ limited)])

-----------------------------------------------------------------------------------------
-- Limits that leave room
-----------------------------------------------------------------------------------------

/-- A ceiling only bounds the room of a call: in some room, rules are applied as without it. -/
theorem applyRule_ceiling (env : MatchEnv) (unlimited : env.config.maxDepth = none) (room : Nat)
    : applyRule env.lifted room = applyRule env room := by
  obtain ⟨grammar, subject, memoize, maxDepth, validate, debug, ceiling⟩ := env
  obtain rfl : maxDepth = none := unlimited
  induction room with
  | zero => rfl
  | succ room ih =>
      funext scope rule pos
      rw [applyRule, applyRule, ih]
      rfl

/-- A ceiling that leaves room for all keys that there are makes no difference. -/
theorem run_eq_lifted (env : MatchEnv) (unlimited : env.config.maxDepth = none) {pos : Int}
    (roomy : ∀ ceiling, env.config.ceiling = some ceiling → env.naturalRoom [] pos ≤ ceiling)
    (start : Name) (anchored : Bool)
    : run env start pos anchored = run env.lifted start pos anchored := by
  have rooms : env.lifted.room [] pos = env.room [] pos := by
    have natural : env.lifted.room [] pos = env.naturalRoom [] pos := rfl
    rw [natural, room]
    cases limited : env.config.ceiling with
    | none => rfl
    | some ceiling => exact (Nat.min_eq_right (roomy ceiling limited)).symm
  have within : callWithin env.lifted (env.lifted.room [] pos) {} start pos
      = callWithin env (env.room [] pos) {} start pos := by
    rw [rooms, callWithin, applyRule_ceiling env unlimited]
    rfl
  have called : env.lifted.call start pos {} = env.call start pos {} := congrFun within {}
  have matched : matchFrom env.lifted start pos anchored {}
      = matchFrom env start pos anchored {} := by
    simp only [matchFrom, bind, EStateM.bind, called]
    rfl
  have checked : checkStart env.lifted start = checkStart env start := rfl
  rw [run, run, checked, matched]

/-- A limit on nesting has stopped a run: a ceiling lower than the room that the run would have
without it.
-/
def StoppedAtCeiling (env : MatchEnv) (start : Name) (pos : Int) (anchored : Bool) : Prop :=
  ∃ fault ceiling,
    (run env start pos anchored).outcome = .error fault
    ∧ fault.isLimit = true
    ∧ env.config.ceiling = some ceiling
    ∧ ceiling < env.naturalRoom [] pos

/-- A run without a limit on its depth ends as without a ceiling, or a low ceiling stops it. -/
theorem run_lifted_or_stopped (env : MatchEnv) (unlimited : env.config.maxDepth = none)
    (start : Name) (pos : Int) (anchored : Bool)
    : (run env start pos anchored).outcome = (run env.lifted start pos anchored).outcome
      ∨ env.StoppedAtCeiling start pos anchored := by
  rcases env.run_lifted start pos anchored with same | ⟨fault, stopped, limit, -⟩
  · exact Or.inl same
  · by_cases roomy
      : ∀ ceiling, env.config.ceiling = some ceiling → env.naturalRoom [] pos ≤ ceiling
    · exact Or.inl (by rw [run_eq_lifted env unlimited roomy])
    · simp only [not_forall, Nat.not_le] at roomy
      obtain ⟨ceiling, limited, low⟩ := roomy
      exact Or.inr ⟨fault, ceiling, stopped, limit, limited, low⟩

end MatchEnv

end RuleGrammar
