import RuleGrammar.Matcher.Parse
import RuleGrammar.Proofs.Matcher.Nesting

/-! Every call of the matcher ends, whatever the grammar: with an answer or with a fault that
names its cause. Without a ceiling neither the room for nested applications nor the bound on the
rounds of a repetition is ever used up. Before that: what calls keep up from a fresh matcher on.
-/

namespace RuleGrammar

/-- The states of a matcher that has been called any number of times, also with calls that ended
in a fault.
-/
inductive MatchEnv.Used (env : MatchEnv) : MatcherState → Prop
  | fresh : env.Used {}
  | answered {s t name pos answer} (before : env.Used s)
    (ended : env.call name pos s = .ok answer t)
    : env.Used t
  | stopped {s t name pos fault} (before : env.Used s)
    (ended : env.call name pos s = .error fault t)
    : env.Used t

namespace MatchEnv

variable {env : MatchEnv} {s : MatcherState}

/-- A call of a matcher in a sane state, paired with itself: all its faults are allowed. -/
theorem call_paired (allowed : Fault → Prop)
    (ordinary : ∀ fault : Fault, fault.isOutOfRoom = false → allowed fault) (name : Name)
    (pos : Int) (sane : s.Sane env)
    (spare
      : Scope.Enough env pos (env.room s.resolved pos) {}
        ∨ ∀ (rule : Rule) pos, allowed (.outOfRoom rule.name pos))
    : (env.watchedRun allowed).Paired ((env.watchedRun allowed).SameMatch env.subject pos True)
        (env.call name pos s) (env.call name pos s) := by
  have paired := watchedCall_lockstep ordinary name pos {} (fun _ _ => rfl) sane spare
  rwa [watchedCall_default] at paired

/-- A property of the memo and the record that calls keep up: so do notes, and answers that are
kept for rules of the grammar and stop ahead.
-/
structure Upkeep (env : MatchEnv) (keeps : Memo → Furthest → Prop) : Prop where
  ahead : ∀ memo f, keeps memo f → Memo.Ahead env.subject memo
  note : ∀ {memo f} note, keeps memo f → keeps memo (f.note note)
  insert
    : ∀ {memo f} {rule : Rule} {pos} {answer : Option Match},
        env.config.memoize = true
        → rule ∈ env.grammar.visibleRules
        → (∀ m ∈ answer, env.subject.Ahead pos m.stop)
        → keeps memo f
        → keeps (memo.insert ⟨rule.name, rule.tag, pos⟩ answer) f

/-- One run that may end in any fault. -/
abbrev keepingRun (env : MatchEnv) (keeps : Memo → Furthest → Prop) : Coupling :=
  env.oneRunOf keeps (fun _ => True) fun _ => False

/-- Applying rules keeps up what notes and kept answers do, by induction on the room. -/
theorem Upkeep.applyRule {keeps : Memo → Furthest → Prop} (upkeep : env.Upkeep keeps) (room : Nat)
    (scope : Scope) {rule : Rule} (visible : rule ∈ env.grammar.visibleRules) (pos : Int)
    : (env.keepingRun keeps).Lockstep ((env.keepingRun keeps).SameMatch env.subject pos True)
        (RuleGrammar.applyRule env room scope rule pos)
        (RuleGrammar.applyRule env room scope rule pos) := by
  have carries : (env.keepingRun keeps).Carries env env Eq :=
    env.oneRunOf_carries keeps upkeep.note _ fun _ _ => trivial
  induction room generalizing scope rule pos with
  | zero =>
      exact oneRun_guarded (fun _ _ => trivial) (.of_ahead upkeep.ahead _)
        fun _ => .throw ⟨rfl, trivial⟩
  | succ room ih =>
      refine oneRun_guarded (fun _ _ => trivial) (.of_ahead upkeep.ahead _) fun _ => ?_
      refine .bind (carries.answerRule rfl ?_) fun m n same => ?_
      · rintro inner _ rfl - - other otherVisible q -
        exact ih inner otherVisible q
      · have kept := oneRun_remember scope ⟨rule.name, rule.tag, pos⟩ same
          fun _ _ memoize keep => upkeep.insert memoize visible same.ahead keep
        exact .bind kept fun _ _ _ => .pure same

theorem Upkeep.call {keeps : Memo → Furthest → Prop} (upkeep : env.Upkeep keeps) (name : Name)
    (pos : Int)
    : (env.keepingRun keeps).Lockstep ((env.keepingRun keeps).SameMatch env.subject pos True)
        (env.call name pos) (env.call name pos) := by
  have carries : (env.keepingRun keeps).Carries env env Eq :=
    env.oneRunOf_carries keeps upkeep.note _ fun _ _ => trivial
  rintro s _ ⟨rfl, resolves, keep⟩
  have called := Coupling.callName_lockstep_of_visible (carries.resolve name) fun _ visible =>
    upkeep.applyRule (env.room s.resolved pos) {} visible pos
  exact called s s ⟨rfl, resolves, keep⟩

/-- What calls keep up starting from nothing, any calls keep, by induction on them. -/
theorem Used.kept {keeps : Memo → Furthest → Prop} (used : env.Used s) (initial : keeps {} {})
    (calls
      : ∀ {s} name pos,
          s.Resolves env.grammar
          → keeps s.memo s.furthest
          → (env.keepingRun keeps).Paired
              ((env.keepingRun keeps).SameMatch env.subject pos True)
              (env.call name pos s) (env.call name pos s))
    : s.Resolves env.grammar ∧ keeps s.memo s.furthest := by
  induction used with
  | fresh => exact ⟨.initial env.grammar, initial⟩
  | @answered s t name pos answer _ ended before =>
      have paired := calls name pos before.1 before.2
      rw [ended] at paired
      cases paired with
      | ok _ kept => exact kept.2
  | @stopped s t name pos fault _ ended before =>
      have paired := calls name pos before.1 before.2
      rw [ended] at paired
      cases paired with
      | error _ kept => exact kept.2
      | excused excuse => cases excuse

theorem Upkeep.used {keeps : Memo → Furthest → Prop} (upkeep : env.Upkeep keeps)
    (initial : keeps {} {}) (used : env.Used s)
    : s.Resolves env.grammar ∧ keeps s.memo s.furthest :=
  used.kept initial fun name pos resolves kept =>
    upkeep.call name pos _ _ ⟨rfl, resolves, kept⟩

/-- Calls keep up that known matches stop ahead. -/
theorem Upkeep.ofAhead (env : MatchEnv)
    : env.Upkeep fun memo _ => Memo.Ahead env.subject memo where
  ahead _ _ := id
  note _ := id
  insert _ _ stops ahead := ahead.insert stops

/-- Calls keep a state sane, however they end. -/
theorem Used.sane (used : env.Used s) : s.Sane env := by
  obtain ⟨resolves, ahead⟩ := (Upkeep.ofAhead env).used (MatcherState.Sane.initial env).memo used
  exact ⟨resolves, ahead⟩

-----------------------------------------------------------------------------------------
-- How calls end
-----------------------------------------------------------------------------------------

/-- Applications in progress since a call at an offset are bounded: no two have one key, all lie
between that offset and the end, and there are no more of them than rules times offsets.
-/
structure Bounded (env : MatchEnv) (start : Int) (frames : List Frame) : Prop where
  distinct : (frames.map Frame.key).Nodup
  inside : ∀ frame ∈ frames, start ≤ frame.pos ∧ frame.pos ≤ env.subject.size
  few
    : frames.length
      ≤ env.grammar.ruleCount * ((env.subject.size - start).toNat + 1)

theorem InOrder.bounded {start : Int} {frames : List Frame} (order : env.InOrder start frames)
    (inside : start ≤ env.subject.size)
    : env.Bounded start frames where
  distinct := order.distinct
  inside frame member :=
    ⟨(order.ahead frame member).1, (order.ahead frame member).le_size inside⟩
  few := order.length_le

/-- The room of a call is enough for all keys, or it was cut down by a ceiling. -/
theorem enough_or_ceiling (env : MatchEnv) (resolved : List (Name × Entry)) (pos : Int)
    : Scope.Enough env pos (env.room resolved pos) {}
      ∨ ∃ ceiling,
          env.config.ceiling = some ceiling ∧ ceiling < env.naturalRoom resolved pos := by
  have natural := env.enough_naturalRoom resolved pos
  cases limited : env.config.ceiling with
  | none => exact Or.inl (by simpa only [room, limited] using natural)
  | some ceiling =>
      by_cases low : ceiling < env.naturalRoom resolved pos
      · exact Or.inr ⟨ceiling, rfl, low⟩
      · refine Or.inl ?_
        simp only [room, limited]
        rwa [Nat.min_eq_right (Nat.le_of_not_lt low)]

/-- Without a ceiling, the room of a call is enough for all keys. -/
theorem enough_of_unbounded (unbounded : env.config.ceiling = none)
    (resolved : List (Name × Entry)) (pos : Int)
    : Scope.Enough env pos (env.room resolved pos) {} := by
  rcases env.enough_or_ceiling resolved pos with enough | ⟨ceiling, bounded, -⟩
  · exact enough
  · rw [unbounded] at bounded
    cases bounded

/-- A call ends with an answer or a fault. It is out of room only under a ceiling that is lower
than the natural room; whatever is done when the applications in progress are not bounded is never
done; and if a lack of room is given another name, then nothing is called out of room, so that no
repetition ever uses up its bound.
-/
theorem call_ends (used : env.Used s) (name : Name) {pos : Int}
    (inside : pos ≤ env.subject.size)
    : ((∃ answer t, env.call name pos s = .ok answer t)
        ∨ ∃ fault t,
            env.call name pos s = .error fault t
            ∧ (fault.isOutOfRoom = true
              → ∃ ceiling,
                  env.config.ceiling = some ceiling
                  ∧ ceiling < env.naturalRoom s.resolved pos))
      ∧ (∀ entering : List Frame → MatchM Unit,
          (∀ frames, env.Bounded pos frames → entering frames = pure ())
          → env.watchedCall { entering } name pos s = env.call name pos s)
      ∧ ∀ noRoom : Rule → Int → Fault,
          (∀ rule q, (noRoom rule q).isOutOfRoom = false)
          → ∀ fault t,
              env.watchedCall { noRoom } name pos s = .error fault t
              → fault.isOutOfRoom = false := by
  have sane := used.sane
  refine ⟨?_, ?_, ?_⟩
  · cases ended : env.call name pos s with
    | ok answer t => exact Or.inl ⟨answer, t, rfl⟩
    | error fault t =>
        refine Or.inr ⟨fault, t, rfl, fun outOfRoom => ?_⟩
        rcases env.enough_or_ceiling s.resolved pos with enough | ceiling
        · have paired := call_paired _ (fun _ ordinary => ordinary) name pos sane (Or.inl enough)
          rw [ended] at paired
          cases paired with
          | error allowed _ =>
              have inRoom : fault.isOutOfRoom = false := allowed.2
              rw [outOfRoom] at inRoom
              cases inRoom
          | excused excuse => cases excuse
        · exact ceiling
  · intro entering silent
    have ordinary (fault : Fault) (_ : fault.isOutOfRoom = false) : True := trivial
    have same := oneRun_eq (watchedCall_lockstep ordinary name pos { entering }
      (fun frames order => silent frames (order.bounded inside)) sane
      (Or.inr fun _ _ => trivial))
    rw [same]
    exact congrFun (env.watchedCall_default name pos) s
  · intro noRoom named fault t ended
    have paired := watchedCall_lockstep (fun _ ordinary => ordinary) name pos { noRoom }
      (fun _ _ => rfl) sane (Or.inr named)
    rw [ended] at paired
    cases paired with
    | error allowed _ => exact allowed.2
    | excused excuse => cases excuse

/-- A rule that calls itself before anything else. -/
def selfCallingRule : Rule where
  name := "a"
  expr := .reference "a" none
  kind := .rule

/-- A matcher without a memo for that rule, over a text of one letter. -/
def selfCalling : MatchEnv where
  grammar := ⟨⟨"loop", [("a", .rule selfCallingRule)]⟩, []⟩
  subject := ⟨#['x']⟩
  config := { memoize := false, ceiling := none }

/-- Even a call that comes back to itself at once ends. -/
theorem call_ends_selfCalling
    : selfCalling.Used {}
      ∧ 0 ≤ selfCalling.subject.size
      ∧ (∀ entering : List Frame → MatchM Unit,
          (∀ frames, selfCalling.Bounded 0 frames → entering frames = pure ())
          → selfCalling.watchedCall { entering } "a" 0 {} = selfCalling.call "a" 0 {}) :=
  ⟨.fresh, by decide, (call_ends .fresh "a" (by decide)).2.1⟩

-----------------------------------------------------------------------------------------
-- How matches end
-----------------------------------------------------------------------------------------

/-- A match stops where its call does; it counts if the answer is complete; and otherwise it reports
what its call has noted, at most with the end of the input expected besides.
-/
theorem matchFrom_cases (env : MatchEnv) (start : Name) (pos : Int) (anchored : Bool)
    (s : MatcherState)
    : (∃ fault t,
        env.call start pos s = .error fault t
        ∧ matchFrom env start pos anchored s = .error fault t)
      ∨ (∃ m t,
          env.call start pos s = .ok (some m) t
          ∧ isComplete env anchored m = true
          ∧ matchFrom env start pos anchored s = .ok (.matched m) t)
      ∨ ∃ answer t u,
          env.call start pos s = .ok answer t
          ∧ (u = t
            ∨ ∃ stop, u.furthest = t.furthest.note (.text none stop "end of input"))
          ∧ matchFrom env start pos anchored s
            = .ok (.failed (.ofFurthest start pos u.furthest)) u := by
  cases called : env.call start pos s with
  | error fault t =>
      exact Or.inl ⟨fault, t, rfl, bind_eq_error.mpr (Or.inl called)⟩
  | ok answer t =>
      unfold matchFrom
      rw [bind_of_ok called]
      cases answer with
      | none => exact Or.inr (Or.inr ⟨none, t, t, rfl, Or.inl rfl, rfl⟩)
      | some m =>
          by_cases complete : isComplete env anchored m = true
          · simp only [if_pos complete]
            exact Or.inr (Or.inl ⟨m, t, rfl, complete, rfl⟩)
          · simp only [if_neg complete]
            obtain ⟨u, noted, -, -, furthest⟩ := expect_spec {} m.stop "end of input" t
            rw [bind_of_ok noted]
            exact Or.inr (Or.inr ⟨some m, t, u, rfl, Or.inr ⟨m.stop, furthest⟩, rfl⟩)

end MatchEnv

end RuleGrammar
