import RuleGrammar.Proofs.Matcher.ApplyLockstep

/-! Nesting of rule applications. The applications in progress differ in rule or offset, so there
are never more of them than rules times offsets, and the room for nested applications that follows
from the grammar and the subject is never used up. Nor are the rounds of a repetition.
-/

namespace RuleGrammar

-----------------------------------------------------------------------------------------
-- Applications in order
-----------------------------------------------------------------------------------------

/-- The keys that rules of the grammar have at an offset and ahead of it. -/
def MatchEnv.keysFrom (env : MatchEnv) (start : Int) : List Key :=
  (List.range ((env.subject.size - start).toNat + 1)).flatMap fun (i : Nat) =>
    env.grammar.visibleRules.map fun rule => ⟨rule.name, rule.tag, start + i⟩

theorem MatchEnv.length_keysFrom (env : MatchEnv) (start : Int)
    : (env.keysFrom start).length
      = env.grammar.ruleCount * ((env.subject.size - start).toNat + 1) := by
  simp only [keysFrom, List.length_flatMap, List.length_map, Grammar.length_visibleRules,
    List.map_const', List.length_range, List.sum_replicate_nat, Nat.mul_comm]

theorem MatchEnv.mem_keysFrom {env : MatchEnv} {start : Int} {rule : Rule} {pos : Int}
    (visible : rule ∈ env.grammar.visibleRules) (ahead : env.subject.Ahead start pos)
    : (⟨rule.name, rule.tag, pos⟩ : Key) ∈ env.keysFrom start := by
  obtain ⟨below, above⟩ := ahead
  refine List.mem_flatMap.mpr ⟨(pos - start).toNat, List.mem_range.mpr (by omega), ?_⟩
  refine List.mem_map.mpr ⟨rule, visible, ?_⟩
  rw [show start + ((pos - start).toNat : Int) = pos by omega]

/-- Applications in progress since a call at an offset are in order: no two have one key, all are
of rules of the grammar, and all lie ahead.
-/
structure MatchEnv.InOrder (env : MatchEnv) (start : Int) (frames : List Frame) : Prop where
  distinct : (frames.map Frame.key).Nodup
  visible : ∀ frame ∈ frames, frame.rule ∈ env.grammar.visibleRules
  ahead : ∀ frame ∈ frames, env.subject.Ahead start frame.pos

namespace MatchEnv.InOrder

variable {env : MatchEnv} {start : Int}

theorem empty : env.InOrder start [] :=
  ⟨by simp, by simp, by simp⟩

/-- Applications in order are no more than the keys that there are: their keys are distinct and
among them.
-/
theorem length_le {frames : List Frame} (order : env.InOrder start frames)
    : frames.length
      ≤ env.grammar.ruleCount * ((env.subject.size - start).toNat + 1) := by
  have included : (frames.map Frame.key).Subset (env.keysFrom start) := by
    intro key member
    obtain ⟨frame, inFrames, rfl⟩ := List.mem_map.mp member
    exact mem_keysFrom (order.visible frame inFrames) (order.ahead frame inFrames)
  have bound := order.distinct.length_le_of_subset included
  rwa [List.length_map, env.length_keysFrom] at bound

/-- An application that is not in progress yet joins those in order. -/
theorem cons {frames : List Frame} {rule : Rule} {pos : Int}
    (order : env.InOrder start frames)
    (inactive : ¬ frames.any (·.key = ⟨rule.name, rule.tag, pos⟩) = true)
    (visible : rule ∈ env.grammar.visibleRules) (ahead : env.subject.Ahead start pos)
    : env.InOrder start (⟨rule, pos⟩ :: frames) where
  distinct := by
    refine List.nodup_cons.mpr ⟨?_, order.distinct⟩
    intro member
    obtain ⟨frame, inFrames, same⟩ := List.mem_map.mp member
    exact inactive (List.any_eq_true.mpr ⟨frame, inFrames, decide_eq_true same⟩)
  visible := List.forall_mem_cons.mpr ⟨visible, order.visible⟩
  ahead := List.forall_mem_cons.mpr ⟨ahead, order.ahead⟩

end MatchEnv.InOrder

/-- A scope leaves enough room: together with the room, its applications come up to all keys that
there are.
-/
def Scope.Enough (env : MatchEnv) (start : Int) (room : Nat) (scope : Scope) : Prop :=
  env.grammar.ruleCount * ((env.subject.size - start).toNat + 1) ≤ scope.frames.length + room

/-- Where there is no room left, every rule is in progress at every offset: one that was not would
be one application too many.
-/
theorem MatchEnv.InOrder.isActive_of_enough {env : MatchEnv} {start : Int} {scope : Scope}
    {rule : Rule} {pos : Int} (order : env.InOrder start scope.frames)
    (enough : scope.Enough env start 0) (visible : rule ∈ env.grammar.visibleRules)
    (ahead : env.subject.Ahead start pos)
    : scope.isActive ⟨rule.name, rule.tag, pos⟩ = true := by
  by_cases active : scope.isActive ⟨rule.name, rule.tag, pos⟩ = true
  · exact active
  · have more := (order.cons active visible ahead).length_le
    unfold Scope.Enough at enough
    simp only [List.length_cons] at more
    omega

/-- A new application takes as much room as there is less. -/
theorem Scope.Enough.enter {env : MatchEnv} {start : Int} {scope : Scope} {room : Nat}
    (enough : scope.Enough env start (room + 1)) (rule : Rule) (pos : Int)
    : (scope.enter rule pos).Enough env start room := by
  simp only [Scope.Enough, Scope.enter, List.length_cons] at enough ⊢
  omega

-----------------------------------------------------------------------------------------
-- A watch on the applications in progress
-----------------------------------------------------------------------------------------

/-- A watch on a matcher: it is shown the applications in progress each time before a body is
evaluated, and it chooses the fault that stands for a lack of room.
-/
structure Watch where
  entering : List Frame → MatchM Unit := fun _ => pure ()
  noRoom : Rule → Int → Fault := fun rule pos => .outOfRoom rule.name pos

/-- Applies a rule like the matcher, under a watch. -/
def watchRule (env : MatchEnv) (watch : Watch)
    : Nat → Scope → Rule → Int → MatchM (Option Match)
  | 0, scope, rule, pos => guarded env scope rule pos (throw (watch.noRoom rule pos))
  | room + 1, scope, rule, pos =>
      guarded env scope rule pos do
        watch.entering (scope.enter rule pos).frames
        evaluateRule env scope rule pos fun inner =>
          callName env (watchRule env watch room inner)

/-- Calls a name from outside any rule, under a watch. -/
def MatchEnv.watchedCall (env : MatchEnv) (watch : Watch) (name : Name) (pos : Int)
    : MatchM (Option Match) := do
  callName env (watchRule env watch (env.room (← get).resolved pos) {}) name pos

/-- Under a watch that leaves things as they are, rules are applied as they are without one, by
induction on the room.
-/
theorem watchRule_default (env : MatchEnv) (room : Nat)
    : watchRule env {} room = applyRule env room := by
  induction room with
  | zero => rfl
  | succ room ih =>
      funext scope rule pos
      simp only [watchRule, applyRule, ih]
      rfl

theorem MatchEnv.watchedCall_default (env : MatchEnv) (name : Name) (pos : Int)
    : env.watchedCall {} name pos = env.call name pos := by
  simp only [watchedCall, call, callWithin, watchRule_default]

/-- Known matches stop ahead of where they start. -/
def Memo.Ahead (subject : Subject) (memo : Memo) : Prop :=
  ∀ key m, memo.find? key = some (some m) → subject.Ahead key.pos m.stop

/-- An answer that stops ahead may be added, by cases on the key that is asked. -/
theorem Memo.Ahead.insert {subject : Subject} {memo : Memo} {key : Key} {answer : Option Match}
    (ahead : memo.Ahead subject) (stops : ∀ m ∈ answer, subject.Ahead key.pos m.stop)
    : Memo.Ahead subject (memo.insert key answer) := by
  intro other m found
  rcases Memo.find?_insert_cases found with ⟨rfl, rfl⟩ | before
  · exact stops m rfl
  · exact ahead other m before

/-- A state that calls keep: names stand for what they do in the grammar, and known matches stop
ahead.
-/
structure MatcherState.Sane (s : MatcherState) (env : MatchEnv) : Prop where
  resolves : s.Resolves env.grammar
  memo : Memo.Ahead env.subject s.memo

theorem MatcherState.Sane.initial (env : MatchEnv) : MatcherState.Sane {} env where
  resolves := .initial env.grammar
  memo := by
    intro key m found
    rw [Memo.find?_empty] at found
    cases found

/-- Two runs that are one and the same, from states whose names are resolved rightly and whose
memo and record have a property. They end in allowed faults, or in one that is excused.
-/
def MatchEnv.oneRunOf (env : MatchEnv) (keeps : Memo → Furthest → Prop)
    (allowed excused : Fault → Prop)
    : Coupling where
  states s t := s = t ∧ s.Resolves env.grammar ∧ keeps s.memo s.furthest
  faults f g := f = g ∧ allowed f
  excused := excused
  view := id
  view_stop _ := rfl
  view_ofLog := by
    rintro s t ⟨rfl, -⟩ info log log' same
    have alike : log = log' := by simpa using same
    rw [alike]
  counted := by
    rintro s t ⟨rfl, resolves, kept⟩
    exact ⟨rfl, resolves, kept⟩

namespace MatchEnv

/-- One run of which a property of the memo is asked. -/
abbrev oneRun (env : MatchEnv) (keeps : Memo → Prop) (allowed excused : Fault → Prop) : Coupling :=
  env.oneRunOf (fun memo _ => keeps memo) allowed excused

variable {env : MatchEnv} {keeps : Memo → Furthest → Prop} {allowed excused : Fault → Prop}

theorem oneRun_same {subject : Subject} {pos : Int} {empty : Prop} {m n : Option Match}
    (same : (env.oneRunOf keeps allowed excused).SameMatch subject pos empty m n)
    : m = n := by
  cases same with
  | missed => rfl
  | found same _ _ => exact congrArg some same

/-- Calls that are one and the same end in one way, if no fault is excused. -/
theorem oneRun_eq {subject : Subject} {pos : Int} {empty : Prop} {ended ended'}
    (paired
      : (env.oneRunOf keeps allowed fun _ => False).Paired
          ((env.oneRunOf keeps allowed fun _ => False).SameMatch subject pos empty) ended ended')
    : ended = ended' := by
  cases paired with
  | ok value kept => rw [oneRun_same value, kept.1]
  | error fault kept => rw [fault.1, kept.1]
  | excused excuse => cases excuse

/-- A computation that only touches the record, the identities or the trace goes with itself where
the record keeps its property.
-/
theorem oneRun_modify {α : Type} (m : MatchM α)
    (kept
      : ∀ s,
          keeps s.memo s.furthest
          → ∃ a t,
              m s = .ok a t
              ∧ t.resolved = s.resolved
              ∧ t.memo = s.memo
              ∧ keeps s.memo t.furthest)
    : (env.oneRunOf keeps allowed excused).Lockstep (fun _ _ => True) m m := by
  rintro s _ ⟨rfl, resolves, keep⟩
  obtain ⟨a, t, ran, resolved, memo, keep⟩ := kept s keep
  rw [ran]
  refine .ok trivial ⟨rfl, ?_, memo ▸ keep⟩
  simpa only [MatcherState.Resolves, resolved] using resolves

/-- One run carries a matcher beside itself, in one scope, if any note keeps the property of the
record and faults of the grammar are allowed.
-/
theorem oneRunOf_carries (env : MatchEnv) (keeps : Memo → Furthest → Prop)
    (notes : ∀ {memo f} note, keeps memo f → keeps memo (f.note note)) {allowed : Fault → Prop}
    (excused : Fault → Prop)
    (ordinary : ∀ fault : Fault, fault.isOfGrammar = true → allowed fault)
    : (env.oneRunOf keeps allowed excused).Carries env env Eq where
  subject := rfl
  enter rule pos same := by rw [same]
  hush same := by rw [same]
  notes := by
    rintro scope _ rfl -
    constructor
    · refine fun pos what => oneRun_modify _ fun s keep => ?_
      obtain ⟨t, ran, resolved, memo, noted⟩ := expect_spec scope pos what s
      refine ⟨(), t, ran, resolved, memo, ?_⟩
      rw [noted]
      split
      · exact keep
      · exact notes _ keep
    · refine fun pos what => oneRun_modify _ fun s keep => ?_
      obtain ⟨t, ran, resolved, memo, noted⟩ := expectGoal_spec scope pos what s
      refine ⟨(), t, ran, resolved, memo, ?_⟩
      rw [noted]
      split
      · exact keep
      · exact notes _ keep
  resolve name := by
    rintro s _ ⟨rfl, resolves, keep⟩
    rcases resolveOnce_spec name resolves with
      ⟨entry, resolved, found, ran, resolves⟩ | ⟨-, ran⟩
    · rw [ran]
      exact .ok ⟨rfl, found⟩ ⟨rfl, resolves, keep⟩
    · rw [ran]
      exact .error ⟨rfl, ordinary _ rfl⟩ ⟨rfl, resolves, keep⟩
  traceStart := by
    rintro scope _ rule pos rfl
    refine oneRun_modify _ fun s keep => ?_
    obtain ⟨trace, ran⟩ := traceStart_spec env scope rule pos s
    exact ⟨(), _, ran, rfl, rfl, keep⟩
  traceEnd := by
    rintro scope _ rule pos m n rfl same
    obtain rfl := oneRun_same same
    refine oneRun_modify _ fun s keep => ?_
    obtain ⟨trace, ran⟩ := traceEnd_spec env scope rule pos m s
    exact ⟨(), _, ran, rfl, rfl, keep⟩
  ordinary fault faulty := ⟨rfl, ordinary fault faulty⟩

theorem oneRun_carries (env : MatchEnv) (keeps : Memo → Prop) {allowed : Fault → Prop}
    (excused : Fault → Prop)
    (ordinary : ∀ fault : Fault, fault.isOfGrammar = true → allowed fault)
    : (env.oneRun keeps allowed excused).Carries env env Eq :=
  env.oneRunOf_carries _ (fun _ keep => keep) excused ordinary

/-- Keeping an answer keeps the property of the memo if adding the answer does. -/
theorem oneRun_remember (scope : Scope) (key : Key) {answer answer' : Option Match}
    (same : (env.oneRunOf keeps allowed excused).SameMatch env.subject key.pos True answer answer')
    (insert
      : ∀ memo f,
          env.config.memoize = true
          → keeps memo f
          → keeps (memo.insert key answer) f)
    : (env.oneRunOf keeps allowed excused).Lockstep (fun _ _ => True)
        (remember env scope key answer) (remember env scope key answer') := by
  obtain rfl := oneRun_same same
  unfold remember
  refine .ite Iff.rfl (fun kept => ?_) fun _ => .pure trivial
  rintro s _ ⟨rfl, resolves, keep⟩
  exact .ok trivial ⟨rfl, resolves, insert s.memo s.furthest (Bool.and_eq_true_iff.mp kept).1 keep⟩

/-- What memos with a property know for a key stops ahead of it, and at its offset only under a
condition.
-/
def KnownWithin (subject : Subject) (keeps : Memo → Furthest → Prop) (key : Key) (empty : Prop)
    : Prop :=
  ∀ memo f,
    keeps memo f
    → ∀ m,
        memo.find? key = some (some m)
        → subject.Ahead key.pos m.stop ∧ (m.stop = key.pos → empty)

theorem KnownWithin.of_ahead {subject : Subject}
    (ahead : ∀ memo f, keeps memo f → Memo.Ahead subject memo) (key : Key)
    : KnownWithin subject keeps key True :=
  fun memo f keep m found => ⟨ahead memo f keep key m found, fun _ => trivial⟩

/-- What is known for a key is known to both sides. -/
theorem oneRun_knownAnswer {key : Key} {empty : Prop}
    (known : KnownWithin env.subject keeps key empty)
    : (env.oneRunOf keeps allowed excused).Lockstep
        (fun a b =>
          a = b
          ∧ ∀ answer ∈ a,
              (env.oneRunOf keeps allowed excused).SameMatch env.subject key.pos empty answer
                answer)
        (knownAnswer env key) (knownAnswer env key) := by
  unfold knownAnswer
  refine .ite Iff.rfl (fun _ => ?_) fun _ => .pure ⟨rfl, by simp⟩
  rintro s _ ⟨rfl, resolves, keep⟩
  refine .ok ⟨rfl, fun answer found => ?_⟩ ⟨rfl, resolves, keep⟩
  cases answer with
  | none => exact .missed
  | some m =>
      obtain ⟨ahead, still⟩ := known _ _ keep m found
      exact .found rfl ahead still

/-- A guard is passed alike on both sides; what is done behind it has to be in lockstep only
where no application of the rule is in progress at the offset.
-/
theorem oneRun_guarded (ordinary : ∀ fault : Fault, fault.isOutOfRoom = false → allowed fault)
    {scope : Scope} {rule : Rule} {pos : Int} {empty : Prop}
    (known : KnownWithin env.subject keeps ⟨rule.name, rule.tag, pos⟩ empty)
    {left right : MatchM (Option Match)}
    (fresh
      : ¬ scope.isActive ⟨rule.name, rule.tag, pos⟩ = true
        → (env.oneRunOf keeps allowed excused).Lockstep
            ((env.oneRunOf keeps allowed excused).SameMatch env.subject pos empty) left right)
    : (env.oneRunOf keeps allowed excused).Lockstep
        ((env.oneRunOf keeps allowed excused).SameMatch env.subject pos empty)
        (guarded env scope rule pos left) (guarded env scope rule pos right) := by
  refine .bind (oneRun_knownAnswer known) fun a _ same => ?_
  obtain ⟨rfl, answers⟩ := same
  cases a with
  | some answer => exact .pure (answers answer rfl)
  | none =>
      refine .ite Iff.rfl (fun _ => .throw ⟨rfl, ordinary _ rfl⟩) fun inactive => ?_
      cases env.config.depthReached scope with
      | some limit => exact .throw ⟨rfl, ordinary _ rfl⟩
      | none => exact fresh inactive

-----------------------------------------------------------------------------------------
-- Watched runs
-----------------------------------------------------------------------------------------

/-- One run that only knows matches that stop ahead. -/
abbrev saneRun (env : MatchEnv) (allowed excused : Fault → Prop) : Coupling :=
  env.oneRun (Memo.Ahead env.subject) allowed excused

/-- One watched run, in which no fault is excused. -/
abbrev watchedRun (env : MatchEnv) (allowed : Fault → Prop) : Coupling :=
  env.saneRun allowed fun _ => False

section Calls

variable (ordinary : ∀ fault : Fault, fault.isOutOfRoom = false → allowed fault)

include ordinary

/-- One watched run carries a matcher beside itself. -/
theorem watchedRun_carries : (env.watchedRun allowed).Carries env env Eq :=
  env.oneRun_carries _ _ fun fault faulty =>
    ordinary fault (fault.isOutOfRoom_of_isOfGrammar faulty)

/-- Under a watch that has nothing to say about applications in order, a rule is applied as it is
when nothing is watched, and never out of room if there is enough. Induction on the room: a body
is evaluated only when its application is not in progress, so the applications stay in order.
-/
theorem watchRule_lockstep {start : Int} {watch : Watch}
    (silent : ∀ frames, env.InOrder start frames → watch.entering frames = pure ())
    (room : Nat) {scope : Scope} (order : env.InOrder start scope.frames)
    (spare : scope.Enough env start room ∨ ∀ rule pos, allowed (watch.noRoom rule pos))
    {rule : Rule} (visible : rule ∈ env.grammar.visibleRules) {pos : Int}
    (ahead : env.subject.Ahead start pos)
    : (env.watchedRun allowed).Lockstep ((env.watchedRun allowed).SameMatch env.subject pos True)
        (watchRule env watch room scope rule pos)
        (watchRule env { noRoom := watch.noRoom } room scope rule pos) := by
  induction room generalizing scope rule pos with
  | zero =>
      refine oneRun_guarded ordinary (.of_ahead (fun _ _ => id) _) fun inactive => ?_
      rcases spare with enough | allowedHere
      · exact absurd (order.isActive_of_enough enough visible ahead) inactive
      · exact .throw ⟨rfl, allowedHere rule pos⟩
  | succ room ih =>
      refine oneRun_guarded ordinary (.of_ahead (fun _ _ => id) _) fun inactive => ?_
      have innerOrder : env.InOrder start (scope.enter rule pos).frames :=
        order.cons inactive visible ahead
      have innerSpare := spare.imp_left fun enough => enough.enter rule pos
      rw [silent _ innerOrder, pure_bind, pure_bind]
      unfold evaluateRule
      refine .bind ((watchedRun_carries ordinary).answerRule rfl ?_) fun m n same => ?_
      · rintro inner _ rfl frames - other otherVisible q further
        refine ih (frames ▸ innerOrder) ?_ otherVisible (ahead.trans further)
        simpa only [Scope.Enough, frames] using innerSpare
      · have kept := oneRun_remember scope ⟨rule.name, rule.tag, pos⟩ same
          fun _ _ _ ahead => ahead.insert same.ahead
        exact .bind kept fun _ _ _ => .pure same

/-- A watched call goes with the same call when nothing is watched, if there is room for all
keys or a lack of room is allowed.
-/
theorem watchedCall_lockstep (name : Name) (pos : Int) (watch : Watch)
    (silent : ∀ frames, env.InOrder pos frames → watch.entering frames = pure ())
    {s : MatcherState} (sane : s.Sane env)
    (spare
      : Scope.Enough env pos (env.room s.resolved pos) {}
        ∨ ∀ rule pos, allowed (watch.noRoom rule pos))
    : (env.watchedRun allowed).Paired ((env.watchedRun allowed).SameMatch env.subject pos True)
        (env.watchedCall watch name pos s)
        (env.watchedCall { noRoom := watch.noRoom } name pos s) :=
  Coupling.callName_lockstep_of_visible ((watchedRun_carries ordinary).resolve name)
    (fun _ visible => watchRule_lockstep ordinary silent _ .empty spare visible (.refl _ _))
    s s ⟨rfl, sane.resolves, sane.memo⟩

end Calls

/-- The natural room of a call is enough for all keys that there are. -/
theorem enough_naturalRoom (resolved : List (Name × Entry)) (pos : Int)
    : Scope.Enough env pos (env.naturalRoom resolved pos) {} := by
  simp only [Scope.Enough, naturalRoom, List.length_nil, Nat.zero_add]
  exact Nat.mul_le_mul_right _ (Nat.le_add_right _ _)

end MatchEnv

end RuleGrammar
