import RuleGrammar.Matcher.Apply
import RuleGrammar.Proofs.MatchTree.Bare
import RuleGrammar.Proofs.Matcher.Offset

/-! Two runs of the matcher side by side. A coupling says which states go together, which faults
may end both runs, and how much of a node has to be the same; two computations are in lockstep
when they take coupled states to answers alike and coupled states.
-/

namespace RuleGrammar

-----------------------------------------------------------------------------------------
-- Couplings and lockstep
-----------------------------------------------------------------------------------------

/-- What two runs side by side have in common. The run on the right may end alone in a fault that
is excused. Nodes are compared through a view, which must keep where a node stops and must not
tell apart nodes built in coupled states from logs that look alike.
-/
structure Coupling where
  states : MatcherState → MatcherState → Prop
  faults : Fault → Fault → Prop
  excused : Fault → Prop
  view : Match → Match
  view_stop : ∀ m, (view m).stop = m.stop
  view_ofLog
    : ∀ {s t},
        states s t
        → ∀ (info : NodeInfo) {log log' : List Caught},
            logThrough view log = logThrough view log'
            → view (.ofLog { info with id := s.nextId } log)
              = view (.ofLog { info with id := t.nextId } log')
  counted
    : ∀ {s t},
        states s t
        → states { s with nextId := s.nextId + 1 } { t with nextId := t.nextId + 1 }

/-! The view that keeps every node as it is. -/

theorem stop_id (m : Match) : (id m).stop = m.stop :=
  rfl

theorem ofLog_id {s t : MatcherState} (counts : s.nextId = t.nextId) (info : NodeInfo)
    {log log' : List Caught} (same : logThrough id log = logThrough id log')
    : id (Match.ofLog { info with id := s.nextId } log)
      = id (Match.ofLog { info with id := t.nextId } log') := by
  rw [logThrough_id, logThrough_id] at same
  rw [same, counts]

namespace Coupling

/-- Two ends of coupled runs: values alike, faults that go together, or an excused fault on the
right, after which nothing is asked of the left.
-/
inductive Paired (c : Coupling) {α β : Type} (values : α → β → Prop)
    : EStateM.Result Fault MatcherState α → EStateM.Result Fault MatcherState β → Prop
  | ok {a b s t} (value : values a b) (kept : c.states s t)
    : c.Paired values (.ok a s) (.ok b t)
  | error {f g s t} (fault : c.faults f g) (kept : c.states s t)
    : c.Paired values (.error f s) (.error g t)
  | excused {left g t} (excuse : c.excused g) : c.Paired values left (.error g t)

/-- From coupled states, two computations end paired. -/
def Lockstep (c : Coupling) {α β : Type} (values : α → β → Prop) (left : MatchM α)
    (right : MatchM β)
    : Prop :=
  ∀ s t, c.states s t → c.Paired values (left s) (right t)

variable {c : Coupling} {α β γ δ : Type}

theorem Paired.mono {values wider : α → β → Prop} {left right}
    (paired : c.Paired values left right) (weaken : ∀ a b, values a b → wider a b)
    : c.Paired wider left right := by
  cases paired with
  | ok value kept => exact .ok (weaken _ _ value) kept
  | error fault kept => exact .error fault kept
  | excused excuse => exact .excused excuse

/-- Paired ends go on paired through lockstep continuations, by cases on how they were paired. -/
theorem Paired.bind {values : α → β → Prop} {wider : γ → δ → Prop} {left : MatchM α}
    {right : MatchM β} {nextLeft : α → MatchM γ} {nextRight : β → MatchM δ}
    {s t : MatcherState} (first : c.Paired values (left s) (right t))
    (next : ∀ a b, values a b → c.Lockstep wider (nextLeft a) (nextRight b))
    : c.Paired wider ((left >>= nextLeft) s) ((right >>= nextRight) t) := by
  change c.Paired wider (EStateM.bind left nextLeft s) (EStateM.bind right nextRight t)
  unfold EStateM.bind
  generalize left s = ended at first
  generalize right t = ended' at first
  cases first with
  | ok value kept => exact next _ _ value _ _ kept
  | error fault kept => exact .error fault kept
  | @excused _ g t' excuse => exact .excused excuse

namespace Lockstep

theorem mono {values wider : α → β → Prop} {left : MatchM α} {right : MatchM β}
    (lockstep : c.Lockstep values left right) (weaken : ∀ a b, values a b → wider a b)
    : c.Lockstep wider left right :=
  fun s t coupled => (lockstep s t coupled).mono weaken

theorem pure {values : α → β → Prop} {a : α} {b : β} (value : values a b)
    : c.Lockstep values (Pure.pure a) (Pure.pure b) :=
  fun _ _ coupled => .ok value coupled

theorem throw {values : α → β → Prop} {f g : Fault} (fault : c.faults f g)
    : c.Lockstep values (MonadExcept.throw f) (MonadExcept.throw g) :=
  fun _ _ coupled => .error fault coupled

/-- A fault that is excused on the right is in lockstep with anything. -/
theorem throw_excused {values : α → β → Prop} {left : MatchM α} {g : Fault}
    (excuse : c.excused g)
    : c.Lockstep values left (MonadExcept.throw g) :=
  fun _ _ _ => .excused excuse

/-- Lockstep computations with lockstep continuations are in lockstep. -/
theorem bind {values : α → β → Prop} {wider : γ → δ → Prop} {left : MatchM α}
    {right : MatchM β} {nextLeft : α → MatchM γ} {nextRight : β → MatchM δ}
    (first : c.Lockstep values left right)
    (next : ∀ a b, values a b → c.Lockstep wider (nextLeft a) (nextRight b))
    : c.Lockstep wider (left >>= nextLeft) (right >>= nextRight) :=
  fun s t coupled => (first s t coupled).bind next

/-- Both sides take the same branch when their conditions say the same. -/
theorem ite {values : α → β → Prop} {p q : Prop} [Decidable p] [Decidable q]
    {left left' : MatchM α} {right right' : MatchM β} (same : p ↔ q)
    (yes : p → c.Lockstep values left right) (no : ¬p → c.Lockstep values left' right')
    : c.Lockstep values (if p then left else left') (if q then right else right') := by
  by_cases holds : p
  · rw [if_pos holds, if_pos (same.mp holds)]
    exact yes holds
  · rw [if_neg holds, if_neg fun other => holds (same.mpr other)]
    exact no holds

end Lockstep

-----------------------------------------------------------------------------------------
-- Answers alike
-----------------------------------------------------------------------------------------

/-- Two answers of a rule called at an offset: both missing, or matches that look the same and
stop ahead, at the offset itself only under the given condition.
-/
inductive SameMatch (c : Coupling) (subject : Subject) (pos : Int) (empty : Prop)
    : Option Match → Option Match → Prop
  | missed : c.SameMatch subject pos empty none none
  | found {m n} (same : c.view m = c.view n) (ahead : subject.Ahead pos m.stop)
    (still : m.stop = pos → empty)
    : c.SameMatch subject pos empty (some m) (some n)

/-- Two answers of an expression at an offset: both missing, or one offset ahead reached with
logs that look the same. It may be the offset itself only under the given condition.
-/
inductive SameReached (c : Coupling) (subject : Subject) (pos : Int) (empty : Prop)
    : Option Reached → Option Reached → Prop
  | missed : c.SameReached subject pos empty none none
  | reached {stop log log'} (same : logThrough c.view log = logThrough c.view log')
    (ahead : subject.Ahead pos stop) (still : stop = pos → empty)
    : c.SameReached subject pos empty (some ⟨stop, log⟩) (some ⟨stop, log'⟩)

/-- Two offsets after white space: one offset ahead. -/
def SameOffset (subject : Subject) (pos : Int) (left right : Int) : Prop :=
  left = right ∧ subject.Ahead pos left

theorem SameReached.mono {subject : Subject} {pos : Int} {empty wider : Prop} {left right}
    (same : c.SameReached subject pos empty left right) (weaken : empty → wider)
    : c.SameReached subject pos wider left right := by
  cases same with
  | missed => exact .missed
  | reached same ahead still => exact .reached same ahead (fun stays => weaken (still stays))

theorem SameMatch.mono {subject : Subject} {pos : Int} {empty wider : Prop} {left right}
    (same : c.SameMatch subject pos empty left right) (weaken : empty → wider)
    : c.SameMatch subject pos wider left right := by
  cases same with
  | missed => exact .missed
  | found same ahead still => exact .found same ahead (fun stays => weaken (still stays))

theorem SameReached.ahead {subject : Subject} {pos : Int} {empty : Prop} {left right}
    (same : c.SameReached subject pos empty left right)
    : ∀ r ∈ left, subject.Ahead pos r.stop := by
  cases same with
  | missed => simp
  | reached _ ahead _ => simpa using ahead

theorem SameMatch.ahead {subject : Subject} {pos : Int} {empty : Prop} {left right}
    (same : c.SameMatch subject pos empty left right)
    : ∀ m ∈ left, subject.Ahead pos m.stop := by
  cases same with
  | missed => simp
  | found _ ahead _ => simpa using ahead

theorem SameMatch.still {subject : Subject} {pos : Int} {empty : Prop} {left right}
    (same : c.SameMatch subject pos empty left right)
    : ∀ m ∈ left, m.stop = pos → empty := by
  cases same with
  | missed => simp
  | found _ _ still => simpa using still

theorem view_stop_eq {m n : Match} (same : c.view m = c.view n) : m.stop = n.stop := by
  rw [← c.view_stop m, same, c.view_stop n]

-----------------------------------------------------------------------------------------
-- Sites side by side
-----------------------------------------------------------------------------------------

/-- Failures noted in two scopes keep states coupled. -/
structure Notes (c : Coupling) (left right : Scope) : Prop where
  expect
    : ∀ pos what,
        c.Lockstep (fun _ _ => True) (MatchM.expect left pos what)
          (MatchM.expect right pos what)
  expectGoal
    : ∀ pos what,
        c.Lockstep (fun _ _ => True) (MatchM.expectGoal left pos what)
          (MatchM.expectGoal right pos what)

/-- In quiet scopes nothing is noted. -/
theorem Notes.of_quiet {left right : Scope} (leftQuiet : left.quiet = true)
    (rightQuiet : right.quiet = true)
    : c.Notes left right := by
  constructor
  · intro pos what
    simp only [MatchM.expect, leftQuiet, rightQuiet, if_true]
    exact .pure trivial
  · intro pos what
    simp only [MatchM.expectGoal, leftQuiet, rightQuiet, if_true]
    exact .pure trivial

/-- Two sites over one subject, for rules that try white space alike, where failures may be noted. -/
structure Beside (c : Coupling) (left right : Site) : Prop where
  subject : left.subject = right.subject
  sigspace : left.rule.sigspace = right.rule.sigspace
  notes : c.Notes left.scope right.scope

theorem Beside.quiet {left right : Site} (beside : c.Beside left right)
    : c.Beside left.quiet right.quiet :=
  ⟨beside.subject, beside.sigspace, .of_quiet rfl rfl⟩

/-- The calls for white space at an offset are in lockstep, if the rule tries it. -/
def SpaceAt (c : Coupling) (left right : Site) (pos : Int) : Prop :=
  left.rule.sigspace = true
  → c.Lockstep (c.SameMatch left.subject pos True) (left.call left.quiet.scope "ws" pos)
      (right.call right.quiet.scope "ws" pos)

section Sites

variable {left right : Site} {pos : Int}

/-- A failure is answered alike on both sides. -/
theorem Beside.miss (beside : c.Beside left right) (empty : Prop) (at_ : Int) (what : Text)
    : c.Lockstep (c.SameReached left.subject pos empty) (left.miss at_ what)
        (right.miss at_ what) :=
  .bind (beside.notes.expect at_ what) fun _ _ _ => .pure .missed

/-- White space is skipped alike on both sides. -/
theorem Beside.skipSpace (beside : c.Beside left right) (space : c.SpaceAt left right pos)
    : c.Lockstep (SameOffset left.subject pos) (left.skipSpace pos)
        (right.skipSpace pos) := by
  unfold Site.skipSpace
  rw [← beside.sigspace]
  split
  · rename_i sigspace
    refine .bind (space sigspace) fun m n same => ?_
    cases same with
    | missed => exact .pure ⟨rfl, .refl _ _⟩
    | found same ahead _ => exact .pure ⟨view_stop_eq same, ahead⟩
  · exact .pure ⟨rfl, .refl _ _⟩

/-- Nodes built alike from logs alike look the same. -/
theorem lockstep_fresh (info : NodeInfo) {log log' : List Caught}
    (same : logThrough c.view log = logThrough c.view log')
    : c.Lockstep (fun m n => c.view m = c.view n ∧ m.stop = info.stop)
        (do return .ofLog { info with id := ← MatchM.freshId } log)
        (do return .ofLog { info with id := ← MatchM.freshId } log') :=
  fun _ _ coupled => .ok ⟨c.view_ofLog coupled info same, rfl⟩ (c.counted coupled)

end Sites

end Coupling

end RuleGrammar
