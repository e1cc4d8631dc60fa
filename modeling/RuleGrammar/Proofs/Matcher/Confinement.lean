import RuleGrammar.Proofs.Grammar.Reached
import RuleGrammar.Proofs.Matcher.Grounded

/-! What a match can see of its grammar. Matchers over two grammars that agree at the names of a
closed set keep one state from then on and end alike, whatever the grammars hold besides. A match
therefore sees only what its start can reach, and in a valid grammar it misses no name.
-/

namespace RuleGrammar

/-- A fault as another grammar words it: a grammar is named where a rule is unknown in it. -/
def Fault.inGrammar (name : Name) : Fault → Fault
  | grammar (.unknownRule rule _) => grammar (.unknownRule rule name)
  | fault => fault

theorem Fault.inGrammar_atStart (name start : Name) (pos : Int) (fault : Fault)
    : (fault.atStart start pos).inGrammar name = (fault.inGrammar name).atStart start pos := by
  cases fault with
  | grammar error => cases error <;> rfl
  | _ => rfl

/-- The end of a run as it is worded over a grammar of another name. -/
def RunResult.inGrammar (name : Name) (ended : RunResult) : RunResult :=
  { ended with outcome := ended.outcome.mapError (Fault.inGrammar name) }

namespace MatchEnv

/-- The same matcher over another grammar. -/
def withGrammar (env : MatchEnv) (h : Grammar) : MatchEnv :=
  { env with grammar := h }

-----------------------------------------------------------------------------------------
-- Two grammars beside each other
-----------------------------------------------------------------------------------------

/-- A matcher beside the same one over another grammar. They keep one state, whose names are
resolved rightly for both, and end in one fault but for the name of the grammar, an allowed one.
-/
def besideOver (env : MatchEnv) (h : Grammar) (allowed : Fault → Prop) : Coupling where
  states s t :=
    s = t ∧ s.Resolves env.grammar ∧ s.Resolves h ∧ Memo.Ahead env.subject s.memo
  faults f g := g = f.inGrammar h.name ∧ allowed f
  excused _ := False
  view := id
  view_stop := stop_id
  view_ofLog := by
    rintro s t ⟨rfl, -⟩ info log log' same
    exact ofLog_id rfl info same
  counted := by
    rintro s t ⟨rfl, kept⟩
    exact ⟨rfl, kept⟩

/-- Names at which two grammars agree and beyond which no call goes from them. They may be
missing, tags may be matched where there are none, and classes may be faulty only if these faults
are allowed; all other faults are.
-/
structure Confined (env : MatchEnv) (h : Grammar) (among : Name → Prop)
    (allowed : Fault → Prop)
    : Prop where
  closed : env.grammar.Closed among
  agree : ∀ {name}, among name → env.grammar.lookup name = h.lookup name
  missing
    : ∀ {name},
        among name
        → env.grammar.lookup name = none
        → allowed (.grammar (.unknownRule name env.grammar.name))
  untagged
    : ∀ {name entry rule},
        env.grammar.lookup name = some entry
        → rule ∈ entry.rules
        → Expr.sym.Part rule.expr
        → rule.tag = none
        → allowed (.grammar (.symOutsideAlternative rule.name))
  faulty
    : ∀ {name entry rule cls fault},
        env.grammar.lookup name = some entry
        → rule ∈ entry.rules
        → (Expr.charClass cls).Part rule.expr
        → cls.compile = .error fault
        → allowed (.charClass fault)
  ordinary : ∀ fault : Fault, fault.isOfGrammar = false → allowed fault

variable {env : MatchEnv} {h : Grammar} {among : Name → Prop} {allowed : Fault → Prop}

/-- Answers over two grammars are one answer. -/
theorem besideOver_same {pos : Int} {empty : Prop} {m n : Option Match}
    (same : (env.besideOver h allowed).SameMatch env.subject pos empty m n)
    : m = n := by
  cases same with
  | missed => rfl
  | found same _ _ => exact congrArg some same

/-- A computation that leaves the resolved names and the memo alone goes with itself. -/
theorem besideOver_modify {m : MatchM Unit}
    (kept : ∀ s, ∃ t, m s = .ok () t ∧ t.resolved = s.resolved ∧ t.memo = s.memo)
    : (env.besideOver h allowed).Lockstep (fun _ _ => True) m m := by
  rintro s _ ⟨rfl, resolves, resolves', ahead⟩
  obtain ⟨t, ran, resolved, memo⟩ := kept s
  rw [ran]
  refine .ok trivial ⟨rfl, ?_, ?_, memo ▸ ahead⟩
  · simpa only [MatcherState.Resolves, resolved] using resolves
  · simpa only [MatcherState.Resolves, resolved] using resolves'

theorem besideOver_notes (scope : Scope) : (env.besideOver h allowed).Notes scope scope where
  expect pos what := besideOver_modify fun s => by
    obtain ⟨t, ran, resolved, memo, -⟩ := expect_spec scope pos what s
    exact ⟨t, ran, resolved, memo⟩
  expectGoal pos what := besideOver_modify fun s => by
    obtain ⟨t, ran, resolved, memo, -⟩ := expectGoal_spec scope pos what s
    exact ⟨t, ran, resolved, memo⟩

theorem besideOver_traceStart (scope : Scope) (rule : Rule) (pos : Int)
    : (env.besideOver h allowed).Lockstep (fun _ _ => True) (traceStart env scope rule pos)
        (traceStart (env.withGrammar h) scope rule pos) :=
  besideOver_modify fun s => by
    obtain ⟨trace, ran⟩ := traceStart_spec env scope rule pos s
    exact ⟨_, ran, rfl, rfl⟩

theorem besideOver_traceEnd (scope : Scope) (rule : Rule) (pos : Int) (answer : Option Match)
    : (env.besideOver h allowed).Lockstep (fun _ _ => True)
        (traceEnd env scope rule pos answer) (traceEnd (env.withGrammar h) scope rule pos answer) :=
  besideOver_modify fun s => by
    obtain ⟨trace, ran⟩ := traceEnd_spec env scope rule pos answer s
    exact ⟨_, ran, rfl, rfl⟩

/-- What is known for a key is known over both grammars, and it stops ahead. -/
theorem besideOver_knownAnswer (key : Key)
    : (env.besideOver h allowed).Lockstep
        (fun a b =>
          a = b
          ∧ ∀ answer ∈ a,
              (env.besideOver h allowed).SameMatch env.subject key.pos True answer answer)
        (knownAnswer env key) (knownAnswer (env.withGrammar h) key) := by
  refine .ite Iff.rfl (fun _ => ?_) fun _ => .pure ⟨rfl, by simp⟩
  rintro s _ ⟨rfl, resolves, resolves', ahead⟩
  refine .ok ⟨rfl, fun answer found => ?_⟩ ⟨rfl, resolves, resolves', ahead⟩
  cases answer with
  | none => exact .missed
  | some m => exact .found rfl (ahead _ m found) fun _ => trivial

/-- Keeping an answer that stops ahead keeps the states coupled, by cases on the key that is
asked.
-/
theorem besideOver_remember (scope : Scope) (key : Key) {answer answer' : Option Match}
    (same : (env.besideOver h allowed).SameMatch env.subject key.pos True answer answer')
    : (env.besideOver h allowed).Lockstep (fun _ _ => True) (remember env scope key answer)
        (remember (env.withGrammar h) scope key answer') := by
  obtain rfl := besideOver_same same
  refine .ite Iff.rfl (fun _ => ?_) fun _ => .pure trivial
  rintro s _ ⟨rfl, resolves, resolves', ahead⟩
  refine .ok trivial ⟨rfl, resolves, resolves', fun other m found => ?_⟩
  rcases Memo.find?_insert_cases found with ⟨rfl, known⟩ | before
  · cases same with
    | missed => cases known
    | found _ further _ =>
        cases known
        exact further
  · exact ahead other m before

/-- A name that both grammars agree on is resolved alike. -/
theorem Confined.resolve (confined : env.Confined h among allowed) {name : Name}
    (here : among name)
    : (env.besideOver h allowed).Lockstep
        (fun entry entry' => entry = entry' ∧ env.grammar.lookup name = some entry)
        (resolveOnce env name) (resolveOnce (env.withGrammar h) name) := by
  rintro s _ ⟨rfl, resolves, resolves', ahead⟩
  have agree := confined.agree here
  cases known : Layer.lookupIn name s.resolved with
  | some entry =>
      simp only [resolveOnce, MatchM.get_bind, known]
      exact .ok ⟨rfl, resolves name entry known⟩ ⟨rfl, resolves, resolves', ahead⟩
  | none =>
      simp only [resolveOnce, MatchM.get_bind, known, Grammar.resolve, withGrammar, ← agree]
      cases found : env.grammar.lookup name with
      | none =>
          exact .error ⟨rfl, confined.missing here found⟩ ⟨rfl, resolves, resolves', ahead⟩
      | some entry =>
          exact .ok ⟨rfl, rfl⟩
            ⟨rfl, resolves.append found, resolves'.append (agree ▸ found), ahead⟩

-----------------------------------------------------------------------------------------
-- Applications of rules
-----------------------------------------------------------------------------------------

/-- A guard is passed alike over both grammars; what is done behind it has to be in lockstep only
where no application of the rule is in progress at the offset.
-/
theorem Confined.guarded (confined : env.Confined h among allowed) {scope : Scope} {rule : Rule}
    {pos : Int} {left right : MatchM (Option Match)}
    (fresh
      : ¬ scope.isActive ⟨rule.name, rule.tag, pos⟩ = true
        → (env.besideOver h allowed).Lockstep
            ((env.besideOver h allowed).SameMatch env.subject pos True) left right)
    : (env.besideOver h allowed).Lockstep
        ((env.besideOver h allowed).SameMatch env.subject pos True)
        (guarded env scope rule pos left) (guarded (env.withGrammar h) scope rule pos right) := by
  refine .bind (besideOver_knownAnswer ⟨rule.name, rule.tag, pos⟩) fun a _ same => ?_
  obtain ⟨rfl, answers⟩ := same
  cases a with
  | some answer => exact .pure (answers answer rfl)
  | none =>
      refine .ite Iff.rfl (fun _ => .throw ⟨rfl, confined.ordinary _ rfl⟩)
        fun inactive => ?_
      have depth : (env.withGrammar h).config.depthReached scope
          = env.config.depthReached scope := rfl
      rw [depth]
      cases env.config.depthReached scope with
      | some limit => exact .throw ⟨rfl, confined.ordinary _ rfl⟩
      | none => exact fresh inactive

/-- A rule is answered alike over both grammars where the names that its body may call are called
alike.
-/
theorem Confined.answerRule (confined : env.Confined h among allowed) {name : Name}
    {entry : Entry} {rule : Rule} (here : among name)
    (found : env.grammar.lookup name = some entry) (member : rule ∈ entry.rules) (scope : Scope)
    (pos : Int) {callLeft callRight : Scope → Name → Int → MatchM (Option Match)}
    (calls
      : ∀ inner callee q,
          inner.frames = (scope.enter rule pos).frames
          → among callee
          → env.subject.Ahead pos q
          → (env.besideOver h allowed).Lockstep
              ((env.besideOver h allowed).SameMatch env.subject q True)
              (callLeft inner callee q) (callRight inner callee q))
    : (env.besideOver h allowed).Lockstep
        ((env.besideOver h allowed).SameMatch env.subject pos True)
        (answerRule env scope rule pos callLeft)
        (answerRule (env.withGrammar h) scope rule pos callRight) := by
  let left : Site := ⟨env.subject, rule, scope.enter rule pos, callLeft⟩
  let right : Site := ⟨env.subject, rule, scope.enter rule pos, callRight⟩
  have beside : (env.besideOver h allowed).Beside left right := ⟨rfl, rfl, besideOver_notes _⟩
  have covered : (env.besideOver h allowed).Covered left right True [] pos rule.expr := {
    space := fun q ahead _ sigspace =>
      calls _ _ q rfl (confined.closed.space here found member sigspace) ahead
    calls := fun reference q ahead _ =>
      have callee := confined.closed.calls here found member reference
      ⟨(calls _ _ q rfl callee ahead).mono fun _ _ same => same.mono Or.inl,
        (calls left.quiet.scope _ q rfl callee ahead).mono fun _ _ same => same.mono Or.inl⟩
    rule := fun _ => rfl
    sym := fun sym plain => ⟨rfl, confined.untagged found member sym plain⟩
    tag := fun _ _ => trivial
    classes := fun inside fault => ⟨rfl, confined.faulty found member inside fault⟩
  }
  unfold RuleGrammar.answerRule
  refine .bind (besideOver_traceStart scope rule pos) fun _ _ _ => ?_
  refine .bind (Coupling.eval_lockstep beside rule.expr covered) fun _ _ reached => ?_
  refine .bind (Coupling.ruleMatch_lockstep rule (reached.mono fun _ => trivial))
    fun m n same => ?_
  obtain rfl := besideOver_same same
  exact .bind (besideOver_traceEnd scope rule pos m) fun _ _ _ => .pure same

/-- Two amounts of room that make no difference over two grammars: one and the same, or each
comes up to all keys of one of the grammars.
-/
def SameRoom (env : MatchEnv) (h : Grammar) (start : Int) (scope : Scope) (room room' : Nat)
    : Prop :=
  room = room'
  ∨ (scope.Enough env start room ∨ scope.Enough (env.withGrammar h) start room)
    ∧ (scope.Enough env start room' ∨ scope.Enough (env.withGrammar h) start room')

theorem SameRoom.enter {start : Int} {scope inner : Scope} {room room' : Nat} {rule : Rule}
    {pos : Int} (same : env.SameRoom h start scope (room + 1) (room' + 1))
    (frames : inner.frames = (scope.enter rule pos).frames)
    : env.SameRoom h start inner room room' := by
  have enter {e : MatchEnv} {more : Nat} (enough : scope.Enough e start (more + 1))
      : inner.Enough e start more := by
    simpa only [Scope.Enough, frames] using enough.enter rule pos
  exact same.imp Nat.succ.inj fun both => ⟨both.1.imp enter enter, both.2.imp enter enter⟩

/-- The room of a call makes no difference: it is that of the ceiling on both sides, or each side
has room for all keys of one of the grammars.
-/
theorem sameRoom_room (env : MatchEnv) (h : Grammar) (pos : Int)
    : env.SameRoom h pos {} (env.room [] pos) ((env.withGrammar h).room [] pos) := by
  have capped {e : MatchEnv} {ceiling : Nat} (limited : e.config.ceiling = some ceiling)
      : e.room [] pos ≤ ceiling := by
    simp only [room, limited]
    exact Nat.min_le_left _ _
  have atCeiling {e : MatchEnv} {ceiling : Nat} (limited : e.config.ceiling = some ceiling)
      (low : ceiling < e.naturalRoom [] pos)
      : e.room [] pos = ceiling := by
    simp only [room, limited]
    exact Nat.min_eq_left (Nat.le_of_lt low)
  have more {e : MatchEnv} {room ceiling : Nat} (enough : Scope.Enough e pos room {})
      (le : room ≤ ceiling)
      : Scope.Enough e pos ceiling {} :=
    Nat.le_trans enough (Nat.add_le_add_left le _)
  rcases env.enough_or_ceiling [] pos with enough | ⟨ceiling, limited, low⟩
  · rcases (env.withGrammar h).enough_or_ceiling [] pos with enough' | ⟨ceiling, limited', low'⟩
    · exact Or.inr ⟨Or.inl enough, Or.inr enough'⟩
    · rw [atCeiling limited' low']
      exact Or.inr ⟨Or.inl enough, Or.inl (more enough (capped limited'))⟩
  · rcases (env.withGrammar h).enough_or_ceiling [] pos with enough' | ⟨ceiling', limited', low'⟩
    · rw [atCeiling limited low]
      exact Or.inr ⟨Or.inr (more enough' (capped limited)), Or.inr enough'⟩
    · refine Or.inl ?_
      rw [atCeiling limited low, atCeiling limited' low']
      exact Option.some.inj (limited.symm.trans limited')

/-- Where there is no room left on one side only, every rule is in progress. -/
theorem SameRoom.isActive {start : Int} {scope : Scope} {room room' : Nat} {rule : Rule}
    {pos : Int} (same : env.SameRoom h start scope room room') (differ : room ≠ room')
    (none : room = 0 ∨ room' = 0) (order : env.InOrder start scope.frames)
    (order' : (env.withGrammar h).InOrder start scope.frames)
    (visible : rule ∈ env.grammar.visibleRules) (visible' : rule ∈ h.visibleRules)
    (ahead : env.subject.Ahead start pos)
    : scope.isActive ⟨rule.name, rule.tag, pos⟩ = true := by
  have active (enough : scope.Enough env start 0 ∨ scope.Enough (env.withGrammar h) start 0)
      : scope.isActive ⟨rule.name, rule.tag, pos⟩ = true := by
    rcases enough with enough | enough
    · exact order.isActive_of_enough enough visible ahead
    · exact order'.isActive_of_enough enough visible' ahead
  obtain ⟨left, right⟩ := same.resolve_left differ
  rcases none with rfl | rfl
  · exact active left
  · exact active right

/-- A rule that a name of the set may apply is applied alike over both grammars, if it is where it
is not in progress yet; then there is room on both sides or on neither.
-/
theorem Confined.applyRule_of_fresh (confined : env.Confined h among allowed) {start : Int}
    {room room' : Nat} {scope : Scope} (order : env.InOrder start scope.frames)
    (order' : (env.withGrammar h).InOrder start scope.frames)
    (rooms : env.SameRoom h start scope room room') {rule : Rule}
    (visible : rule ∈ env.grammar.visibleRules) (visible' : rule ∈ h.visibleRules) {pos : Int}
    (ahead : env.subject.Ahead start pos)
    (fresh
      : env.InOrder start (⟨rule, pos⟩ :: scope.frames)
        → (env.withGrammar h).InOrder start (⟨rule, pos⟩ :: scope.frames)
        → (room = 0 ↔ room' = 0)
        → (env.besideOver h allowed).Lockstep
            ((env.besideOver h allowed).SameMatch env.subject pos True)
            (applyFresh env room scope rule pos)
            (applyFresh (env.withGrammar h) room' scope rule pos))
    : (env.besideOver h allowed).Lockstep
        ((env.besideOver h allowed).SameMatch env.subject pos True)
        (applyRule env room scope rule pos)
        (applyRule (env.withGrammar h) room' scope rule pos) := by
  rw [applyRule_eq_guarded, applyRule_eq_guarded]
  refine confined.guarded fun inactive => ?_
  refine fresh (order.cons inactive visible ahead) (order'.cons inactive visible' ahead) ?_
  by_cases differ : room = room'
  · rw [differ]
  · have spare (none : room = 0 ∨ room' = 0) : False :=
      inactive (rooms.isActive differ none order order' visible visible' ahead)
    exact ⟨fun none => (spare (Or.inl none)).elim, fun none => (spare (Or.inr none)).elim⟩

/-- A rule that a name of the set may apply is applied alike over both grammars. Induction on the
room of the first: no call from its body leaves the set, and where one side alone has no room left
the rule is in progress already.
-/
theorem Confined.applyRule (confined : env.Confined h among allowed) {start : Int}
    (room : Nat) {room' : Nat} {scope : Scope} (order : env.InOrder start scope.frames)
    (order' : (env.withGrammar h).InOrder start scope.frames)
    (rooms : env.SameRoom h start scope room room') {name : Name} {entry : Entry} {rule : Rule}
    (here : among name) (found : env.grammar.lookup name = some entry)
    (member : rule ∈ entry.rules) {pos : Int} (ahead : env.subject.Ahead start pos)
    : (env.besideOver h allowed).Lockstep
        ((env.besideOver h allowed).SameMatch env.subject pos True)
        (applyRule env room scope rule pos)
        (applyRule (env.withGrammar h) room' scope rule pos) := by
  induction room generalizing room' scope name entry rule pos with
  | zero =>
      have found' := (confined.agree here).symm.trans found
      refine confined.applyRule_of_fresh order order' rooms
        (Grammar.mem_visibleRules.mpr ⟨_, _, found, member⟩)
        (Grammar.mem_visibleRules.mpr ⟨_, _, found', member⟩) ahead fun _ _ same => ?_
      obtain rfl := same.mp rfl
      exact .throw ⟨rfl, confined.ordinary _ rfl⟩
  | succ room ih =>
      have found' := (confined.agree here).symm.trans found
      refine confined.applyRule_of_fresh order order' rooms
        (Grammar.mem_visibleRules.mpr ⟨_, _, found, member⟩)
        (Grammar.mem_visibleRules.mpr ⟨_, _, found', member⟩) ahead fun inner inner' same => ?_
      cases room' with
      | zero => cases same.mpr rfl
      | succ room' =>
          refine .bind (confined.answerRule here found member scope pos ?_) fun m n same => ?_
          · intro scope' callee q frames calleeHere further
            refine Coupling.callName_lockstep (confined.resolve calleeHere) ?_
            intro other stands rule' member'
            exact ih (frames ▸ inner) (frames ▸ inner') (rooms.enter frames) calleeHere stands
              member' (ahead.trans further)
          · exact .bind (besideOver_remember scope ⟨rule.name, rule.tag, pos⟩ same)
              fun _ _ _ => .pure same

-----------------------------------------------------------------------------------------
-- Whole runs
-----------------------------------------------------------------------------------------

/-- A match goes alike over both grammars from a name of the set. -/
theorem Confined.matchFrom (confined : env.Confined h among allowed) {start : Name}
    (here : among start) (pos : Int) (anchored : Bool)
    : (env.besideOver h allowed).Paired Eq (matchFrom env start pos anchored {})
        (matchFrom (env.withGrammar h) start pos anchored {}) := by
  have coupled : (env.besideOver h allowed).states {} {} :=
    ⟨rfl, .initial env.grammar, .initial h, (MatcherState.Sane.initial env).memo⟩
  have called : (env.besideOver h allowed).Lockstep
      ((env.besideOver h allowed).SameMatch env.subject pos True)
      (callWithin env (env.room [] pos) {} start pos)
      (callWithin (env.withGrammar h) ((env.withGrammar h).room [] pos) {} start pos) := by
    refine Coupling.callName_lockstep (confined.resolve here) fun entry found rule member => ?_
    exact confined.applyRule _ .empty .empty (env.sameRoom_room h pos) here found member
      (.refl _ _)
  exact Coupling.matchFrom_paired env (env.withGrammar h) rfl (besideOver_notes {})
    (called {} {} coupled) (fun _ _ same => congrArg Outcome.matched same)
    fun _ _ coupled => by rw [coupled.1]

/-- A run that is past its checks ends alike over both grammars, in an allowed fault if in one. -/
theorem Confined.run (confined : env.Confined h among allowed) {start : Name}
    (here : among start) {pos : Int} {anchored : Bool} (checked : checkStart env start = .ok ())
    (checked' : checkStart (env.withGrammar h) start = .ok ())
    : run (env.withGrammar h) start pos anchored = (run env start pos anchored).inGrammar h.name
      ∧ ∀ fault,
          (run env start pos anchored).outcome = .error fault
          → ∃ cause, fault = cause.atStart start pos ∧ allowed cause := by
  have paired := confined.matchFrom here pos anchored
  unfold RuleGrammar.run
  rw [checked, checked']
  simp only
  generalize RuleGrammar.matchFrom env start pos anchored {} = left at paired
  generalize RuleGrammar.matchFrom (env.withGrammar h) start pos anchored {} = right at paired
  cases paired with
  | ok same kept =>
      obtain rfl := same
      obtain rfl := kept.1
      exact ⟨rfl, by simp⟩
  | @error cause _ s t fault kept =>
      obtain ⟨rfl, allows⟩ := fault
      obtain rfl := kept.1
      refine ⟨?_, ?_⟩
      · simp only [RunResult.inGrammar, Except.mapError, Fault.inGrammar_atStart]
      · intro fault ended
        cases ended
        exact ⟨cause, rfl, allows⟩
  | excused excuse => cases excuse

/-- A run sees only what its start can reach. Over a grammar in which all reached names stand for
the same it ends in the same state and with the same outcome, or with the same fault but for the
name of the grammar; a grammar that inherits from another and defines no reached name is one.
-/
theorem run_of_reached (unchecked : env.config.validate = false) (start : Name) (pos : Int)
    (anchored : Bool)
    : (∀ h : Grammar,
        (∀ name, env.grammar.Reached start name → env.grammar.lookup name = h.lookup name)
        → run (env.withGrammar h) start pos anchored
            = (run env start pos anchored).inGrammar h.name)
      ∧ ∀ layer : Layer,
          (∀ name, env.grammar.Reached start name → layer.find? name = none)
          → run (env.withGrammar ⟨layer, env.grammar.lineage⟩) start pos anchored
            = (run env start pos anchored).inGrammar layer.name := by
  have ends (h : Grammar)
      (agree : ∀ name, env.grammar.Reached start name → env.grammar.lookup name = h.lookup name)
      : run (env.withGrammar h) start pos anchored
          = (run env start pos anchored).inGrammar h.name := by
    have confined : env.Confined h (env.grammar.Reached start) fun _ => True := {
      closed := Grammar.Reached.closed env.grammar start
      agree := agree _
      missing := fun _ _ => trivial
      untagged := fun _ _ _ _ => trivial
      faulty := fun _ _ _ _ => trivial
      ordinary := fun _ _ => trivial
    }
    have sameStart := agree start .start
    cases found : env.grammar.lookup start with
    | some entry =>
        have checked {g : Grammar} (stands : g.lookup start = some entry)
            : checkStart (env.withGrammar g) start = .ok () := by
          simp only [checkStart, withGrammar, unchecked, Grammar.resolve, stands]
          rfl
        exact (confined.run .start (checked found) (checked (sameStart ▸ found))).1
    | none =>
        have ran {g : Grammar} (missing : g.lookup start = none)
            : run (env.withGrammar g) start pos anchored
              = ⟨.error (.grammar (.unknownRule start g.name)), {}⟩ := by
          simp only [RuleGrammar.run, checkStart, withGrammar, unchecked, Grammar.resolve, missing]
          rfl
        rw [ran (sameStart ▸ found), show run env start pos anchored = _ from ran found]
        rfl
  refine ⟨ends, fun layer undefined => ends _ fun name reached => ?_⟩
  exact (Grammar.lookup_of_inherited (undefined name reached)).symm

/-- The example chain calls its one rule and white space only. -/
theorem chain_closed : chain.grammar.Closed fun name => name = "a" ∨ name = "ws" where
  calls here found member reference := by
    rcases here with rfl | rfl
    · cases (rfl : chain.grammar.lookup "a" = some (.rule chainRule)).symm.trans found
      cases List.mem_singleton.mp member
      cases reference with | item member inside => ?_
      rcases List.mem_pair.mp member with rfl | rfl
      · cases inside
      · cases inside with | repeated inside => ?_
        cases inside
        exact Or.inl rfl
    · cases (rfl : chain.grammar.lookup "ws" = some (.rule _)).symm.trans found
      cases List.mem_singleton.mp member
      cases reference with | repeated inside => ?_
      cases inside
  space _ _ _ _ := Or.inr rfl

/-- What a grammar adds to the chain under another name makes no difference. -/
theorem run_of_reached_chain
    : chain.config.validate = false
      ∧ ∃ layer : Layer,
          layer.names = ["b"]
          ∧ (∀ name, chain.grammar.Reached "a" name → layer.find? name = none)
          ∧ run (chain.withGrammar ⟨layer, chain.grammar.lineage⟩) "a" 0 true
            = (run chain "a" 0 true).inGrammar layer.name := by
  let layer : Layer := ⟨"longer", [("b", .rule { chainRule with name := "b" })]⟩
  have undefined name (reached : chain.grammar.Reached "a" name) : layer.find? name = none := by
    rcases reached.among chain_closed (Or.inl rfl) with rfl | rfl <;> rfl
  exact ⟨rfl, layer, rfl, undefined, (run_of_reached rfl "a" 0 true).2 layer undefined⟩

-----------------------------------------------------------------------------------------
-- Valid grammars
-----------------------------------------------------------------------------------------

/-- A run over a valid grammar from a start that stands for something meets no unknown rule and no
tag outside an alternative, nor any other fault of the grammar.
-/
theorem run_not_dangling (valid : env.grammar.validate = .ok ()) {start : Name}
    (stands : ∃ entry, env.grammar.lookup start = some entry) (pos : Int) (anchored : Bool)
    (error : GrammarError)
    : (run env start pos anchored).outcome ≠ .error (.grammar error) := by
  have checked := (Grammar.checks_of_validate valid).1
  have confined
      : env.Confined env.grammar env.grammar.Stands fun fault =>
          ∀ error, fault ≠ .grammar error := {
    closed := Grammar.closed_of_checkRules checked
    agree := fun _ => rfl
    missing := fun ⟨entry, found⟩ none => by rw [found] at none; cases none
    untagged := fun found member sym plain =>
      absurd plain (Grammar.tag_of_checkRules checked found member sym)
    faulty := fun _ _ _ _ => by simp
    ordinary := fun fault other error same => by
      rw [same] at other
      cases other
  }
  have started := checkStart_of_valid valid stands
  intro ended
  obtain ⟨cause, same, other⟩ := (confined.run stands started started).2 _ ended
  cases cause with
  | grammar error => exact other error rfl
  | _ => cases same

/-- The rule of the chain and white space are all that it calls. -/
theorem run_not_dangling_chain
    : chain.grammar.validate = .ok ()
      ∧ (∃ entry, chain.grammar.lookup "a" = some entry)
      ∧ ∀ error, (run chain "a" 0 true).outcome ≠ .error (.grammar error) := by
  have valid : chain.grammar.validate = .ok () := by decide +kernel
  exact ⟨valid, ⟨_, rfl⟩, run_not_dangling valid ⟨_, rfl⟩ 0 true⟩

-----------------------------------------------------------------------------------------
-- Faulty classes
-----------------------------------------------------------------------------------------

/-- A run that ends in a faulty class has met one of a visible rule. -/
theorem exists_faulty_of_run {start : Name} {pos : Int} {anchored : Bool}
    {fault : CharClass.Fault}
    (ended : (run env start pos anchored).outcome = .error (.charClass fault))
    : ∃ rule ∈ env.grammar.visibleRules, ∃ cls ∈ rule.expr.classes, cls.fault? = some fault := by
  let allowed (met : Fault) : Prop :=
    ∀ fault,
      met = .charClass fault
      → ∃ rule ∈ env.grammar.visibleRules, ∃ cls ∈ rule.expr.classes, cls.fault? = some fault
  have confined : env.Confined env.grammar (fun _ => True) allowed := {
    closed := ⟨fun _ _ _ _ => trivial, fun _ _ _ _ => trivial⟩
    agree := fun _ => rfl
    missing := fun _ _ => nofun
    untagged := fun _ _ _ _ => nofun
    faulty := fun found member inside compiled met same => by
      cases same
      refine ⟨_, Grammar.mem_visibleRules.mpr ⟨_, _, found, member⟩, _, inside.mem_classes, ?_⟩
      simp [CharClass.fault?, compiled]
    ordinary := fun met other fault same => by
      rw [same] at other
      cases other
  }
  cases checked : checkStart env start with
  | error error =>
      rw [run, checked] at ended
      cases ended
  | ok _ =>
      obtain ⟨cause, same, allows⟩ := (confined.run trivial checked checked).2 _ ended
      cases cause with
      | charClass met =>
          cases same
          exact allows fault rfl
      | _ => cases same

end MatchEnv

end RuleGrammar
