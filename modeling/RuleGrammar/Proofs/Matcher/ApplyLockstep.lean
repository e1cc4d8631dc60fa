import RuleGrammar.Matcher.Parse
import RuleGrammar.Proofs.Grammar.Visible
import RuleGrammar.Proofs.Matcher.EvalLockstep
import RuleGrammar.Proofs.Matcher.Notes

/-! Rule applications side by side: the alternatives of a group, the call of a name, the answer
that a rule makes of its body, and what a match makes of its call.
-/

namespace RuleGrammar

/-- The names that were resolved so far stand for the same in the grammar. -/
def MatcherState.Resolves (s : MatcherState) (g : Grammar) : Prop :=
  ∀ name entry, Layer.lookupIn name s.resolved = some entry → g.lookup name = some entry

theorem MatcherState.Resolves.initial (g : Grammar) : MatcherState.Resolves {} g := by
  intro name entry found
  cases found

/-- Looking behind the end of a list of entries finds what is put there, if nothing else. -/
theorem Layer.lookupIn_append (name : Name) (entries : List (Name × Entry)) (key : Name)
    (entry : Entry)
    : Layer.lookupIn name (entries ++ [(key, entry)])
      = (Layer.lookupIn name entries).or (if key = name then some entry else none) := by
  induction entries with
  | nil => rfl
  | cons first rest ih =>
      obtain ⟨head, value⟩ := first
      by_cases here : head = name <;> simp [Layer.lookupIn, here, ih]

/-- A name may be resolved to what it stands for. -/
theorem MatcherState.Resolves.append {s : MatcherState} {g : Grammar} {name : Name} {entry : Entry}
    (resolves : s.Resolves g) (found : g.lookup name = some entry)
    : MatcherState.Resolves { s with resolved := s.resolved ++ [(name, entry)] } g := by
  intro other value added
  simp only [Layer.lookupIn_append, Option.or_eq_some_iff] at added
  rcases added with earlier | ⟨-, new⟩
  · exact resolves other value earlier
  · by_cases same : name = other
    · simp only [same, if_true, Option.some.injEq] at new
      rw [← same, ← new]
      exact found
    · simp [same] at new

/-- Resolving a name gives what it stands for in the grammar or says that it stands for nothing;
only the resolved names change, and they stay right.
-/
theorem resolveOnce_spec {env : MatchEnv} {s : MatcherState} (name : Name)
    (resolves : s.Resolves env.grammar)
    : (∃ entry resolved,
        env.grammar.lookup name = some entry
        ∧ resolveOnce env name s = .ok entry { s with resolved }
        ∧ MatcherState.Resolves { s with resolved } env.grammar)
      ∨ env.grammar.lookup name = none
        ∧ resolveOnce env name s
          = .error (.grammar (.unknownRule name env.grammar.name)) s := by
  cases known : Layer.lookupIn name s.resolved with
  | some entry =>
      refine Or.inl ⟨entry, s.resolved, resolves name entry known, ?_, resolves⟩
      simp only [resolveOnce, MatchM.get_bind, known]
      rfl
  | none =>
      cases found : env.grammar.lookup name with
      | none =>
          refine Or.inr ⟨rfl, ?_⟩
          simp only [resolveOnce, MatchM.get_bind, known, Grammar.resolve, found]
          rfl
      | some entry =>
          refine Or.inl ⟨entry, s.resolved ++ [(name, entry)], rfl, ?_, ?_⟩
          · simp only [resolveOnce, MatchM.get_bind, known, Grammar.resolve, found]
            rfl
          · exact resolves.append found

/-- An expected text is noted unless the scope is quiet. -/
theorem expect_spec (scope : Scope) (pos : Int) (what : Text) (s : MatcherState)
    : ∃ t,
        MatchM.expect scope pos what s = .ok () t
        ∧ t.resolved = s.resolved
        ∧ t.memo = s.memo
        ∧ t.furthest
          = if scope.quiet then s.furthest
            else s.furthest.note (.text scope.innermost pos what) := by
  unfold MatchM.expect
  split
  · exact ⟨s, rfl, rfl, rfl, rfl⟩
  · exact ⟨_, rfl, rfl, rfl, rfl⟩

theorem expectGoal_spec (scope : Scope) (pos : Int) (what : Text) (s : MatcherState)
    : ∃ t,
        MatchM.expectGoal scope pos what s = .ok () t
        ∧ t.resolved = s.resolved
        ∧ t.memo = s.memo
        ∧ t.furthest
          = if scope.quiet then s.furthest
            else s.furthest.note (.goal scope.innermost pos what) := by
  unfold MatchM.expectGoal
  split
  · exact ⟨s, rfl, rfl, rfl, rfl⟩
  · exact ⟨_, rfl, rfl, rfl, rfl⟩

theorem traceStart_spec (env : MatchEnv) (scope : Scope) (rule : Rule) (pos : Int)
    (s : MatcherState)
    : ∃ trace, traceStart env scope rule pos s = .ok () { s with trace } := by
  unfold traceStart
  split
  · exact ⟨_, rfl⟩
  · exact ⟨s.trace, rfl⟩

theorem traceEnd_spec (env : MatchEnv) (scope : Scope) (rule : Rule) (pos : Int)
    (answer : Option Match) (s : MatcherState)
    : ∃ trace, traceEnd env scope rule pos answer s = .ok () { s with trace } := by
  unfold traceEnd
  split
  · exact ⟨_, rfl⟩
  · exact ⟨s.trace, rfl⟩

/-- Whether a fault says that there was no room left. -/
def Fault.isOutOfRoom : Fault → Bool
  | outOfRoom _ _ => true
  | _ => false

/-- Whether a fault lies in the grammar or in one of its classes. -/
def Fault.isOfGrammar : Fault → Bool
  | grammar _ | charClass _ => true
  | _ => false

theorem Fault.isOutOfRoom_of_isOfGrammar {fault : Fault} (faulty : fault.isOfGrammar = true)
    : fault.isOutOfRoom = false := by
  cases fault with
  | grammar error => rfl
  | charClass fault => rfl
  | _ => cases faulty

namespace Coupling

variable {c : Coupling} {subject : Subject} {pos : Int} {empty : Prop}

-----------------------------------------------------------------------------------------
-- Calls
-----------------------------------------------------------------------------------------

/-- The better of two answers of alternatives is alike where the answers are. -/
theorem SameMatch.further {best best' next next'}
    (sameBest : c.SameMatch subject pos empty best best')
    (sameNext : c.SameMatch subject pos empty next next')
    : c.SameMatch subject pos empty (furtherMatch best next) (furtherMatch best' next') := by
  cases sameBest with
  | missed => cases sameNext with
    | missed => exact .missed
    | found same ahead still => exact .found same ahead still
  | found same ahead still => cases sameNext with
    | missed => exact .found same ahead still
    | found same' ahead' still' =>
        simp only [furtherMatch, ← view_stop_eq same, ← view_stop_eq same']
        split
        · exact .found same' ahead' still'
        · exact .found same ahead still

/-- Dispatch over alternatives is in lockstep where their applications are, by induction on the
alternatives.
-/
theorem dispatch_lockstep {applyLeft applyRight : Rule → Int → MatchM (Option Match)}
    (alternatives : List Rule) {best best' : Option Match}
    (sameBest : c.SameMatch subject pos empty best best')
    (apply
      : ∀ rule ∈ alternatives,
          c.Lockstep (c.SameMatch subject pos empty) (applyLeft rule pos)
            (applyRight rule pos))
    : c.Lockstep (c.SameMatch subject pos empty) (dispatch applyLeft pos alternatives best)
        (dispatch applyRight pos alternatives best') := by
  induction alternatives generalizing best best' with
  | nil => exact .pure sameBest
  | cons rule rest ih =>
      refine .bind (apply rule (by simp)) fun _ _ sameNext => ?_
      exact ih (sameBest.further sameNext) fun other member => apply other (by simp [member])

/-- A call is in lockstep where resolving its name and applying the rules that it stands for
are.
-/
theorem callName_lockstep {env env' : MatchEnv}
    {applyLeft applyRight : Rule → Int → MatchM (Option Match)} {name : Name}
    (resolve
      : c.Lockstep (fun entry entry' =>
          entry = entry' ∧ env.grammar.lookup name = some entry) (resolveOnce env name)
          (resolveOnce env' name))
    (apply
      : ∀ entry,
          env.grammar.lookup name = some entry
          → ∀ rule ∈ entry.rules,
              c.Lockstep (c.SameMatch subject pos empty) (applyLeft rule pos)
                (applyRight rule pos))
    : c.Lockstep (c.SameMatch subject pos empty) (callName env applyLeft name pos)
        (callName env' applyRight name pos) := by
  refine .bind resolve fun entry _ same => ?_
  obtain ⟨rfl, found⟩ := same
  cases entry with
  | rule rule => exact apply _ found rule (by simp [Entry.rules])
  | group group =>
      exact dispatch_lockstep group.alternatives .missed
        fun rule member => apply _ found rule member

/-- A call is in lockstep where resolving its name and applying any visible rule are. -/
theorem callName_lockstep_of_visible {env env' : MatchEnv}
    {applyLeft applyRight : Rule → Int → MatchM (Option Match)} {name : Name}
    (resolve
      : c.Lockstep (fun entry entry' =>
          entry = entry' ∧ env.grammar.lookup name = some entry) (resolveOnce env name)
          (resolveOnce env' name))
    (apply
      : ∀ rule ∈ env.grammar.visibleRules,
          c.Lockstep (c.SameMatch subject pos empty) (applyLeft rule pos)
            (applyRight rule pos))
    : c.Lockstep (c.SameMatch subject pos empty) (callName env applyLeft name pos)
        (callName env' applyRight name pos) :=
  callName_lockstep resolve fun entry found rule member =>
    apply rule (Grammar.mem_visibleRules.mpr ⟨name, entry, found, member⟩)

-----------------------------------------------------------------------------------------
-- Answers of rules
-----------------------------------------------------------------------------------------

/-- The node that a rule makes of its body is alike where the body's answer is. -/
theorem ruleMatch_lockstep (rule : Rule) {reached reached'}
    (same : c.SameReached subject pos empty reached reached')
    : c.Lockstep (c.SameMatch subject pos empty) (ruleMatch rule pos reached)
        (ruleMatch rule pos reached') := by
  cases same with
  | missed => exact .pure .missed
  | @reached stop log log' same ahead still =>
      intro s t coupled
      have alike := c.view_ofLog coupled ⟨0, pos, stop, rule.name, rule.tag⟩ same
      exact .ok (.found alike ahead still) (c.counted coupled)

/-- An expression is evaluated alike where the calls that it may make ahead are in lockstep, quiet
or not. It may be so in two rules that try white space alike, unless it matches their tags.
-/
theorem evalBody_lockstep {rule rule' : Rule}
    (sigspace : rule.sigspace = rule'.sigspace) {e : Expr} (tagless : Expr.sym.Part e → rule = rule')
    {scope scope' : Scope}
    (callLeft callRight : Scope → Name → Int → MatchM (Option Match))
    (notes : c.Notes scope scope')
    (ordinary : ∀ fault : Fault, fault.isOfGrammar = true → c.faults fault fault)
    (calls
      : ∀ name q,
          subject.Ahead pos q
          → c.Lockstep (c.SameMatch subject q True) (callLeft scope name q)
              (callRight scope' name q))
    (quietCalls
      : ∀ name q,
          subject.Ahead pos q
          → c.Lockstep (c.SameMatch subject q True)
              (callLeft { scope with quiet := true } name q)
              (callRight { scope' with quiet := true } name q))
    : c.Lockstep (c.SameReached subject pos True)
        (eval ⟨subject, rule, scope, callLeft⟩ e pos)
        (eval ⟨subject, rule', scope', callRight⟩ e pos) := by
  have beside : c.Beside ⟨subject, rule, scope, callLeft⟩ ⟨subject, rule', scope', callRight⟩ :=
    ⟨rfl, sigspace, notes⟩
  have covered : c.Covered ⟨subject, rule, scope, callLeft⟩ ⟨subject, rule', scope', callRight⟩
      True [] pos e := {
    space := fun q ahead _ _ => quietCalls "ws" q ahead
    calls := fun _ q ahead _ =>
      ⟨(calls _ q ahead).mono fun _ _ same => same.mono Or.inl,
        (quietCalls _ q ahead).mono fun _ _ same => same.mono Or.inl⟩
    rule := tagless
    sym := fun _ _ => ordinary _ rfl
    tag := fun _ _ => trivial
    classes := fun _ _ => ordinary _ rfl
  }
  exact (eval_lockstep beside e covered).mono fun _ _ same => same.mono fun _ => trivial

/-- A coupling carries two matchers over one grammar and one subject, from scopes that lie beside
each other: they resolve names, note the failures of one rule and trace side by side, and any fault
of the grammar may end both.
-/
structure Carries (c : Coupling) (env env' : MatchEnv) (beside : Scope → Scope → Prop)
    : Prop where
  subject : env'.subject = env.subject
  enter
    : ∀ {scope scope'} rule pos,
        beside scope scope'
        → beside (scope.enter rule pos) (scope'.enter rule pos)
  hush
    : ∀ {scope scope'},
        beside scope scope'
        → beside { scope with quiet := true } { scope' with quiet := true }
  notes
    : ∀ {scope scope'},
        beside scope scope'
        → scope.innermost = scope'.innermost
        → c.Notes scope scope'
  resolve
    : ∀ name,
        c.Lockstep
          (fun entry entry' => entry = entry' ∧ env.grammar.lookup name = some entry)
          (resolveOnce env name) (resolveOnce env' name)
  traceStart
    : ∀ {scope scope'} rule pos,
        beside scope scope'
        → c.Lockstep (fun _ _ => True) (traceStart env scope rule pos)
            (traceStart env' scope' rule pos)
  traceEnd
    : ∀ {scope scope'} rule pos {m n},
        beside scope scope'
        → c.SameMatch env.subject pos True m n
        → c.Lockstep (fun _ _ => True) (traceEnd env scope rule pos m)
            (traceEnd env' scope' rule pos n)
  ordinary : ∀ fault : Fault, fault.isOfGrammar = true → c.faults fault fault

/-- Scopes that all lie beside themselves may be taken to be the same on both sides. -/
theorem Carries.diagonal {env env' : MatchEnv} {beside : Scope → Scope → Prop}
    (carries : c.Carries env env' beside) (near : ∀ scope, beside scope scope)
    : c.Carries env env' Eq where
  subject := carries.subject
  enter rule pos same := by rw [same]
  hush same := by rw [same]
  notes same := carries.notes (same ▸ near _)
  resolve := carries.resolve
  traceStart rule pos same := carries.traceStart rule pos (same ▸ near _)
  traceEnd rule pos _ _ same := carries.traceEnd rule pos (same ▸ near _)
  ordinary := carries.ordinary

/-- A rule is answered alike where its body is evaluated alike. -/
theorem Carries.answerRule_of_body {env env' : MatchEnv} {beside : Scope → Scope → Prop}
    (carries : c.Carries env env' beside) {scope scope' : Scope} (near : beside scope scope')
    {rule : Rule} {callLeft callRight : Scope → Name → Int → MatchM (Option Match)}
    (body
      : c.Lockstep (c.SameReached env.subject pos empty)
          (eval ⟨env.subject, rule, scope.enter rule pos, callLeft⟩ rule.expr pos)
          (eval ⟨env.subject, rule, scope'.enter rule pos, callRight⟩ rule.expr pos))
    : c.Lockstep (c.SameMatch env.subject pos empty)
        (answerRule env scope rule pos callLeft)
        (answerRule env' scope' rule pos callRight) := by
  unfold RuleGrammar.answerRule
  rw [carries.subject]
  refine .bind (carries.traceStart rule pos near) fun _ _ _ => ?_
  refine .bind body fun _ _ reached => ?_
  refine .bind (ruleMatch_lockstep rule reached) fun m n same => ?_
  refine .bind (carries.traceEnd rule pos near (same.mono fun _ => trivial)) ?_
  exact fun _ _ _ => .pure same

/-- A rule is answered alike where the rules that its body may call ahead, quietly or not, are
applied alike.
-/
theorem Carries.answerRule {env env' : MatchEnv} {beside : Scope → Scope → Prop}
    (carries : c.Carries env env' beside) {scope scope' : Scope} (near : beside scope scope')
    {rule : Rule} {applyLeft applyRight : Scope → Rule → Int → MatchM (Option Match)}
    (apply
      : ∀ inner inner',
          beside inner inner'
          → inner.frames = (scope.enter rule pos).frames
          → inner'.frames = (scope'.enter rule pos).frames
          → ∀ other ∈ env.grammar.visibleRules, ∀ q,
              env.subject.Ahead pos q
              → c.Lockstep (c.SameMatch env.subject q True) (applyLeft inner other q)
                  (applyRight inner' other q))
    : c.Lockstep (c.SameMatch env.subject pos True)
        (answerRule env scope rule pos fun inner => callName env (applyLeft inner))
        (answerRule env' scope' rule pos fun inner => callName env' (applyRight inner)) := by
  have calls inner inner' (nearInner : beside inner inner')
      (frames : inner.frames = (scope.enter rule pos).frames)
      (frames' : inner'.frames = (scope'.enter rule pos).frames) (name : Name) (q : Int)
      (ahead : env.subject.Ahead pos q)
      : c.Lockstep (c.SameMatch env.subject q True) (callName env (applyLeft inner) name q)
          (callName env' (applyRight inner') name q) :=
    callName_lockstep_of_visible (carries.resolve name) fun other visible =>
      apply inner inner' nearInner frames frames' other visible q ahead
  have nearInner := carries.enter rule pos near
  have quietInner := carries.hush nearInner
  exact carries.answerRule_of_body near (evalBody_lockstep rfl (fun _ => rfl)
    (fun inner => callName env (applyLeft inner)) (fun inner => callName env' (applyRight inner))
    (carries.notes nearInner rfl) carries.ordinary (calls _ _ nearInner rfl rfl)
    (calls _ _ quietInner rfl rfl))

/-- A rule is answered alike where its calls are, and those at its own offset only matter for the
names at its left edge and for white space that is unseen there. It stays at its offset only if its
expression is nullable, for a tag that it may match is not empty.
-/
theorem Carries.answerRule_nullable {env : MatchEnv} (carries : c.Carries env env Eq)
    {rule : Rule} (tagged : Expr.sym.Part rule.expr → rule.tag ≠ some [])
    (known : List Name) {callLeft callRight : Scope → Name → Int → MatchM (Option Match)}
    (scope : Scope)
    (space
      : rule.sigspace = true
        → ∀ inner q,
            env.subject.Ahead pos q
            → (q = pos
              → Text.ofString "ws" ∈ rule.expr.leftCalls known rule.sigspace
                ∨ rule.expr.unseenSpace known = true)
            → c.Lockstep (c.SameMatch env.subject q True) (callLeft inner "ws" q)
                (callRight inner "ws" q))
    (calls
      : ∀ {callee capture},
          (Expr.reference callee capture).Part rule.expr
          → ∀ inner q,
              env.subject.Ahead pos q
              → (q = pos → callee ∈ rule.expr.leftCalls known rule.sigspace)
              → c.Lockstep (c.SameMatch env.subject q (callee ∈ known))
                  (callLeft inner callee q) (callRight inner callee q))
    : c.Lockstep (c.SameMatch env.subject pos (rule.expr.nullable known = true))
        (RuleGrammar.answerRule env scope rule pos callLeft)
        (RuleGrammar.answerRule env scope rule pos callRight) := by
  let left : Site := ⟨env.subject, rule, scope.enter rule pos, callLeft⟩
  let right : Site := ⟨env.subject, rule, scope.enter rule pos, callRight⟩
  have beside : c.Beside left right := ⟨rfl, rfl, carries.notes rfl rfl⟩
  have covered : c.Covered left right False known pos rule.expr := {
    space := fun q ahead atEdge sigspace =>
      space sigspace _ q ahead fun here => (atEdge here).resolve_left id
    calls := fun reference q ahead atEdge =>
      have called inner := (calls reference inner q ahead fun here =>
        (atEdge here).resolve_left id).mono fun _ _ same => same.mono Or.inr
      ⟨called _, called _⟩
    rule := fun _ => rfl
    sym := fun _ _ => carries.ordinary _ rfl
    tag := fun sym empty => absurd empty (tagged sym)
    classes := fun _ _ => carries.ordinary _ rfl
  }
  refine carries.answerRule_of_body rfl ?_
  exact (eval_lockstep beside rule.expr covered).mono
    fun _ _ same => same.mono fun stays => stays.resolve_left id

-----------------------------------------------------------------------------------------
-- Matches
-----------------------------------------------------------------------------------------

/-- Matches over one subject judge alike what their calls answer alike. -/
theorem matchFrom_paired (left right : MatchEnv) (subject : left.subject = right.subject)
    (notes : c.Notes {} {}) {values : Outcome → Outcome → Prop} {start : Name} {pos : Int}
    {anchored : Bool} {s t : MatcherState} {empty : Prop}
    (called
      : c.Paired (c.SameMatch left.subject pos empty) (left.call start pos s)
          (right.call start pos t))
    (matched : ∀ m n, c.view m = c.view n → values (.matched m) (.matched n))
    (failed
      : ∀ s t,
          c.states s t
          → values (.failed (.ofFurthest start pos s.furthest))
              (.failed (.ofFurthest start pos t.furthest)))
    : c.Paired values (RuleGrammar.matchFrom left start pos anchored s)
        (RuleGrammar.matchFrom right start pos anchored t) := by
  have reported : c.Lockstep values (do return .failed (.ofFurthest start pos (← get).furthest))
      (do return .failed (.ofFurthest start pos (← get).furthest)) :=
    fun s t coupled => .ok (failed s t coupled) coupled
  refine called.bind fun m n same => ?_
  cases same with
  | missed => exact reported
  | @found m n same _ _ =>
      have stop : m.stop = n.stop := view_stop_eq same
      have complete : isComplete left anchored m = isComplete right anchored n := by
        rw [isComplete, isComplete, stop, subject]
      refine .ite (by rw [complete]) (fun _ => .pure (matched m n same)) fun _ => ?_
      rw [stop]
      exact .bind (notes.expect n.stop "end of input") fun _ _ _ => reported

end Coupling

end RuleGrammar
