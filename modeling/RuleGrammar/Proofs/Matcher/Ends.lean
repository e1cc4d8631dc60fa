import RuleGrammar.Proofs.Matcher.Derivation
import RuleGrammar.Proofs.Matcher.Unguarded

/-! How computations of the matcher end, whatever state they start from: with a value of a kind,
or in a fault that is allowed. What they keep of the memo and of the record is a matter of terms.
The rules follow the steps of a computation.
-/

namespace RuleGrammar

/-- The terms on which a computation is looked at: what it keeps of the memo and of the furthest
failures, whatever texts are expected, and the faults that may end it.
-/
structure Terms where
  keeps : Memo → Furthest → Prop
  allowed : Fault → Prop
  text : ∀ {memo f}, keeps memo f → ∀ rule pos what, keeps memo (f.note (.text rule pos what))

/-- Terms on which nothing has to be kept. -/
def Terms.free (allowed : Fault → Prop) : Terms where
  keeps _ _ := True
  allowed := allowed
  text _ _ _ _ := trivial

/-- A name stands for something, or to ask for it may be a fault. -/
def Terms.Stands (terms : Terms) (g : Grammar) (name : Name) : Prop :=
  (∃ entry, g.lookup name = some entry) ∨ terms.allowed (.grammar (.unknownRule name g.name))

/-- From a state whose names are resolved rightly, a computation gives a value of a kind and keeps
what it has to, or it ends in a fault that is allowed.
-/
def Ends (g : Grammar) (terms : Terms) {α : Type} (m : MatchM α) (holds : α → Prop) : Prop :=
  ∀ s : MatcherState,
    s.Resolves g
    → terms.keeps s.memo s.furthest
    → (∃ a t,
        m s = .ok a t
        ∧ t.Resolves g
        ∧ terms.keeps t.memo t.furthest
        ∧ holds a)
      ∨ ∃ fault t, m s = .error fault t ∧ terms.allowed fault

namespace Ends

variable {g : Grammar} {terms : Terms} {α β : Type}

theorem mono {m : MatchM α} {holds wider : α → Prop} (ends : Ends g terms m holds)
    (weaken : ∀ a, holds a → wider a)
    : Ends g terms m wider := by
  intro s resolves kept
  rcases ends s resolves kept with ⟨a, t, ran, after, kept', value⟩ | stopped
  · exact Or.inl ⟨a, t, ran, after, kept', weaken a value⟩
  · exact Or.inr stopped

theorem pure {holds : α → Prop} {a : α} (value : holds a)
    : Ends g terms (Pure.pure a) holds :=
  fun s resolves kept => Or.inl ⟨a, s, rfl, resolves, kept, value⟩

theorem throw {holds : α → Prop} {fault : Fault} (allowed : terms.allowed fault)
    : Ends g terms (MonadExcept.throw fault) holds :=
  fun s _ _ => Or.inr ⟨fault, s, rfl, allowed⟩

/-- What follows a computation ends well if it does so for every value that it may be given. -/
theorem bind {m : MatchM α} {next : α → MatchM β} {holds : α → Prop} {wider : β → Prop}
    (first : Ends g terms m holds)
    (later : ∀ a, holds a → Ends g terms (next a) wider)
    : Ends g terms (m >>= next) wider := by
  intro s resolves kept
  rcases first s resolves kept with ⟨a, t, ran, after, kept', value⟩ | ⟨fault, t, ran, allowed⟩
  · rw [bind_of_ok ran]
    exact later a value t after kept'
  · exact Or.inr ⟨fault, t, bind_eq_error.mpr (Or.inl ran), allowed⟩

theorem ite {p : Prop} [Decidable p] {m n : MatchM α} {holds : α → Prop}
    (yes : p → Ends g terms m holds) (no : ¬ p → Ends g terms n holds)
    : Ends g terms (if p then m else n) holds := by
  by_cases condition : p
  · rw [if_pos condition]
    exact yes condition
  · rw [if_neg condition]
    exact no condition

-----------------------------------------------------------------------------------------
-- Single steps
-----------------------------------------------------------------------------------------

/-- A computation that leaves the resolved names and the memo as they are ends well where it keeps
up the record.
-/
theorem of_spec {m : MatchM Unit}
    (ended
      : ∀ s,
          terms.keeps s.memo s.furthest
          → ∃ t,
              m s = .ok () t
              ∧ t.resolved = s.resolved
              ∧ t.memo = s.memo
              ∧ terms.keeps s.memo t.furthest)
    : Ends g terms m fun _ => True := by
  intro s resolves kept
  obtain ⟨t, ran, resolved, memo, kept'⟩ := ended s kept
  refine Or.inl ⟨(), t, ran, ?_, memo ▸ kept', trivial⟩
  simpa only [MatcherState.Resolves, resolved] using resolves

theorem expect (scope : Scope) (pos : Int) (what : Text)
    : Ends g terms (MatchM.expect scope pos what) fun _ => True := by
  refine of_spec fun s kept => ?_
  obtain ⟨t, ran, resolved, memo, noted⟩ := expect_spec scope pos what s
  refine ⟨t, ran, resolved, memo, ?_⟩
  rw [noted]
  split
  · exact kept
  · exact terms.text kept _ _ _

/-- A missed goal is noted where that spoils nothing, or not at all. -/
theorem expectGoal (scope : Scope) (pos : Int) (what : Text)
    (goal
      : scope.quiet = false
        → ∀ {memo f},
            terms.keeps memo f
            → terms.keeps memo (f.note (.goal scope.innermost pos what)))
    : Ends g terms (MatchM.expectGoal scope pos what) fun _ => True := by
  refine of_spec fun s kept => ?_
  obtain ⟨t, ran, resolved, memo, noted⟩ := expectGoal_spec scope pos what s
  refine ⟨t, ran, resolved, memo, ?_⟩
  rw [noted]
  split
  · exact kept
  · rename_i loud
    exact goal (Bool.eq_false_iff.mpr loud) kept

theorem freshId : Ends g terms MatchM.freshId fun _ => True :=
  fun s resolves kept => Or.inl ⟨s.nextId, _, rfl, resolves, kept, trivial⟩

theorem traceStart (env : MatchEnv) (scope : Scope) (rule : Rule) (pos : Int)
    : Ends g terms (RuleGrammar.traceStart env scope rule pos) fun _ => True := by
  refine of_spec fun s kept => ?_
  obtain ⟨trace, ran⟩ := traceStart_spec env scope rule pos s
  exact ⟨_, ran, rfl, rfl, kept⟩

theorem traceEnd (env : MatchEnv) (scope : Scope) (rule : Rule) (pos : Int)
    (answer : Option Match)
    : Ends g terms (RuleGrammar.traceEnd env scope rule pos answer) fun _ => True := by
  refine of_spec fun s kept => ?_
  obtain ⟨trace, ran⟩ := traceEnd_spec env scope rule pos answer s
  exact ⟨_, ran, rfl, rfl, kept⟩

theorem resolveOnce {env : MatchEnv} {name : Name} (stands : terms.Stands env.grammar name)
    : Ends env.grammar terms (RuleGrammar.resolveOnce env name) fun entry =>
        env.grammar.lookup name = some entry := by
  intro s resolves kept
  rcases resolveOnce_spec name resolves with ⟨entry, resolved, found, ran, after⟩ | ⟨none, ran⟩
  · exact Or.inl ⟨entry, _, ran, after, kept, found⟩
  · refine Or.inr ⟨_, _, ran, stands.resolve_left fun ⟨entry, found⟩ => ?_⟩
    rw [none] at found
    cases found

theorem resolveOnce_of_lookup {env : MatchEnv} {name : Name} {entry : Entry}
    (stands : env.grammar.lookup name = some entry)
    : Ends env.grammar terms (RuleGrammar.resolveOnce env name) (· = entry) := by
  have resolved := resolveOnce (Or.inl ⟨entry, stands⟩ : terms.Stands env.grammar name)
  exact resolved.mono fun other found => Option.some.inj (found.symm.trans stands)

theorem miss {holds : Option Reached → Prop} (site : Site) (pos : Int) (what : Text)
    (missed : holds none)
    : Ends g terms (site.miss pos what) holds :=
  (expect site.scope pos what).bind fun _ _ => .pure missed

/-- A node that no rule made is, bare, the one without an identity. -/
theorem anonymous (start stop : Int) (log : List Caught)
    : Ends g terms (Site.anonymous start stop log) fun m =>
        m.bare = .unnamed start stop (logThrough Match.bare log) :=
  freshId.bind fun _ _ => .pure (Match.bare_ofLog _ log)

/-- The node that a rule makes is, bare, the one it makes of what is bare. -/
theorem ruleMatch (rule : Rule) (pos : Int) (reached : Option Reached)
    : Ends g terms (RuleGrammar.ruleMatch rule pos reached) fun m =>
        m.map Match.bare = (reached.map Reached.bare).map (rule.node pos) := by
  cases reached with
  | none => exact .pure rfl
  | some r => exact freshId.bind fun _ _ => .pure (congrArg some (Match.bare_ofLog _ r.caught))

-----------------------------------------------------------------------------------------
-- Expressions with at most one part
-----------------------------------------------------------------------------------------

variable {site : Site} {pos : Int}

theorem literal (text : Text)
    : Ends g terms (eval site (.literal text) pos) fun r =>
        r.map Reached.bare
          = if site.subject.holds text pos then some ⟨pos + text.length, []⟩ else none := by
  simp only [eval]
  split
  · exact .pure rfl
  · exact .miss site pos _ rfl

theorem charClass {cls : CharClass} {holds : CodePoint → Bool}
    (compiled : cls.compile = .ok holds)
    : Ends g terms (eval site (.charClass cls) pos) fun r =>
        r.map Reached.bare
          = if (site.subject.at? pos).any holds then some ⟨pos + 1, []⟩ else none := by
  simp only [eval]
  by_cases inside : pos < site.subject.size
  · simp only [inside, if_true, compiled]
    cases site.subject.at? pos with
    | none => exact .miss site pos _ rfl
    | some c =>
        by_cases member : holds c = true
        · simp only [member, if_true]
          exact .pure (by simp [member, Reached.bare])
        · simp only [member, if_false, Bool.false_eq_true]
          exact .miss site pos _ (by simp [member])
  · simp only [inside, if_false]
    exact .miss site pos _ (by simp [Subject.at?, inside])

theorem anyChar
    : Ends g terms (eval site .anyChar pos) fun r =>
        r.map Reached.bare
          = if pos < site.subject.size then some ⟨pos + 1, []⟩ else none := by
  simp only [eval]
  split
  · exact .pure rfl
  · exact .miss site pos _ rfl

theorem anchor (a : Anchor)
    : Ends g terms (eval site (.anchor a) pos) fun r =>
        r.map Reached.bare
          = if a.holdsAt site.subject pos then some ⟨pos, []⟩ else none := by
  simp only [eval]
  cases a with
  | inputStart =>
      simp only [Anchor.holdsAt, decide_eq_true_eq]
      split
      · exact .pure rfl
      · exact .miss site pos _ rfl
  | inputEnd =>
      simp only [Anchor.holdsAt, decide_eq_true_eq]
      split
      · exact .pure rfl
      · exact .miss site pos _ rfl
  | other mark => exact .miss site pos _ rfl

theorem sym {tag : Name} (tagged : site.rule.tag = some tag)
    : Ends g terms (eval site .sym pos) fun r =>
        r.map Reached.bare
          = if site.subject.holds tag pos then
              some ⟨pos + tag.length,
                [.node (some "sym") (.unnamed pos (pos + tag.length) []) false]⟩
            else none := by
  simp only [eval]
  simp only [tagged]
  split
  · refine (anonymous pos (pos + tag.length) []).bind fun m bare => .pure ?_
    simp [Reached.bare, Caught.through, bare]
  · exact .miss site pos _ rfl

/-- A reference gives what the call gives, captured under its name. -/
theorem reference {name : Name} (holds : Option Match → Prop) (capture : Option Name)
    (call : Ends g terms (site.call site.scope name pos) fun m => holds (m.map Match.bare))
    : Ends g terms (eval site (.reference name capture) pos) fun r =>
        ∃ answer,
          holds answer
          ∧ r.map Reached.bare = answer.map fun m =>
              ⟨m.stop, (Expr.capturing capture).map fun name => .node (some name) m false⟩ := by
  simp only [eval]
  refine call.bind fun m called => ?_
  cases m with
  | none => exact .miss site pos _ ⟨none, called, rfl⟩
  | some m =>
      refine .pure ⟨_, called, ?_⟩
      simp [Reached.bare, Function.comp_def, Caught.through]

/-- A lookahead gives its offset where its body gives what it asks for. -/
theorem lookahead {body : Expr} (holds : Option Reached → Prop) (negated : Bool)
    (look
      : Ends g terms (eval site.quiet body pos) fun r => holds (r.map Reached.bare))
    : Ends g terms (eval site (.lookahead body negated) pos) fun r =>
        ∃ answer,
          holds answer
          ∧ r.map Reached.bare
            = if answer.isSome != negated then some ⟨pos, []⟩ else none := by
  simp only [eval]
  refine look.bind fun found looked => ?_
  by_cases asked : (found.isSome != negated) = true
  · simp only [asked, if_true]
    exact .pure ⟨_, looked, by simp [asked, Reached.bare]⟩
  · simp only [asked, if_false, Bool.false_eq_true]
    exact .miss site pos _ ⟨_, looked, by simp [asked]⟩

/-- A capture gives what its body gives, as one node. -/
theorem capture {body : Expr} (holds : Option Reached → Prop) (name : Option Name)
    (inner : Ends g terms (eval site body pos) fun r => holds (r.map Reached.bare))
    : Ends g terms (eval site (.capture body name) pos) fun r =>
        ∃ answer,
          holds answer
          ∧ r.map Reached.bare = answer.map fun r =>
              ⟨r.stop, [.node name (.unnamed pos r.stop r.caught) false]⟩ := by
  simp only [eval]
  refine inner.bind fun r found => ?_
  cases r with
  | none => exact .pure ⟨none, found, rfl⟩
  | some r =>
      refine (anonymous pos r.stop r.caught).bind fun m bare => .pure ⟨_, found, ?_⟩
      simp [Reached.bare, Caught.through, bare]

/-- White space ends where its call says, and is not tried by rules that do not ask for it. -/
theorem skipSpace (holds : Option Match → Prop)
    (call
      : site.rule.sigspace = true
        → Ends g terms (site.call site.quiet.scope "ws" pos) fun m =>
            holds (m.map Match.bare))
    : Ends g terms (site.skipSpace pos) fun stop =>
        (site.rule.sigspace = false ∧ stop = pos)
        ∨ (site.rule.sigspace = true
          ∧ ∃ answer, holds answer ∧ stop = answer.elim pos Match.stop) := by
  unfold Site.skipSpace
  cases asked : site.rule.sigspace with
  | false => exact .pure (Or.inl ⟨rfl, rfl⟩)
  | true =>
      refine (call asked).bind fun m called => ?_
      cases m with
      | none => exact .pure (Or.inr ⟨rfl, none, called, rfl⟩)
      | some m => exact .pure (Or.inr ⟨rfl, _, called, by simp⟩)

-----------------------------------------------------------------------------------------
-- Applications of rules
-----------------------------------------------------------------------------------------

/-- Behind a guard is what is known, or what is done where nothing is. -/
theorem guarded {env : MatchEnv} {scope : Scope} {rule : Rule} {holds : Option Match → Prop}
    {fresh : MatchM (Option Match)}
    (known
      : ∀ memo f answer,
          terms.keeps memo f
          → memo.find? ⟨rule.name, rule.tag, pos⟩ = some answer
          → holds answer)
    (reentered : terms.allowed (.reentered rule.qualified pos))
    (tooDeep : ∀ limit, terms.allowed (.tooDeep limit rule.qualified pos))
    (new : Ends g terms fresh holds)
    : Ends g terms (RuleGrammar.guarded env scope rule pos fresh) holds := by
  have asked : Ends g terms (knownAnswer env ⟨rule.name, rule.tag, pos⟩) fun found =>
      ∀ answer ∈ found, holds answer := by
    refine .ite (fun _ => ?_) fun _ => .pure (by simp)
    exact fun s resolves kept =>
      Or.inl ⟨_, s, rfl, resolves, kept, fun answer found => known _ _ _ kept found⟩
  refine asked.bind fun found each => ?_
  cases found with
  | some answer => exact .pure (each answer rfl)
  | none =>
      refine .ite (fun _ => .throw reentered) fun _ => ?_
      cases env.config.depthReached scope with
      | some limit => exact .throw (tooDeep limit)
      | none => exact new

/-- An answer is kept where that spoils nothing, or not at all. -/
theorem remember {env : MatchEnv} {scope : Scope} {key : Key} {answer : Option Match}
    (insert
      : scope.quiet = false
        → ∀ {memo f}, terms.keeps memo f → terms.keeps (memo.insert key answer) f)
    : Ends g terms (RuleGrammar.remember env scope key answer) fun _ => True := by
  refine .ite (fun kept => ?_) fun _ => .pure trivial
  have loud : scope.quiet = false := by simpa using (Bool.and_eq_true_iff.mp kept).2
  exact fun s resolves kept => Or.inl ⟨_, _, rfl, resolves, insert loud kept, trivial⟩

end Ends

end RuleGrammar
