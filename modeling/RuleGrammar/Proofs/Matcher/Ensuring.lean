import RuleGrammar.Proofs.Matcher.Ends

/-! What a computation ensures if it answers: names stay resolved rightly, a property of the memo is
kept, and the answer is of some kind. A fault promises nothing, so that a computation that ensures
the impossible never answers.
-/

namespace RuleGrammar.MatchEnv

/-- From states with a property of the memo, the answer of a computation is of some kind and leaves
the property as it is.
-/
def Ensures (env : MatchEnv) (keeps : Memo → Prop) {α : Type} (m : MatchM α) (kind : α → Prop)
    : Prop :=
  ∀ s : MatcherState, s.Resolves env.grammar → keeps s.memo → ∀ a t, m s = .ok a t →
    t.Resolves env.grammar ∧ keeps t.memo ∧ kind a

/-- From states with a property of the memo, a computation never answers. -/
abbrev Unanswered (env : MatchEnv) (keeps : Memo → Prop) {α : Type} (m : MatchM α) : Prop :=
  env.Ensures keeps m fun _ => False

/-- The body of a rule as it is evaluated when the rule is applied in a scope, with room for the
applications inside.
-/
abbrev evalBody (env : MatchEnv) (room : Nat) (scope : Scope) (rule : Rule) (pos : Int)
    : MatchM (Option Reached) :=
  eval ⟨env.subject, rule, scope.enter rule pos, callWithin env room⟩ rule.expr pos

/-- What a rule answers is the node of what its body reaches, if it reaches anything; before it the
trace may get a line.
-/
theorem exists_body_of_answerRule {env : MatchEnv} {scope : Scope} {rule : Rule} {pos : Int}
    {call : Scope → Name → Int → MatchM (Option Match)} {s t : MatcherState} {answer : Option Match}
    (ended : answerRule env scope rule pos call s = .ok answer t)
    : ∃ s' reached t',
        traceStart env scope rule pos s = .ok () s'
        ∧ eval ⟨env.subject, rule, scope.enter rule pos, call⟩ rule.expr pos s' = .ok reached t'
        ∧ answer
          = reached.map fun r =>
              .ofLog ⟨t'.nextId, pos, r.stop, rule.name, rule.tag⟩ r.caught := by
  obtain ⟨_, s', started, ended⟩ := bind_eq_ok.mp ended
  obtain ⟨reached, t', ran, ended⟩ := bind_eq_ok.mp ended
  obtain ⟨made, _, matched, ended⟩ := bind_eq_ok.mp ended
  obtain ⟨_, _, -, ended⟩ := bind_eq_ok.mp ended
  cases ended
  refine ⟨s', reached, t', started, ran, ?_⟩
  cases reached <;> cases matched <;> rfl

namespace Ensures

variable {env : MatchEnv} {keeps : Memo → Prop} {α β : Type} {kind : α → Prop}

/-- Terms on which a property of the memo is kept and all faults are allowed. -/
abbrev terms (keeps : Memo → Prop) : Terms where
  keeps memo _ := keeps memo
  allowed _ := True
  text kept _ _ _ := kept

/-- What a computation ensures is how it ends, if it may end in any fault. -/
theorem iff_ends {m : MatchM α}
    : env.Ensures keeps m kind ↔ Ends env.grammar (terms keeps) m kind := by
  refine ⟨fun ensures s resolves kept => ?_, fun ends s resolves kept a t ran => ?_⟩
  · cases ran : m s with
    | ok a t => exact Or.inl ⟨a, t, rfl, ensures s resolves kept a t ran⟩
    | error fault t => exact Or.inr ⟨fault, t, rfl, trivial⟩
  · rcases ends s resolves kept with ⟨_, _, ran', after⟩ | ⟨_, _, stopped, -⟩
    · cases ran.symm.trans ran'
      exact after
    · cases ran.symm.trans stopped

theorem pure {a : α} (value : kind a) : env.Ensures keeps (Pure.pure a) kind :=
  iff_ends.mpr (.pure value)

theorem throw (fault : Fault) : env.Ensures keeps (MonadExcept.throw fault) kind :=
  iff_ends.mpr (.throw trivial)

theorem mono {m : MatchM α} {wider : α → Prop} (ensures : env.Ensures keeps m kind)
    (weaken : ∀ a, kind a → wider a)
    : env.Ensures keeps m wider :=
  iff_ends.mpr ((iff_ends.mp ensures).mono weaken)

theorem bind {m : MatchM α} {next : α → MatchM β} {wider : β → Prop}
    (first : env.Ensures keeps m kind) (then_ : ∀ a, kind a → env.Ensures keeps (next a) wider)
    : env.Ensures keeps (m >>= next) wider :=
  iff_ends.mpr ((iff_ends.mp first).bind fun a value => iff_ends.mp (then_ a value))

theorem ite {p : Prop} [Decidable p] {m n : MatchM α} (yes : p → env.Ensures keeps m kind)
    (no : ¬ p → env.Ensures keeps n kind)
    : env.Ensures keeps (if p then m else n) kind :=
  iff_ends.mpr (.ite (fun holds => iff_ends.mp (yes holds)) fun fails => iff_ends.mp (no fails))

/-- What goes with itself in one run keeps what the run does, and its value goes with itself. -/
theorem of_oneRun {allowed excused : Fault → Prop} {m : MatchM α} {values : α → α → Prop}
    (lockstep : (env.oneRun keeps allowed excused).Lockstep values m m)
    : env.Ensures keeps m fun a => values a a := by
  intro s resolves kept a t ran
  have paired := lockstep s s ⟨rfl, resolves, kept⟩
  rw [ran] at paired
  cases paired with
  | ok value kept => exact ⟨kept.2.1, kept.2.2, value⟩

theorem of_lockstep {m : MatchM α} {values : α → α → Prop}
    (lockstep : (env.oneRun keeps (fun _ => True) fun _ => True).Lockstep values m m)
    : env.Ensures keeps m fun _ => True :=
  (of_oneRun lockstep).mono fun _ _ => trivial

/-- One run in which all faults are excused carries a matcher beside itself. -/
theorem carries (env : MatchEnv) (keeps : Memo → Prop)
    : (env.oneRun keeps (fun _ => True) fun _ => True).Carries env env Eq :=
  env.oneRun_carries keeps _ fun _ _ => trivial

theorem miss (site : Site) (pos : Int) (what : Text)
    : env.Ensures keeps (site.miss pos what) fun r => r = none :=
  iff_ends.mpr (.miss site pos what rfl)

/-- A name is resolved to what stands under it. -/
theorem resolveOnce {name : Name} {entry : Entry} (stands : env.grammar.lookup name = some entry)
    : env.Ensures keeps (RuleGrammar.resolveOnce env name) fun found => found = entry :=
  iff_ends.mpr (.resolveOnce_of_lookup stands)

-----------------------------------------------------------------------------------------
-- Calls
-----------------------------------------------------------------------------------------

section Calls

variable {apply : Rule → Int → MatchM (Option Match)} {pos : Int} {name : Name}

/-- Calling the name of a rule is applying the rule. -/
theorem callName_rule {rule : Rule} {kind : Option Match → Prop}
    (stands : env.grammar.lookup name = some (.rule rule))
    (applied : env.Ensures keeps (apply rule pos) kind)
    : env.Ensures keeps (callName env apply name pos) kind := by
  refine .bind (resolveOnce stands) fun entry same => ?_
  rw [same]
  exact applied

/-- Dispatch never answers if one alternative does not and those before it keep what it needs for
that. Induction on those.
-/
theorem dispatch_stuck {before after : List Rule} {rule : Rule}
    (kept : ∀ other ∈ before, env.Ensures keeps (apply other pos) fun _ => True)
    (stuck : env.Unanswered keeps (apply rule pos)) (best : Option Match)
    : env.Unanswered keeps (dispatch apply pos (before ++ rule :: after) best) := by
  induction before generalizing best with
  | nil => exact .bind stuck fun _ impossible => impossible.elim
  | cons first rest ih =>
      obtain ⟨keptFirst, keptRest⟩ := List.forall_mem_cons.mp kept
      exact .bind keptFirst fun answer _ => ih keptRest (furtherMatch best answer)

theorem callName_stuck {group : ProtoGroup} {before after : List Rule} {rule : Rule}
    (stands : env.grammar.lookup name = some (.group group))
    (split : group.alternatives = before ++ rule :: after)
    (kept : ∀ other ∈ before, env.Ensures keeps (apply other pos) fun _ => True)
    (stuck : env.Unanswered keeps (apply rule pos))
    : env.Unanswered keeps (callName env apply name pos) := by
  refine .bind (resolveOnce stands) fun entry same => ?_
  rw [same]
  simp only [split]
  exact dispatch_stuck kept stuck none

end Calls

-----------------------------------------------------------------------------------------
-- Expressions
-----------------------------------------------------------------------------------------

section Expressions

variable {site : Site} {pos : Int}

/-- A body without calls keeps any property of the memo. -/
theorem of_callFree {e : Expr} (spaceless : site.rule.sigspace = false) (free : e.CallFree)
    : env.Ensures keeps (eval site e pos) fun _ => True := by
  let c := env.oneRun keeps (fun _ => True) fun _ => True
  have beside : c.Beside site site := ⟨rfl, rfl, (carries env keeps).notes rfl rfl⟩
  have covered : c.Covered site site True [] pos e := {
    space := fun _ _ _ spaced => by
      rw [spaceless] at spaced
      cases spaced
    calls := fun reference => absurd reference (free _ _)
    rule := fun _ => rfl
    sym := fun _ _ => ⟨rfl, trivial⟩
    tag := fun _ _ => trivial
    classes := fun _ _ => ⟨rfl, trivial⟩
  }
  exact of_lockstep (Coupling.eval_lockstep beside e covered)

theorem literal (text : Text)
    : env.Ensures keeps (eval site (.literal text) pos) fun r =>
        r = if site.subject.holds text pos then some ⟨pos + text.length, []⟩ else none := by
  simp only [eval]
  refine .ite (fun holds => .pure (if_pos holds).symm) fun misses => ?_
  exact (miss site pos text.quoted).mono fun r none => none.trans (if_neg misses).symm

/-- A class misses a code point that it does not hold, or is at fault. -/
theorem charClass_missed {cls : CharClass} {c : CodePoint}
    (here : site.subject.at? pos = some c)
    (out : ∀ holds, cls.compile = .ok holds → holds c = false)
    : env.Ensures keeps (eval site (.charClass cls) pos) fun r => r = none := by
  simp only [eval]
  refine .ite (fun _ => ?_) fun _ => miss site pos cls.pattern
  cases compiled : cls.compile with
  | error fault => exact .throw _
  | ok holds =>
      simp only [here, out holds compiled]
      exact miss site pos cls.pattern

theorem reference {name : Name} {capture : Option Name} {kind : Option Match → Prop}
    (called : env.Ensures keeps (site.call site.scope name pos) kind)
    : env.Ensures keeps (eval site (.reference name capture) pos) fun r =>
        ∃ m, kind m ∧ m.isSome = r.isSome := by
  simp only [eval]
  refine .bind called fun m value => ?_
  cases m with
  | none => exact (miss site pos _).mono fun r missed => ⟨none, value, by rw [missed]; rfl⟩
  | some m => exact .pure ⟨some m, value, rfl⟩

theorem reference_stuck {name : Name} {capture : Option Name}
    (called : env.Unanswered keeps (site.call site.scope name pos))
    : env.Unanswered keeps (eval site (.reference name capture) pos) :=
  (reference called).mono fun _ found => found.elim fun _ impossible => impossible.1

/-- White space that is empty is skipped to where it started. -/
theorem skipSpace
    (called
      : env.Ensures keeps (site.call site.quiet.scope "ws" pos) fun m => ∀ n ∈ m, n.stop = pos)
    : env.Ensures keeps (site.skipSpace pos) fun stop => stop = pos := by
  unfold Site.skipSpace
  refine .ite (fun _ => .bind called fun m empty => ?_) fun _ => .pure rfl
  cases m with
  | none => exact .pure rfl
  | some m => exact .pure (empty m rfl)

variable {opener closer body : Int → MatchM (Option Reached)} {closerName : Text}

theorem goal_missed (opened : env.Ensures keeps (opener pos) fun r => r = none)
    : env.Ensures keeps (evalGoal site opener closer body closerName pos) fun r => r = none := by
  refine .bind opened fun r missed => ?_
  rw [missed]
  exact .pure rfl

/-- A goal never answers if its body does not where the opener and white space lead. -/
theorem goal_stuck {o : Reached} {start : Int}
    (opened : env.Ensures keeps (opener pos) fun r => r = some o)
    (space : env.Ensures keeps (site.skipSpace o.stop) fun stop => stop = start)
    (stuck : env.Unanswered keeps (body start))
    : env.Unanswered keeps (evalGoal site opener closer body closerName pos) := by
  refine .bind opened fun r same => ?_
  rw [same]
  refine .bind space fun stop same => ?_
  rw [same]
  exact .bind stuck fun _ impossible => impossible.elim

theorem inputStart
    : env.Ensures keeps (eval site (.anchor .inputStart) 0) fun r => r = some ⟨0, []⟩ := by
  simp only [eval, if_true]
  exact .pure rfl

section Items

variable {e : Expr} {items : List Expr}

/-- A sequence never answers if the rest of it does not where its first item leads. -/
theorem items_stuck_later {r : Reached}
    (read : env.Ensures keeps (eval site e pos) fun answer => answer = some r)
    (stuck : env.Unanswered keeps (evalItems site false items r.stop))
    : env.Unanswered keeps (evalItems site true (e :: items) pos) := by
  simp only [evalItems, Site.itemStart, if_true, pure_bind]
  refine .bind read fun answer same => ?_
  rw [same]
  exact .bind stuck fun _ impossible => impossible.elim

/-- Past its first item, a sequence never answers if the next one does not behind white space. -/
theorem items_stuck {start : Int}
    (space : env.Ensures keeps (site.skipSpace pos) fun stop => stop = start)
    (stuck : env.Unanswered keeps (eval site e start))
    : env.Unanswered keeps (evalItems site false (e :: items) pos) := by
  simp only [evalItems, Site.itemStart, Bool.false_eq_true, if_false]
  refine .bind space fun stop same => ?_
  rw [same]
  exact .bind stuck fun _ impossible => impossible.elim

end Items

/-- A choice never answers if an alternative does not and those before it are missed. Induction on
those.
-/
theorem choice_stuck (before : List Expr) {after : List Expr} {e : Expr}
    (missed : ∀ other ∈ before, env.Ensures keeps (eval site other pos) fun r => r = none)
    (stuck : env.Unanswered keeps (eval site e pos))
    : env.Unanswered keeps (evalChoice site (before ++ e :: after) pos) := by
  induction before with
  | nil =>
      simp only [List.nil_append, evalChoice]
      exact .bind stuck fun _ impossible => impossible.elim
  | cons other rest ih =>
      obtain ⟨here, later⟩ := List.forall_mem_cons.mp missed
      simp only [List.cons_append, evalChoice]
      refine .bind here fun r none => ?_
      rw [none]
      exact ih later

variable {sep : Option (Int → MatchM (Option Reached))} {min : Nat} {max : Option Nat}
  {trailing : Bool} {names : List Name}

theorem gapBefore_first (between : Int → MatchM (Option Reached))
    : env.Ensures keeps (gapBefore between ⟨pos, 0, []⟩) fun gap => gap = some ⟨pos, []⟩ :=
  .pure rfl

/-- A repetition never answers if its first round does not. -/
theorem repetition_stuck (below : belowMax max 0 = true) (stuck : env.Unanswered keeps (body pos))
    : env.Unanswered keeps (evalRepetition site body sep min max trailing names pos) := by
  have rounds (bound : Nat) : env.Unanswered keeps
      (repeatRounds site.rule.name body (betweenRounds site sep) min max (bound + 1)
        ⟨pos, 0, []⟩) := by
    rw [repeatRounds, if_pos below]
    refine .bind (gapBefore_first _) fun gap same => ?_
    rw [same]
    exact .bind stuck fun _ impossible => impossible.elim
  exact .bind (rounds _) fun _ impossible => impossible.elim

/-- A repetition whose body misses at once stays where it is. -/
theorem repetition_missed (missed : env.Ensures keeps (body pos) fun r => r = none)
    : env.Ensures keeps (evalRepetition site body none 0 max trailing names pos) fun r =>
        r.map Reached.stop = some pos := by
  have rounds (bound : Nat) : env.Ensures keeps
      (repeatRounds site.rule.name body (betweenRounds site none) 0 max (bound + 1) ⟨pos, 0, []⟩)
      fun p => p = ⟨pos, 0, []⟩ := by
    rw [repeatRounds]
    refine .ite (fun _ => .bind (gapBefore_first _) fun gap same => ?_) fun _ => .pure rfl
    rw [same]
    refine .bind missed fun r none => ?_
    rw [none]
    exact .pure rfl
  refine .bind (rounds _) fun p same => ?_
  rw [same]
  exact .pure rfl

end Expressions

-----------------------------------------------------------------------------------------
-- Applications
-----------------------------------------------------------------------------------------

section Applications

variable {scope : Scope} {rule : Rule} {pos : Int} {kind : Option Match → Prop}

/-- A guarded application answers what is known, or what it comes to. -/
theorem guarded {fresh : MatchM (Option Match)}
    (known
      : ∀ memo answer,
          keeps memo
          → memo.find? ⟨rule.name, rule.tag, pos⟩ = some answer
          → kind answer)
    (new : env.Ensures keeps fresh kind)
    : env.Ensures keeps (RuleGrammar.guarded env scope rule pos fresh) kind :=
  iff_ends.mpr
    (.guarded (fun memo _ => known memo) trivial (fun _ => trivial) (iff_ends.mp new))

/-- The node of what a body reached stops where the body did. -/
theorem ruleMatch (reached : Option Reached)
    : env.Ensures keeps (RuleGrammar.ruleMatch rule pos reached) fun m =>
        m.map Match.stop = reached.map Reached.stop := by
  cases reached with
  | none => exact .pure rfl
  | some r =>
      rintro s resolves kept _ _ ⟨⟩
      exact ⟨resolves, kept, rfl⟩

theorem traceEnd (answer : Option Match)
    : env.Ensures keeps (RuleGrammar.traceEnd env scope rule pos answer) fun _ => True :=
  iff_ends.mpr (.traceEnd env scope rule pos answer)

theorem remember {key : Key} {answer : Option Match}
    (insert : scope.quiet = true ∨ ∀ memo, keeps memo → keeps (memo.insert key answer))
    : env.Ensures keeps (RuleGrammar.remember env scope key answer) fun _ => True := by
  refine iff_ends.mpr (.remember fun loud _ _ => ?_)
  exact insert.resolve_left (Bool.not_eq_true _ ▸ loud) _

/-- An application answers what is known, or the node of what its body reaches, which is kept unless
in a quiet scope. Without room there is no answer.
-/
theorem applyRule {room : Nat} {reaches : Option Reached → Prop}
    (known
      : ∀ memo answer,
          keeps memo
          → memo.find? ⟨rule.name, rule.tag, pos⟩ = some answer
          → kind answer)
    (body
      : ∀ less,
          room = less + 1
          → env.Ensures keeps (env.evalBody less scope rule pos) reaches)
    (node
      : ∀ r (m : Option Match),
          reaches r
          → m.map Match.stop = r.map Reached.stop
          → kind m)
    (insert
      : ∀ r (m : Option Match),
          reaches r
          → m.map Match.stop = r.map Reached.stop
          → scope.quiet = true
            ∨ ∀ memo, keeps memo → keeps (memo.insert ⟨rule.name, rule.tag, pos⟩ m))
    : env.Ensures keeps (RuleGrammar.applyRule env room scope rule pos) kind := by
  cases room with
  | zero => exact guarded known (.throw _)
  | succ less =>
      have answered : env.Ensures keeps
          (answerRule env scope rule pos fun inner =>
            callName env (RuleGrammar.applyRule env less inner))
          fun m => ∃ r, reaches r ∧ m.map Match.stop = r.map Reached.stop := by
        refine .bind (of_lockstep ((carries env keeps).traceStart rule pos rfl)) fun _ _ => ?_
        refine .bind (body less rfl) fun r reached => ?_
        refine .bind (ruleMatch r) fun m same => ?_
        exact .bind (traceEnd m) fun _ _ => .pure ⟨r, reached, same⟩
      refine guarded known (.bind answered fun m found => ?_)
      obtain ⟨r, reached, same⟩ := found
      exact .bind (remember (insert r m reached same)) fun _ _ => .pure (node r m reached same)

/-- An application whose answer is not known never answers if its body does not. -/
theorem applyRule_stuck {room : Nat}
    (unknown : ∀ memo, keeps memo → memo.find? ⟨rule.name, rule.tag, pos⟩ = none)
    (body
      : ∀ less,
          room = less + 1
          → env.Unanswered keeps (env.evalBody less scope rule pos))
    : env.Unanswered keeps (RuleGrammar.applyRule env room scope rule pos) := by
  refine applyRule (fun memo answer kept found => ?_) body (fun _ _ impossible _ => impossible)
    fun _ _ impossible => impossible.elim
  rw [unknown memo kept] at found
  cases found

end Applications

end Ensures

end RuleGrammar.MatchEnv
