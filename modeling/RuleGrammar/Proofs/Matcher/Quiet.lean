import RuleGrammar.Proofs.Matcher.Invariants
import RuleGrammar.Proofs.Matcher.Reuse

/-! Quiet matching leaves no trace. However a computation ends, it takes back what it wrote in the
books, whatever these held before; and while a lookahead or white space is around, it neither
remembers an answer nor records a failure.
-/

namespace RuleGrammar

open BookedM (step between quietly)

-----------------------------------------------------------------------------------------
-- Computations that leave no trace
-----------------------------------------------------------------------------------------

/-- The state that a computation leaves, whether it answers or stops in a fault. -/
def BookedM.after {α : Type} (m : BookedM α) (s : BookedState) : BookedState :=
  match m s with
  | .ok _ t => t
  | .error _ t => t

/-- A later state in which everything known, every failure recorded and the books are as before. -/
structure BookedState.Traceless (s t : BookedState) : Prop where
  memo : t.state.memo = s.state.memo
  furthest : t.state.furthest = s.state.furthest
  books : t.books = s.books

/-- A computation of the matcher remembers nothing and records nothing. -/
def Silent {α : Type} (m : MatchM α) : Prop :=
  ∀ memo furthest,
    Maintains (fun s => s.memo = memo ∧ s.furthest = furthest) m fun _ => True

/-- From books that show something, a computation ends with the books as they are. In quiet books
it leaves no other trace either.
-/
structure RestoresIf (shows : Books → Prop) {α : Type} (m : BookedM α) : Prop where
  books : ∀ s : BookedState, shows s.books → (m.after s).books = s.books
  silent : ∀ s : BookedState, shows s.books → 0 < s.books.quiet → s.Traceless (m.after s)

/-- A computation ends with the books as they are, whatever they show. -/
abbrev Restores {α : Type} (m : BookedM α) : Prop :=
  RestoresIf (fun _ => True) m

namespace BookedState.Traceless

variable {s t u : BookedState}

theorem refl (s : BookedState) : s.Traceless s :=
  ⟨rfl, rfl, rfl⟩

theorem trans (first : s.Traceless t) (second : t.Traceless u) : s.Traceless u :=
  ⟨second.memo.trans first.memo, second.furthest.trans first.furthest,
    second.books.trans first.books⟩

end BookedState.Traceless

namespace BookedM

variable {α β : Type}

/-- Two computations in turn leave what the second leaves after the first, or what the first
leaves when it stops.
-/
theorem after_bind (first : BookedM α) (next : α → BookedM β) (s : BookedState)
    : (first >>= next).after s = first.after s
      ∨ ∃ a, (first >>= next).after s = (next a).after (first.after s) := by
  change after (EStateM.bind first next) s = _ ∨ ∃ a, after (EStateM.bind first next) s = _
  unfold after EStateM.bind
  cases first s with
  | ok a t => exact .inr ⟨a, rfl⟩
  | error fault t => exact .inl rfl

theorem traceless_bind {first : BookedM α} {next : α → BookedM β} {s : BookedState}
    (inside : s.Traceless (first.after s))
    (later : ∀ a (t : BookedState), t.Traceless ((next a).after t))
    : s.Traceless ((first >>= next).after s) := by
  rcases after_bind first next s with ends | ⟨a, ends⟩
  · exact ends ▸ inside
  · exact ends ▸ inside.trans (later a _)

theorem after_between (entry exit : Books → Books) (inner : BookedM α) (s : BookedState)
    : (between entry exit inner).after s
      = { inner.after { s with books := entry s.books } with
          books := exit (inner.after { s with books := entry s.books }).books } := by
  unfold after between
  cases inner { s with books := entry s.books } <;> rfl

theorem after_step_books (told : Scope → MatchM α) (s : BookedState)
    : ((step told).after s).books = s.books := by
  unfold after step
  cases told s.books.scope s.state <;> rfl

/-- A silent step leaves no trace. -/
theorem traceless_step {told : Scope → MatchM α} {s : BookedState}
    (silent : Silent (told s.books.scope))
    : s.Traceless ((step told).after s) := by
  have books := after_step_books told s
  unfold after step at books ⊢
  rcases silent s.state.memo s.state.furthest s.state ⟨rfl, rfl⟩ with
    ⟨_, t, ran, ⟨memo, furthest⟩, -⟩ | ⟨_, t, ran, memo, furthest⟩
  all_goals
    rw [ran] at books ⊢
    exact ⟨memo, furthest, books⟩

end BookedM

namespace RestoresIf

variable {shows shows' : Books → Prop} {α β : Type}

theorem pure (a : α) : RestoresIf shows (Pure.pure a : BookedM α) where
  books _ _ := rfl
  silent s _ _ := .refl s

theorem throw (fault : Fault) : RestoresIf shows (MonadExcept.throw fault : BookedM α) where
  books _ _ := rfl
  silent s _ _ := .refl s

theorem of_step {told : Scope → MatchM α}
    (silent : ∀ scope, scope.quiet = true → Silent (told scope))
    : RestoresIf shows (step told) where
  books s _ := BookedM.after_step_books told s
  silent s _ quiet := BookedM.traceless_step (silent _ (by simp [Books.scope]; omega))

theorem bind {first : BookedM α} {next : α → BookedM β} (restores : RestoresIf shows first)
    (later : ∀ a, RestoresIf shows (next a))
    : RestoresIf shows (first >>= next) where
  books s shown := by
    have here := restores.books s shown
    rcases BookedM.after_bind first next s with ends | ⟨a, ends⟩
    · rw [ends, here]
    · rw [ends, (later a).books _ (here ▸ shown), here]
  silent s shown quiet := by
    have here := restores.silent s shown quiet
    rcases BookedM.after_bind first next s with ends | ⟨a, ends⟩
    · exact ends ▸ here
    · exact ends ▸ here.trans ((later a).silent _ (here.books ▸ shown) (here.books ▸ quiet))

theorem ite {p : Prop} [Decidable p] {yes no : BookedM α} (yesRestores : p → RestoresIf shows yes)
    (noRestores : ¬ p → RestoresIf shows no)
    : RestoresIf shows (if p then yes else no) := by
  by_cases holds : p
  · simpa only [holds, if_true] using yesRestores holds
  · simpa only [holds, if_false] using noRestores holds

theorem weaken {m : BookedM α} (restores : RestoresIf shows m)
    (shown : ∀ books, shows' books → shows books)
    : RestoresIf shows' m where
  books s holds := restores.books s (shown s.books holds)
  silent s holds := restores.silent s (shown s.books holds)

/-- What goes on with the state is picked by the books that there are. -/
theorem get {next : BookedState → BookedM α}
    (restores : ∀ s, RestoresIf (fun books => shows books ∧ books = s.books) (next s))
    : RestoresIf shows (MonadState.get >>= next) where
  books s shown := (restores s).books s ⟨shown, rfl⟩
  silent s shown := (restores s).silent s ⟨shown, rfl⟩

/-- Between an entry and its taking back, a computation restores the books with the entry. -/
theorem between {entry exit : Books → Books} {inner : BookedM α}
    (restores : RestoresIf shows' inner)
    (entered : ∀ books, shows books → shows' (entry books))
    (undone : ∀ books, shows books → exit (entry books) = books)
    (loudness : ∀ books : Books, books.quiet ≤ (entry books).quiet)
    : RestoresIf shows (BookedM.between entry exit inner) where
  books s shown := by
    rw [BookedM.after_between, restores.books _ (entered s.books shown)]
    exact undone s.books shown
  silent s shown quiet := by
    have inside := restores.silent ⟨s.state, entry s.books⟩ (entered s.books shown)
      (Nat.lt_of_lt_of_le quiet (loudness s.books))
    rw [BookedM.after_between]
    exact ⟨inside.memo, inside.furthest, inside.books ▸ undone s.books shown⟩

/-- Inside a lookahead or white space a computation leaves no trace, whatever is around. -/
theorem traceless_quietly {inner : BookedM α} (restores : Restores inner)
    (s : BookedState)
    : s.Traceless ((BookedM.quietly inner).after s) := by
  have inside := restores.silent ⟨s.state, s.books.hush⟩ trivial (Nat.succ_pos _)
  rw [BookedM.quietly, BookedM.after_between]
  exact ⟨inside.memo, inside.furthest, inside.books ▸ s.books.unhush_hush⟩

theorem quietly {inner : BookedM α} (restores : Restores inner)
    : Restores (BookedM.quietly inner) where
  books s _ := (restores.traceless_quietly s).books
  silent s _ _ := restores.traceless_quietly s

end RestoresIf

-----------------------------------------------------------------------------------------
-- Silent steps
-----------------------------------------------------------------------------------------

namespace Silent

variable {α : Type} {scope : Scope}

theorem pure (a : α) : Silent (Pure.pure a : MatchM α) :=
  fun _ _ => .pure trivial

theorem bind {β : Type} {first : MatchM α} {next : α → MatchM β} (silent : Silent first)
    (later : ∀ a, Silent (next a))
    : Silent (first >>= next) :=
  fun memo furthest => (silent memo furthest).bind fun a _ => later a memo furthest

theorem freshId : Silent MatchM.freshId :=
  fun _ _ _ kept => .inl ⟨_, _, rfl, kept, trivial⟩

theorem expect (quiet : scope.quiet = true) (pos : Int) (what : Text)
    : Silent (MatchM.expect scope pos what) := by
  unfold MatchM.expect
  rw [if_pos quiet]
  exact .pure ()

theorem expectGoal (quiet : scope.quiet = true) (pos : Int) (what : Text)
    : Silent (MatchM.expectGoal scope pos what) := by
  unfold MatchM.expectGoal
  rw [if_pos quiet]
  exact .pure ()

theorem anonymous (start stop : Int) (log : List Caught)
    : Silent (RuleGrammar.Site.anonymous start stop log) :=
  .bind .freshId fun _ => .pure _

/-- In a quiet scope an expression is evaluated silently if rules are called silently. -/
theorem eval {site : RuleGrammar.Site} (quiet : site.scope.quiet = true)
    (calls : ∀ scope name pos, Silent (site.call scope name pos)) (e : Expr) (pos : Int)
    : Silent (RuleGrammar.eval site e pos) := by
  intro memo furthest
  have upholds : site.Upholds (fun s => s.memo = memo ∧ s.furthest = furthest) fun _ => True := {
    literal := fun _ _ => trivial
    next := fun _ _ => trivial
    fresh := freshId memo furthest
    expect := fun what _ => expect quiet _ what memo furthest
    expectGoal := fun what _ => expectGoal quiet _ what memo furthest
    call := fun name _ _ _ =>
      (calls _ name _ memo furthest).mono fun _ _ _ _ => trivial
  }
  exact (upholds.eval e trivial).mono fun _ _ => trivial

theorem resolveOnce (env : MatchEnv) (name : Name) : Silent (RuleGrammar.resolveOnce env name) := by
  rintro memo furthest s kept
  unfold RuleGrammar.resolveOnce
  rw [MatchM.get_bind]
  cases Layer.lookupIn name s.resolved with
  | some entry => exact .inl ⟨entry, s, rfl, kept, trivial⟩
  | none =>
      cases env.grammar.resolve name with
      | error error => exact .inr ⟨_, s, rfl, kept⟩
      | ok entry => exact .inl ⟨entry, _, rfl, kept, trivial⟩

theorem knownAnswer (env : MatchEnv) (key : Key) : Silent (RuleGrammar.knownAnswer env key) :=
  fun _ _ => .ite (fun _ s kept => .inl ⟨_, s, rfl, kept, trivial⟩) fun _ => .pure trivial

theorem traced (debug : Bool) (line : Text)
    : Silent (if debug then MatchM.traceLine line else Pure.pure ()) :=
  fun _ _ => .ite (fun _ => .modify fun _ => id) fun _ => .pure trivial

theorem ruleMatch (rule : Rule) (pos : Int) (reached : Option Reached)
    : Silent (RuleGrammar.ruleMatch rule pos reached) := by
  cases reached with
  | none => exact .pure none
  | some r => exact .bind .freshId fun _ => .pure _

theorem remember (env : MatchEnv) (quiet : scope.quiet = true) (key : Key) (answer : Option Match)
    : Silent (RuleGrammar.remember env scope key answer) := by
  unfold RuleGrammar.remember
  rw [quiet, Bool.not_true, Bool.and_false]
  exact .pure ()

end Silent

-----------------------------------------------------------------------------------------
-- Evaluation
-----------------------------------------------------------------------------------------

namespace Booked

/-- The calls of a site restore the books, whatever these hold. -/
def Site.Restoring (site : Site) : Prop :=
  ∀ name pos, Restores (site.call name pos)

section Loops

variable {site : Site} {body between : Int → BookedM (Option Reached)}
  {sep : Option (Int → BookedM (Option Reached))}

theorem expect_restores (pos : Int) (what : Text)
    : Restores (step (MatchM.expect · pos what)) :=
  .of_step fun _ quiet => .expect quiet pos what

theorem miss_restores (pos : Int) (what : Text)
    : Restores (Site.miss pos what) :=
  .bind (expect_restores pos what) fun _ => .pure none

theorem anonymous_restores (start stop : Int) (log : List Caught)
    : Restores (Site.anonymous start stop log) :=
  .of_step fun _ _ => .anonymous start stop log

theorem skipSpace_restores (calls : site.Restoring) (pos : Int)
    : Restores (site.skipSpace pos) := by
  refine .ite (fun _ => .bind (calls "ws" pos).quietly fun answer => ?_) fun _ => .pure pos
  cases answer <;> exact .pure _

theorem itemStart_restores (calls : site.Restoring) (first : Bool) (pos : Int)
    : Restores (site.itemStart first pos) :=
  .ite (fun _ => .pure pos) fun _ => skipSpace_restores calls pos

/-- Rounds restore the books where their bodies and what stands between them do, by induction on
the bound.
-/
theorem repeatRounds_restores (rule : Name) (min : Nat) (max : Option Nat)
    (bodies : ∀ pos, Restores (body pos))
    (gaps : ∀ pos, Restores (between pos)) (bound : Nat) (p : Progress)
    : Restores (repeatRounds rule body between min max bound p) := by
  induction bound generalizing p with
  | zero => exact .throw _
  | succ bound ih =>
      have gap : Restores (gapBefore between p) :=
        .ite (fun _ => .pure _) fun _ => gaps p.stop
      refine .ite (fun _ => .bind gap fun gap => ?_) fun _ => .pure p
      cases gap with
      | none => exact .pure p
      | some gap =>
          refine .bind (bodies gap.stop) fun r => ?_
          cases r with
          | none => exact .pure p
          | some r => exact .ite (fun _ => .pure _) fun _ => ih _

theorem betweenRounds_restores (calls : site.Restoring)
    (separators : ∀ f ∈ sep, ∀ pos, Restores (f pos)) (pos : Int)
    : Restores (betweenRounds site sep pos) := by
  refine .bind (skipSpace_restores calls pos) fun start => ?_
  cases sep with
  | none => exact .pure _
  | some separator =>
      refine .bind (separators separator rfl start) fun r => ?_
      cases r with
      | none => exact .pure none
      | some r => exact .bind (skipSpace_restores calls r.stop) fun _ => .pure _

theorem trailingSeparator_restores (calls : site.Restoring)
    (separators : ∀ f ∈ sep, ∀ pos, Restores (f pos)) (trailing : Bool)
    (p : Progress)
    : Restores (trailingSeparator site sep trailing p) := by
  cases sep with
  | none => exact .pure _
  | some separator =>
      refine .ite (fun _ => .bind (skipSpace_restores calls p.stop) fun start => ?_)
        fun _ => .pure _
      refine .bind (separators separator rfl start) fun r => ?_
      cases r <;> exact .pure _

theorem evalRepetition_restores (calls : site.Restoring)
    (bodies : ∀ pos, Restores (body pos))
    (separators : ∀ f ∈ sep, ∀ pos, Restores (f pos)) (min : Nat)
    (max : Option Nat) (trailing : Bool) (names : List Name) (pos : Int)
    : Restores (evalRepetition site body sep min max trailing names pos) := by
  refine .bind (repeatRounds_restores site.rule.name min max bodies
    (betweenRounds_restores calls separators) _ _) fun p => ?_
  refine .bind (trailingSeparator_restores calls separators trailing p) fun last => ?_
  exact .ite (fun _ => .pure none) fun _ => .pure _

theorem evalGoal_restores (calls : site.Restoring) {opener closer : Int → BookedM (Option Reached)}
    (openers : ∀ pos, Restores (opener pos))
    (closers : ∀ pos, Restores (closer pos))
    (bodies : ∀ pos, Restores (body pos)) (closerName : Text) (pos : Int)
    : Restores (evalGoal site opener closer body closerName pos) := by
  refine .bind (openers pos) fun o => ?_
  cases o with
  | none => exact .pure none
  | some o =>
      refine .bind (skipSpace_restores calls o.stop) fun inner => .bind (bodies inner) fun b => ?_
      cases b with
      | none => exact .pure none
      | some b =>
          refine .bind (skipSpace_restores calls b.stop) fun closing => ?_
          refine .bind (closers closing) fun c => ?_
          cases c with
          | none =>
              have missed : Restores
                  (step (MatchM.expectGoal · closing closerName)) :=
                .of_step fun _ quiet => .expectGoal quiet closing closerName
              exact .bind missed fun _ => .pure none
          | some c => exact .pure _

end Loops

/-- What calls no rule is one step, silent in a quiet scope. -/
theorem evalLeaf_restores (site : Site) (leaf : Expr) (pos : Int)
    : Restores (evalLeaf site leaf pos) :=
  .of_step fun _ quiet => .eval quiet (fun _ _ _ => .pure none) leaf pos

variable {site : Site}

mutual

/-- Evaluation restores the books if the calls of rules do, by induction on the expression. -/
theorem eval_restores (calls : site.Restoring) (e : Expr) (pos : Int)
    : Restores (eval site e pos) := by
  cases e with
  | literal text => exact evalLeaf_restores site _ pos
  | charClass cls => exact evalLeaf_restores site _ pos
  | anyChar => exact evalLeaf_restores site _ pos
  | anchor a => exact evalLeaf_restores site _ pos
  | sym => exact evalLeaf_restores site _ pos
  | reference rule capture =>
      refine .bind (calls rule pos) fun answer => ?_
      cases answer with
      | none => exact miss_restores pos _
      | some m => exact .pure _
  | lookahead body negated =>
      refine .bind (eval_restores calls body pos).quietly fun found => ?_
      exact .ite (fun _ => .pure _) fun _ => miss_restores pos _
  | repetition body min max sep trailing =>
      refine evalRepetition_restores calls (eval_restores calls body) (fun f found => ?_) min max
        trailing _ pos
      cases sep with
      | none => cases found
      | some e =>
          cases found
          exact eval_restores calls e
  | sequence items => exact evalItems_restores calls true items pos
  | choice alternatives => exact evalChoice_restores calls alternatives pos
  | longest alternatives => exact evalLongest_restores calls alternatives none pos
  | goal opener closer body =>
      exact evalGoal_restores calls (eval_restores calls opener) (eval_restores calls closer)
        (eval_restores calls body) _ pos
  | capture body name =>
      refine .bind (eval_restores calls body pos) fun r => ?_
      cases r with
      | none => exact .pure none
      | some r => exact .bind (anonymous_restores pos r.stop r.caught) fun _ => .pure _

theorem evalItems_restores (calls : site.Restoring) (first : Bool) (items : List Expr) (pos : Int)
    : Restores (evalItems site first items pos) := by
  cases items with
  | nil => exact .pure _
  | cons e rest =>
      refine .bind (itemStart_restores calls first pos) fun start => ?_
      refine .bind (eval_restores calls e start) fun r => ?_
      cases r with
      | none => exact .pure none
      | some r =>
          refine .bind (evalItems_restores calls false rest r.stop) fun later => ?_
          cases later <;> exact .pure _

theorem evalChoice_restores (calls : site.Restoring) (alternatives : List Expr) (pos : Int)
    : Restores (evalChoice site alternatives pos) := by
  cases alternatives with
  | nil => exact .pure none
  | cons e rest =>
      refine .bind (eval_restores calls e pos) fun r => ?_
      cases r with
      | none => exact evalChoice_restores calls rest pos
      | some r => exact .pure _

theorem evalLongest_restores (calls : site.Restoring) (alternatives : List Expr)
    (best : Option Reached) (pos : Int)
    : Restores (evalLongest site alternatives best pos) := by
  cases alternatives with
  | nil => exact .pure best
  | cons e rest =>
      exact .bind (eval_restores calls e pos) fun r => evalLongest_restores calls rest _ pos

end

-----------------------------------------------------------------------------------------
-- Rule application
-----------------------------------------------------------------------------------------

variable {env : MatchEnv} {apply : Rule → Int → BookedM (Option Match)}

theorem dispatch_restores (applies : ∀ rule pos, Restores (apply rule pos))
    (pos : Int) (rules : List Rule) (best : Option Match)
    : Restores (dispatch apply pos rules best) := by
  induction rules generalizing best with
  | nil => exact .pure best
  | cons rule rest ih => exact .bind (applies rule pos) fun answer => ih _

theorem callName_restores (applies : ∀ rule pos, Restores (apply rule pos))
    (name : Name) (pos : Int)
    : Restores (callName env apply name pos) := by
  refine .bind (.of_step fun _ _ => .resolveOnce env name) fun entry => ?_
  cases entry with
  | rule rule => exact applies rule pos
  | group group => exact dispatch_restores applies pos group.alternatives none

/-- Behind the guard a rule is applied whose key is not among those in progress. -/
theorem guarded_restores {rule : Rule} {pos : Int} {fresh : BookedM (Option Match)}
    (restores
      : RestoresIf (fun books => (⟨rule.name, rule.tag, pos⟩ : Key) ∉ books.active) fresh)
    : Restores (guarded env rule pos fresh) := by
  refine .bind (.of_step fun _ _ => .knownAnswer env _) fun known => ?_
  cases known with
  | some answer => exact .pure answer
  | none =>
      refine .get fun s => .ite (fun _ => .throw _) fun inactive => ?_
      cases env.config.depthReached s.books.scope with
      | some limit => exact .throw _
      | none => exact restores.weaken fun books shown => shown.2 ▸ inactive

/-- Evaluating a rule that is not in progress restores the books: its entry is taken back. -/
theorem evaluateRule_restores {rule : Rule} {pos : Int} {call : Name → Int → BookedM (Option Match)}
    (calls : ∀ name pos, Restores (call name pos))
    : RestoresIf (fun books => (⟨rule.name, rule.tag, pos⟩ : Key) ∉ books.active)
        (evaluateRule env rule pos call) := by
  have sites : Site.Restoring ⟨env.subject, rule, call⟩ := calls
  refine .bind (.of_step fun _ _ => .traced _ _) fun _ => ?_
  refine .bind ((eval_restores sites rule.expr pos).between (fun _ _ => trivial)
    (fun _ inactive => Books.leave_enter inactive) fun _ => Nat.le_refl _) fun reached => ?_
  refine .bind (.of_step fun _ _ => .ruleMatch rule pos reached) fun answer => ?_
  refine .bind (.of_step fun _ _ => .traced _ _) fun _ => ?_
  exact .bind (.of_step fun _ quiet => .remember env quiet _ answer) fun _ => .pure answer

/-- Rule applications restore the books, by induction on the room. -/
theorem applyRule_restores (room : Nat) (rule : Rule) (pos : Int)
    : Restores (applyRule env room rule pos) := by
  induction room generalizing rule pos with
  | zero => exact guarded_restores (.throw _)
  | succ room ih => exact guarded_restores (evaluateRule_restores (callName_restores ih))

-----------------------------------------------------------------------------------------
-- Lookaheads and white space
-----------------------------------------------------------------------------------------

/-- A failure is recorded at most once, and what is known and the books stay as they are. -/
theorem after_miss (pos : Int) (what : Text) (s : BookedState)
    : ((Site.miss pos what).after s).state.memo = s.state.memo
      ∧ ((Site.miss pos what).after s).books = s.books
      ∧ (((Site.miss pos what).after s).state.furthest = s.state.furthest
        ∨ ((Site.miss pos what).after s).state.furthest
          = s.state.furthest.record s.books.scope.innermost pos what) := by
  unfold BookedM.after Site.miss
  simp only [bind, EStateM.bind, step]
  cases quiet : s.books.scope.quiet <;> simp only [MatchM.expect, quiet]
  · exact ⟨rfl, rfl, .inr rfl⟩
  · exact ⟨rfl, rfl, .inl rfl⟩

/-- A lookahead leaves no trace of its body, and at most one failure where it stands. -/
theorem after_lookahead (calls : site.Restoring) (body : Expr) (negated : Bool) (pos : Int)
    (s : BookedState)
    : ((eval site (.lookahead body negated) pos).after s).state.memo = s.state.memo
      ∧ ((eval site (.lookahead body negated) pos).after s).books = s.books
      ∧ (((eval site (.lookahead body negated) pos).after s).state.furthest = s.state.furthest
        ∨ ((eval site (.lookahead body negated) pos).after s).state.furthest
          = s.state.furthest.record s.books.scope.innermost pos
            ((if negated then "not " else "") ++ body.describe)) := by
  have inside := (eval_restores calls body pos).traceless_quietly s
  rcases BookedM.after_bind (quietly (eval site body pos))
      (fun found =>
        if found.isSome != negated then pure (some ⟨pos, []⟩)
        else Site.miss pos ((if negated then "not " else "") ++ body.describe)) s with
    ends | ⟨found, ends⟩
  all_goals rw [eval, ends]
  · exact ⟨inside.memo, inside.books, .inl inside.furthest⟩
  · split
    · exact ⟨inside.memo, inside.books, .inl inside.furthest⟩
    · have missed := after_miss pos ((if negated then "not " else "") ++ body.describe)
        ((quietly (eval site body pos)).after s)
      rw [inside.memo, inside.books, inside.furthest] at missed
      exact missed

/-- White space that is skipped leaves no trace. -/
theorem traceless_skipSpace (calls : site.Restoring) (pos : Int) (s : BookedState)
    : s.Traceless ((site.skipSpace pos).after s) := by
  have inside := (calls "ws" pos).traceless_quietly s
  unfold Site.skipSpace
  split
  · refine BookedM.traceless_bind inside fun answer t => ?_
    cases answer <;> exact .refl t
  · exact .refl s

end Booked

-----------------------------------------------------------------------------------------
-- Quiet evaluation
-----------------------------------------------------------------------------------------

namespace MatchEnv

variable {env : MatchEnv}

/-- The body of a rule with books, with room for so many nested applications. -/
abbrev bookedSite (env : MatchEnv) (room : Nat) (rule : Rule) : Booked.Site :=
  ⟨env.subject, rule, Booked.callName env (Booked.applyRule env room)⟩

/-- Quiet evaluation leaves no trace: from any state in which a lookahead or white space is around,
an expression is evaluated with what is known, the record of failures and the books left as they
were, whether it matches, fails or stops in a fault; the books are left so from any state. Hence a
lookahead adds at most one failure to the record, at its own offset, and skipped white space none.
Where the books are kept, this is how the matcher evaluates in the scope that they show.
-/
theorem eval_traceless (env : MatchEnv) (room : Nat) (rule : Rule) (e : Expr) (pos : Int)
    (s : BookedState)
    : (0 < s.books.quiet → s.Traceless ((Booked.eval (env.bookedSite room rule) e pos).after s))
      ∧ ((Booked.eval (env.bookedSite room rule) e pos).after s).books = s.books
      ∧ (∀ negated,
          let t := (Booked.eval (env.bookedSite room rule) (.lookahead e negated) pos).after s
          t.state.memo = s.state.memo
          ∧ t.books = s.books
          ∧ (t.state.furthest = s.state.furthest
            ∨ t.state.furthest
              = s.state.furthest.record s.books.scope.innermost pos
                ((if negated then "not " else "") ++ e.describe)))
      ∧ s.Traceless (((env.bookedSite room rule).skipSpace pos).after s)
      ∧ (s.books.Kept
          → Booked.eval (env.bookedSite room rule) e pos s
            = step
              (fun scope => eval ⟨env.subject, rule, scope, callWithin env room⟩ e pos) s) := by
  have calls : (env.bookedSite room rule).Restoring :=
    Booked.callName_restores (Booked.applyRule_restores room)
  have restores := Booked.eval_restores calls e pos
  have follows : (env.bookedSite room rule).Calls (callWithin env room) :=
    Booked.callName_follows (Booked.applyRule_follows room)
  exact ⟨restores.silent s trivial, restores.books s trivial,
    fun negated => Booked.after_lookahead calls e negated pos s,
    Booked.traceless_skipSpace calls pos s,
    Booked.eval_follows follows e pos s⟩

/-- A state inside a lookahead of a rule. -/
def hushed : BookedState where
  books := (({} : Books).enter letterRule 7).hush

/-- Inside a lookahead, with another rule in progress, a body that matches a letter and then calls a
name that stands for nothing stops in a fault, and the letter that it matched is not remembered.
-/
theorem eval_traceless_lost
    : 0 < hushed.books.quiet
      ∧ ∃ fault t,
          Booked.eval (lost.bookedSite 3 lostRule) lostRule.expr 0 hushed = .error fault t
          ∧ hushed.Traceless t
          ∧ t.state.memo.find? ⟨"letter", none, 0⟩ = none := by
  have quiet : 0 < hushed.books.quiet := by decide
  obtain ⟨fault, t, ended⟩ : ∃ fault t,
      Booked.eval (lost.bookedSite 3 lostRule) lostRule.expr 0 hushed = .error fault t :=
    ⟨_, _, rfl⟩
  have traceless := (eval_traceless lost 3 lostRule lostRule.expr 0 hushed).1 quiet
  rw [BookedM.after, ended] at traceless
  exact ⟨quiet, fault, t, ended, traceless, traceless.memo ▸ Memo.find?_empty _⟩

end MatchEnv

end RuleGrammar
