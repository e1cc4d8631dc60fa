import RuleGrammar.Proofs.Matcher.Books

/-! The books are kept. With its books in the state the matcher does what it does when scopes are
handed down, and however a computation ends, it leaves the books as it found them.
-/

namespace RuleGrammar

open BookedM (step between quietly)

-----------------------------------------------------------------------------------------
-- Computations that follow the books
-----------------------------------------------------------------------------------------

/-- The keys in progress are those of the stack. -/
def Books.Kept (books : Books) : Prop :=
  ∀ key, key ∈ books.active ↔ key ∈ books.stack.map Frame.key

/-- The keys in progress are those of the stack, and a rule is not in progress at an offset. -/
def Books.KeptWithout (rule : Rule) (pos : Int) (books : Books) : Prop :=
  books.Kept ∧ ⟨rule.name, rule.tag, pos⟩ ∉ books.active

/-- From books that show something, a computation with books does what another one does in the scope
that they show, and leaves them as they are.
-/
def Follows (shows : Books → Prop) {α : Type} (booked : BookedM α) (told : Scope → MatchM α)
    : Prop :=
  ∀ s : BookedState, shows s.books → booked s = step told s

namespace Books

variable {books : Books}

theorem kept_empty : Kept {} := by
  intro key
  simp

theorem Kept.hush (kept : books.Kept) : books.hush.Kept :=
  kept

theorem scope_hush (books : Books) : books.hush.scope = { books.scope with quiet := true } := by
  simp [scope, Books.hush]

theorem unhush_hush (books : Books) : books.hush.unhush = books := rfl

theorem Kept.enter (kept : books.Kept) (rule : Rule) (pos : Int) : (books.enter rule pos).Kept := by
  intro key
  simp only [Books.enter, List.mem_insert_iff, List.map_cons, List.mem_cons, kept key]
  rfl

theorem scope_enter (books : Books) (rule : Rule) (pos : Int)
    : (books.enter rule pos).scope = books.scope.enter rule pos := rfl

/-- What was not in progress is taken back without a trace. -/
theorem leave_enter {rule : Rule} {pos : Int}
    (inactive : (⟨rule.name, rule.tag, pos⟩ : Key) ∉ books.active)
    : (books.enter rule pos).leave rule pos = books := by
  simp [Books.enter, Books.leave, List.insert_of_not_mem inactive]

theorem Kept.isActive_iff (kept : books.Kept) (key : Key)
    : books.scope.isActive key = true ↔ key ∈ books.active := by
  simp [scope, Scope.isActive, kept key]

end Books

namespace Follows

variable {shows shows' : Books → Prop} {α β : Type}

theorem pure (a : α) : Follows shows (Pure.pure a) fun _ => Pure.pure a :=
  fun _ _ => rfl

theorem throw (fault : Fault)
    : Follows shows (MonadExcept.throw fault : BookedM α) fun _ => MonadExcept.throw fault :=
  fun _ _ => rfl

theorem of_step (told : Scope → MatchM α) : Follows shows (step told) told :=
  fun _ _ => rfl

theorem bind {first : BookedM α} {told : Scope → MatchM α} {next : α → BookedM β}
    {toldNext : α → Scope → MatchM β} (follows : Follows shows first told)
    (then_ : ∀ a, Follows shows (next a) (toldNext a))
    : Follows shows (first >>= next) fun scope => told scope >>= fun a => toldNext a scope := by
  intro s shown
  simp only [Bind.bind, EStateM.bind, follows s shown, step]
  cases told s.books.scope s.state with
  | error fault state => rfl
  | ok a state => exact then_ a { s with state } shown

theorem ite {p : Prop} [Decidable p] {yes no : BookedM α} {toldYes toldNo : Scope → MatchM α}
    (follows : p → Follows shows yes toldYes) (follows' : ¬ p → Follows shows no toldNo)
    : Follows shows (if p then yes else no) fun scope =>
        if p then toldYes scope else toldNo scope := by
  by_cases holds : p
  · simpa only [holds, if_true] using follows holds
  · simpa only [holds, if_false] using follows' holds

/-- Between an entry and its taking back, a computation follows the books with the entry. -/
theorem between {entry exit : Books → Books} {change : Scope → Scope} {inner : BookedM α}
    {told : Scope → MatchM α} (follows : Follows shows' inner told)
    (entered : ∀ books, shows books → shows' (entry books))
    (changed : ∀ books : Books, shows books → (entry books).scope = change books.scope)
    (undone : ∀ books, shows books → exit (entry books) = books)
    : Follows shows (BookedM.between entry exit inner) fun scope => told (change scope) := by
  intro s shown
  have inside := follows ⟨s.state, entry s.books⟩ (entered s.books shown)
  simp only [BookedM.between, inside, step, changed s.books shown]
  cases told (change s.books.scope) s.state with
  | error fault state => simp only [undone s.books shown]
  | ok a state => simp only [undone s.books shown]

theorem quietly {inner : BookedM α} {told : Scope → MatchM α}
    (follows : Follows Books.Kept inner told)
    : Follows Books.Kept (BookedM.quietly inner) fun scope => told { scope with quiet := true } :=
  follows.between (fun _ kept => kept.hush) (fun books _ => books.scope_hush)
    fun books _ => books.unhush_hush

end Follows

-----------------------------------------------------------------------------------------
-- Evaluation
-----------------------------------------------------------------------------------------

namespace Booked

/-- The site that a scope makes of one with books, with calls that are told the scope. -/
def Site.told (site : Site) (call : Scope → Name → Int → MatchM (Option Match)) (scope : Scope)
    : RuleGrammar.Site :=
  ⟨site.subject, site.rule, scope, call⟩

/-- The calls of a site follow the books. -/
def Site.Calls (site : Site) (call : Scope → Name → Int → MatchM (Option Match)) : Prop :=
  ∀ name pos, Follows Books.Kept (site.call name pos) fun scope => call scope name pos

section Loops

variable {site : Site} {call : Scope → Name → Int → MatchM (Option Match)}
  {body between : Int → BookedM (Option Reached)}
  {bodyTold betweenTold : Scope → Int → MatchM (Option Reached)}

theorem miss_follows (site : Site) (pos : Int) (what : Text)
    : Follows Books.Kept (Site.miss pos what) fun scope => (site.told call scope).miss pos what :=
  .bind (.of_step (MatchM.expect · pos what)) fun _ => .pure none

theorem anonymous_follows (start stop : Int) (log : List Caught)
    : Follows Books.Kept (Site.anonymous start stop log) fun _ =>
        RuleGrammar.Site.anonymous start stop log :=
  .of_step _

theorem skipSpace_follows (calls : site.Calls call) (pos : Int)
    : Follows Books.Kept (site.skipSpace pos) fun scope =>
        (site.told call scope).skipSpace pos := by
  refine .ite (fun _ => .bind (calls "ws" pos).quietly fun answer => ?_) fun _ => .pure pos
  cases answer <;> exact .pure _

theorem itemStart_follows (calls : site.Calls call) (first : Bool) (pos : Int)
    : Follows Books.Kept (site.itemStart first pos) fun scope =>
        (site.told call scope).itemStart first pos :=
  .ite (fun _ => .pure pos) fun _ => skipSpace_follows calls pos

theorem gapBefore_follows
    (follows : ∀ pos, Follows Books.Kept (between pos) fun scope => betweenTold scope pos)
    (p : Progress)
    : Follows Books.Kept (gapBefore between p) fun scope =>
        RuleGrammar.gapBefore (betweenTold scope) p :=
  .ite (fun _ => .pure _) fun _ => follows p.stop

/-- Rounds follow the books where their bodies and what stands between them do, by induction on the
bound.
-/
theorem repeatRounds_follows (rule : Name) (min : Nat) (max : Option Nat)
    (bodies : ∀ pos, Follows Books.Kept (body pos) fun scope => bodyTold scope pos)
    (gaps : ∀ pos, Follows Books.Kept (between pos) fun scope => betweenTold scope pos)
    (bound : Nat) (p : Progress)
    : Follows Books.Kept (repeatRounds rule body between min max bound p) fun scope =>
        RuleGrammar.repeatRounds rule (bodyTold scope) (betweenTold scope) min max bound p := by
  induction bound generalizing p with
  | zero => exact .throw _
  | succ bound ih =>
      refine .ite (fun _ => .bind (gapBefore_follows gaps p) fun gap => ?_) fun _ => .pure p
      cases gap with
      | none => exact .pure p
      | some gap =>
          refine .bind (bodies gap.stop) fun r => ?_
          cases r with
          | none => exact .pure p
          | some r => exact .ite (fun _ => .pure _) fun _ => ih _

/-- A separator follows the books if there is one. -/
inductive SeparatorFollows
    : Option (Int → BookedM (Option Reached))
      → (Scope → Option (Int → MatchM (Option Reached)))
      → Prop
  | absent : SeparatorFollows none fun _ => none
  | present {booked : Int → BookedM (Option Reached)}
    {told : Scope → Int → MatchM (Option Reached)}
    (follows : ∀ pos, Follows Books.Kept (booked pos) fun scope => told scope pos)
    : SeparatorFollows (some booked) fun scope => some (told scope)

variable {sep : Option (Int → BookedM (Option Reached))}
  {sepTold : Scope → Option (Int → MatchM (Option Reached))}

theorem betweenRounds_follows (calls : site.Calls call) (follows : SeparatorFollows sep sepTold)
    (pos : Int)
    : Follows Books.Kept (betweenRounds site sep pos) fun scope =>
        RuleGrammar.betweenRounds (site.told call scope) (sepTold scope) pos := by
  refine .bind (skipSpace_follows calls pos) fun start => ?_
  cases follows with
  | absent => exact .pure _
  | present follows =>
      refine .bind (follows start) fun r => ?_
      cases r with
      | none => exact .pure none
      | some r => exact .bind (skipSpace_follows calls r.stop) fun _ => .pure _

theorem trailingSeparator_follows (calls : site.Calls call)
    (follows : SeparatorFollows sep sepTold) (trailing : Bool) (p : Progress)
    : Follows Books.Kept (trailingSeparator site sep trailing p) fun scope =>
        RuleGrammar.trailingSeparator (site.told call scope) (sepTold scope) trailing p := by
  cases follows with
  | absent => exact .pure _
  | present follows =>
      refine .ite (fun _ => .bind (skipSpace_follows calls p.stop) fun start => ?_) fun _ => .pure _
      refine .bind (follows start) fun r => ?_
      cases r <;> exact .pure _

theorem evalRepetition_follows (calls : site.Calls call)
    (bodies : ∀ pos, Follows Books.Kept (body pos) fun scope => bodyTold scope pos)
    (follows : SeparatorFollows sep sepTold) (min : Nat) (max : Option Nat) (trailing : Bool)
    (names : List Name) (pos : Int)
    : Follows Books.Kept (evalRepetition site body sep min max trailing names pos) fun scope =>
        RuleGrammar.evalRepetition (site.told call scope) (bodyTold scope) (sepTold scope) min max
          trailing names pos := by
  refine .bind (repeatRounds_follows site.rule.name min max bodies
    (betweenRounds_follows calls follows) _ _) fun p => ?_
  refine .bind (trailingSeparator_follows calls follows trailing p) fun last => ?_
  exact .ite (fun _ => .pure none) fun _ => .pure _

theorem evalGoal_follows (calls : site.Calls call) {opener closer : Int → BookedM (Option Reached)}
    {openerTold closerTold : Scope → Int → MatchM (Option Reached)}
    (openers : ∀ pos, Follows Books.Kept (opener pos) fun scope => openerTold scope pos)
    (closers : ∀ pos, Follows Books.Kept (closer pos) fun scope => closerTold scope pos)
    (bodies : ∀ pos, Follows Books.Kept (body pos) fun scope => bodyTold scope pos)
    (closerName : Text) (pos : Int)
    : Follows Books.Kept (evalGoal site opener closer body closerName pos) fun scope =>
        RuleGrammar.evalGoal (site.told call scope) (openerTold scope) (closerTold scope)
          (bodyTold scope) closerName pos := by
  refine .bind (openers pos) fun o => ?_
  cases o with
  | none => exact .pure none
  | some o =>
      refine .bind (skipSpace_follows calls o.stop) fun inner => .bind (bodies inner) fun b => ?_
      cases b with
      | none => exact .pure none
      | some b =>
          refine .bind (skipSpace_follows calls b.stop) fun closing => ?_
          refine .bind (closers closing) fun c => ?_
          cases c with
          | none =>
              exact .bind (.of_step (MatchM.expectGoal · closing closerName)) fun _ => .pure none
          | some c => exact .pure _

end Loops

variable {site : Site} {call : Scope → Name → Int → MatchM (Option Match)}

mutual

/-- Evaluation follows the books if the calls of rules do, by induction on the expression. -/
theorem eval_follows (calls : site.Calls call) (e : Expr) (pos : Int)
    : Follows Books.Kept (eval site e pos) fun scope =>
        RuleGrammar.eval (site.told call scope) e pos := by
  cases e with
  | literal text => exact fun _ _ => rfl
  | charClass cls => exact fun _ _ => rfl
  | anyChar => exact fun _ _ => rfl
  | anchor a => exact fun _ _ => rfl
  | sym => exact fun _ _ => rfl
  | reference rule capture =>
      refine .bind (calls rule pos) fun answer => ?_
      cases answer with
      | none => exact miss_follows site pos _
      | some m => exact .pure _
  | lookahead body negated =>
      refine .bind (eval_follows calls body pos).quietly fun found => ?_
      exact .ite (fun _ => .pure _) fun _ => miss_follows site pos _
  | repetition body min max sep trailing =>
      exact evalRepetition_follows calls (eval_follows calls body) (evalOption_follows calls sep)
        min max trailing _ pos
  | sequence items => exact evalItems_follows calls true items pos
  | choice alternatives => exact evalChoice_follows calls alternatives pos
  | longest alternatives => exact evalLongest_follows calls alternatives none pos
  | goal opener closer body =>
      exact evalGoal_follows calls (eval_follows calls opener) (eval_follows calls closer)
        (eval_follows calls body) _ pos
  | capture body name =>
      refine .bind (eval_follows calls body pos) fun r => ?_
      cases r with
      | none => exact .pure none
      | some r => exact .bind (anonymous_follows pos r.stop r.caught) fun _ => .pure _

theorem evalOption_follows (calls : site.Calls call) (sep : Option Expr)
    : SeparatorFollows (evalOption site sep) fun scope =>
        RuleGrammar.evalOption (site.told call scope) sep := by
  cases sep with
  | none => exact .absent
  | some e => exact .present (eval_follows calls e)

theorem evalItems_follows (calls : site.Calls call) (first : Bool) (items : List Expr) (pos : Int)
    : Follows Books.Kept (evalItems site first items pos) fun scope =>
        RuleGrammar.evalItems (site.told call scope) first items pos := by
  cases items with
  | nil => exact .pure _
  | cons e rest =>
      refine .bind (itemStart_follows calls first pos) fun start => ?_
      refine .bind (eval_follows calls e start) fun r => ?_
      cases r with
      | none => exact .pure none
      | some r =>
          refine .bind (evalItems_follows calls false rest r.stop) fun later => ?_
          cases later <;> exact .pure _

theorem evalChoice_follows (calls : site.Calls call) (alternatives : List Expr) (pos : Int)
    : Follows Books.Kept (evalChoice site alternatives pos) fun scope =>
        RuleGrammar.evalChoice (site.told call scope) alternatives pos := by
  cases alternatives with
  | nil => exact .pure none
  | cons e rest =>
      refine .bind (eval_follows calls e pos) fun r => ?_
      cases r with
      | none => exact evalChoice_follows calls rest pos
      | some r => exact .pure _

theorem evalLongest_follows (calls : site.Calls call) (alternatives : List Expr)
    (best : Option Reached) (pos : Int)
    : Follows Books.Kept (evalLongest site alternatives best pos) fun scope =>
        RuleGrammar.evalLongest (site.told call scope) alternatives best pos := by
  cases alternatives with
  | nil => exact .pure best
  | cons e rest =>
      exact .bind (eval_follows calls e pos) fun r => evalLongest_follows calls rest _ pos

end

-----------------------------------------------------------------------------------------
-- Rule application
-----------------------------------------------------------------------------------------

variable {env : MatchEnv} {apply : Rule → Int → BookedM (Option Match)}
  {applyTold : Scope → Rule → Int → MatchM (Option Match)}

theorem dispatch_follows
    (applies
      : ∀ rule pos, Follows Books.Kept (apply rule pos) fun scope => applyTold scope rule pos)
    (pos : Int) (rules : List Rule) (best : Option Match)
    : Follows Books.Kept (dispatch apply pos rules best) fun scope =>
        RuleGrammar.dispatch (applyTold scope) pos rules best := by
  induction rules generalizing best with
  | nil => exact .pure best
  | cons rule rest ih => exact .bind (applies rule pos) fun answer => ih _

theorem callName_follows
    (applies
      : ∀ rule pos, Follows Books.Kept (apply rule pos) fun scope => applyTold scope rule pos)
    (name : Name) (pos : Int)
    : Follows Books.Kept (callName env apply name pos) fun scope =>
        RuleGrammar.callName env (applyTold scope) name pos := by
  refine .bind (.of_step fun _ => resolveOnce env name) fun entry => ?_
  cases entry with
  | rule rule => exact applies rule pos
  | group group => exact dispatch_follows applies pos group.alternatives none

/-- Rule applications are guarded by the keys in the books as by the frames of the scope, where the
evaluation follows the books while its rule is not in progress.
-/
theorem guarded_follows {rule : Rule} {pos : Int} {fresh : BookedM (Option Match)}
    {freshTold : Scope → MatchM (Option Match)}
    (follows : Follows (Books.KeptWithout rule pos) fresh freshTold)
    : Follows Books.Kept (guarded env rule pos fresh) fun scope =>
        RuleGrammar.guarded env scope rule pos (freshTold scope) := by
  refine .bind (.of_step fun _ => knownAnswer env _) fun known => ?_
  cases known with
  | some answer => exact .pure answer
  | none =>
      intro s kept
      have active := kept.isActive_iff ⟨rule.name, rule.tag, pos⟩
      -- both guards read what is in progress: the books their set, the scope its frames
      by_cases member : (⟨rule.name, rule.tag, pos⟩ : Key) ∈ s.books.active
      · simp only [BookedM.get_bind, step, active.mpr member, member, if_true]
        rfl
      · simp only [BookedM.get_bind, step, active, member, if_false]
        cases env.config.depthReached s.books.scope with
        | some limit => rfl
        | none => exact follows s ⟨kept, member⟩

/-- Evaluating a rule that is not in progress follows the books: its entry is taken back. -/
theorem evaluateRule_follows {rule : Rule} {pos : Int}
    {callBooked : Name → Int → BookedM (Option Match)}
    (calls : ∀ name pos, Follows Books.Kept (callBooked name pos) fun scope => call scope name pos)
    : Follows (Books.KeptWithout rule pos) (evaluateRule env rule pos callBooked) fun scope =>
        RuleGrammar.evaluateRule env scope rule pos call := by
  simp only [RuleGrammar.evaluateRule, answerRule, bind_assoc, pure_bind]
  refine .bind (.of_step (traceStart env · rule pos)) fun _ => ?_
  have sites : Site.Calls ⟨env.subject, rule, callBooked⟩ call := calls
  -- the set forgets how often a key was entered, so its entry can only be taken back if it is new
  have body : Follows (Books.KeptWithout rule pos)
      (between (Books.enter rule pos) (Books.leave rule pos)
        (eval ⟨env.subject, rule, callBooked⟩ rule.expr pos))
      fun scope => RuleGrammar.eval ⟨env.subject, rule, scope.enter rule pos, call⟩ rule.expr pos :=
    (eval_follows sites rule.expr pos).between (fun _ shown => shown.1.enter rule pos)
      (fun books _ => books.scope_enter rule pos) fun _ shown => Books.leave_enter shown.2
  refine .bind body fun reached => ?_
  refine .bind (.of_step fun _ => ruleMatch rule pos reached) fun answer => ?_
  refine .bind (.of_step (traceEnd env · rule pos answer)) fun _ => ?_
  exact .bind (.of_step (remember env · ⟨rule.name, rule.tag, pos⟩ answer)) fun _ => .pure answer

/-- Rule applications follow the books, by induction on the room. -/
theorem applyRule_follows (room : Nat) (rule : Rule) (pos : Int)
    : Follows Books.Kept (applyRule env room rule pos) fun scope =>
        RuleGrammar.applyRule env room scope rule pos := by
  induction room generalizing rule pos with
  | zero => exact guarded_follows (.throw _)
  | succ room ih => exact guarded_follows (evaluateRule_follows (callName_follows ih))

end Booked

/-- From empty books, a call with books ends as one without and leaves the books empty. -/
theorem MatchEnv.bookedCall_empty (env : MatchEnv) (name : Name) (pos : Int) (s : MatcherState)
    : env.bookedCall name pos ⟨s, {}⟩ = step (fun _ => env.call name pos) ⟨s, {}⟩ :=
  Booked.callName_follows (Booked.applyRule_follows (env.room s.resolved pos)) name pos ⟨s, {}⟩
    Books.kept_empty

end RuleGrammar
