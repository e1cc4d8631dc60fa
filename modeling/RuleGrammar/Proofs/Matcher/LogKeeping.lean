import RuleGrammar.Proofs.Matcher.Naming
import RuleGrammar.Proofs.Matcher.SharedLog

/-! A shared log is kept intact. An evaluation that fails leaves the log as it found it, and one
that succeeds only adds to it, namely what evaluation without a shared log hands back. So marks
and cuts are never misplaced, however expressions nest.
-/

namespace RuleGrammar

-----------------------------------------------------------------------------------------
-- Runs with and without a log
-----------------------------------------------------------------------------------------

/-- Two ends, the first with a log: the same fault in the same state, or answers and a log that go
together, in the same state.
-/
inductive LogMatched {α β : Type} (post : α → β → List Caught → Prop)
    : EStateM.Result Fault LoggedState α → EStateM.Result Fault MatcherState β → Prop
  | ok {a b state log} (together : post a b log)
    : LogMatched post (.ok a ⟨state, log⟩) (.ok b state)
  | error (fault state log) : LogMatched post (.error fault ⟨state, log⟩) (.error fault state)

/-- From any state and a certain log, a computation with a log ends like one without. -/
def Logs {α β : Type} (log : List Caught) (logged : LoggedM α) (m : MatchM β)
    (post : α → β → List Caught → Prop) : Prop :=
  ∀ state, LogMatched post (logged ⟨state, log⟩) (m state)

namespace Logs

open LoggedM (mark write cutTo listRound apart)

variable {α β γ δ : Type} {log : List Caught} {logged : LoggedM α} {m : MatchM β}
  {post : α → β → List Caught → Prop} {wider : γ → δ → List Caught → Prop}

theorem pure {a : α} {b : β} (together : post a b log)
    : Logs log (Pure.pure a) (Pure.pure b) post :=
  fun _ => .ok together

theorem throw (fault : Fault)
    : Logs log (MonadExcept.throw fault) (MonadExcept.throw fault) post :=
  fun state => .error fault state log

theorem bind {next : α → LoggedM γ} {next' : β → MatchM δ} (first : Logs log logged m post)
    (then_ : ∀ a b log, post a b log → Logs log (next a) (next' b) wider)
    : Logs log (logged >>= next) (m >>= next') wider := by
  intro state
  change LogMatched wider (EStateM.bind logged next ⟨state, log⟩) (EStateM.bind m next' state)
  unfold EStateM.bind
  generalize logged ⟨state, log⟩ = ended, m state = ended', first state = matched
  cases matched with
  | ok together => exact then_ _ _ _ together _
  | error fault state log => exact .error fault state log

/-- The computation with a log may go on where the other one ends. -/
theorem bind_left {next : α → LoggedM γ} {wider : γ → β → List Caught → Prop}
    (first : Logs log logged m post)
    (then_ : ∀ a b log, post a b log → Logs log (next a) (Pure.pure b) wider)
    : Logs log (logged >>= next) m wider :=
  bind_pure m ▸ first.bind then_

/-- The computation without a log may go on where the other one ends. -/
theorem bind_right {next : β → MatchM δ} {wider : α → δ → List Caught → Prop}
    (first : Logs log logged m post)
    (then_ : ∀ a b log, post a b log → Logs log (Pure.pure a) (next b) wider)
    : Logs log logged (m >>= next) wider :=
  bind_pure logged ▸ first.bind then_

theorem ite {p : Prop} [Decidable p] {logged' : LoggedM α} {m' : MatchM β}
    (yes : Logs log logged m post) (no : Logs log logged' m' post)
    : Logs log (if p then logged else logged') (if p then m else m') post := by
  split
  · exact yes
  · exact no

/-- A step of the matcher goes with itself and leaves the log alone. -/
theorem step {inner : MatchM α} {kind : α → Prop} (answers : Answers inner kind)
    : Logs log (LoggedM.step inner) inner fun a b log' => a = b ∧ kind a ∧ log' = log := by
  intro state
  unfold LoggedM.step
  cases ended : inner state with
  | ok a t => exact .ok ⟨rfl, answers state a t ended, rfl⟩
  | error fault t => exact .error fault t log

theorem step_bind {inner : MatchM α} {next : α → LoggedM γ} {next' : α → MatchM δ}
    (then_ : ∀ a, Logs log (next a) (next' a) wider)
    : Logs log (LoggedM.step inner >>= next) (inner >>= next') wider := by
  refine (step (.trivial inner)).bind ?_
  rintro a _ _ ⟨rfl, -, rfl⟩
  exact then_ a

/-- A computation in a log of its own leaves the log around it alone. -/
theorem apart_bind {next : α × List Caught → LoggedM γ} {next' : β → MatchM δ}
    (inner : Logs [] logged m post)
    (then_ : ∀ a b own, post a b own → Logs log (next (a, own)) (next' b) wider)
    : Logs log (apart logged >>= next) (m >>= next') wider := by
  have outside : Logs log (apart logged) m fun a b log' => post a.1 b a.2 ∧ log' = log := by
    intro state
    unfold apart
    generalize logged ⟨state, []⟩ = ended, m state = ended', inner state = matched
    cases matched with
    | ok together => exact .ok ⟨together, rfl⟩
    | error fault state own => exact .error fault state log
  exact outside.bind fun a b log' ⟨together, kept⟩ => kept ▸ then_ a.1 b a.2 together

section Bookkeeping

variable {n : MatchM δ}

theorem mark_bind {next : Nat → LoggedM γ} (then_ : Logs log (next log.length) n wider)
    : Logs log (mark >>= next) n wider :=
  then_

theorem write_bind {entries : List Caught} {next : Unit → LoggedM γ}
    (then_ : Logs (log ++ entries) (next ()) n wider)
    : Logs log (write entries >>= next) n wider :=
  then_

/-- Whatever was written since a mark can be cut off again. -/
theorem cutTo_bind {later : List Caught} {next : Unit → LoggedM γ} (longer : log <+: later)
    (then_ : Logs log (next ()) n wider)
    : Logs later (cutTo log.length >>= next) n wider := by
  intro state
  change LogMatched wider (next () ⟨state, later.take log.length⟩) (n state)
  rw [← List.prefix_iff_eq_take.mp longer]
  exact then_ state

theorem listRound_bind {max : Option Nat} {later : List Caught} {next : Unit → LoggedM γ}
    (then_ : Logs (log ++ roundLog max later) (next ()) n wider)
    : Logs (log ++ later) (listRound max log.length >>= next) n wider := by
  intro state
  change LogMatched wider
    (next () ⟨state, (log ++ later).take log.length
      ++ roundLog max ((log ++ later).drop log.length)⟩) (n state)
  rw [List.take_left, List.drop_left]
  exact then_ state

end Bookkeeping

end Logs

-----------------------------------------------------------------------------------------
-- Parts of expressions
-----------------------------------------------------------------------------------------

/-- What an evaluation left in a log, given what is left if it fails and what was there when it
began: it failed, or it reached what evaluation without a log reaches and added its captures.
-/
inductive Written (base log : List Caught) : Option Int → Option Reached → List Caught → Prop
  | failed : Written base log none none base
  | reached (r : Reached) : Written base log (some r.stop) (some r) (log ++ r.caught)

theorem Written.of_eq {base log after caught : List Caught} {stop : Int}
    (added : after = log ++ caught)
    : Written base log (some stop) (some ⟨stop, caught⟩) after :=
  added ▸ .reached ⟨stop, caught⟩

/-- To reach an offset without captures is to write nothing. -/
theorem Written.nothing {base log : List Caught} (stop : Int)
    : Written base log (some stop) (some ⟨stop, []⟩) log :=
  .of_eq (List.append_nil log).symm

/-- From any log, an evaluation writes what it captures behind it, or nothing if it fails. -/
abbrev Keeps (logged : LoggedM (Option Int)) (m : MatchM (Option Reached)) : Prop :=
  ∀ log, Logs log logged m (Written log log)

/-- The separator of a repetition, if there is one, writes what it captures behind a log. -/
abbrev KeepsSeparator (sep : Option (Int → LoggedM (Option Int)))
    (sep' : Option (Int → MatchM (Option Reached))) : Prop :=
  Option.Rel (fun f g => ∀ pos, Keeps (f pos) (g pos)) sep sep'

namespace Logged

open Logs

variable {base log : List Caught} {site : Site}

theorem miss (pos : Int) (what : Text)
    : Logs log (do LoggedM.step (MatchM.expect site.scope pos what); return none)
        (site.miss pos what) (Written log log) :=
  step_bind fun _ => .pure .failed

section Loops

variable {body between opener closer : Int → LoggedM (Option Int)}
  {body' between' opener' closer' : Int → MatchM (Option Reached)}
  {sep : Option (Int → LoggedM (Option Int))} {sep' : Option (Int → MatchM (Option Reached))}

theorem gapBefore_keeps (gaps : ∀ pos, Keeps (between pos) (between' pos)) (p : Progress)
    : Keeps (gapBefore between p.stop p.rounds) (RuleGrammar.gapBefore between' p) :=
  fun log => .ite (.pure (.nothing p.stop)) (gaps p.stop log)

/-- Rounds leave a log with what they captured in it, by induction on the bound. -/
theorem repeatRounds_keeps (rule : Name) (min : Nat) (max : Option Nat)
    (bodies : ∀ pos, Keeps (body pos) (body' pos))
    (gaps : ∀ pos, Keeps (between pos) (between' pos)) (bound : Nat) (p : Progress)
    (before : log = base ++ p.log)
    : Logs log (repeatRounds rule body between min max bound p.stop p.rounds)
        (RuleGrammar.repeatRounds rule body' between' min max bound p)
        fun ended last log =>
          ended = (last.stop, last.rounds) ∧ log = base ++ last.log := by
  induction bound generalizing p log with
  | zero => exact .throw _
  | succ bound ih =>
      refine .ite (.mark_bind ?_) (.pure ⟨rfl, before⟩)
      refine (gapBefore_keeps gaps p log).bind ?_
      rintro _ _ _ (- | gap)
      · exact cutTo_bind List.prefix_rfl (.pure ⟨rfl, before⟩)
      · refine (bodies gap.stop _).bind ?_
        rintro _ _ _ (- | r)
        · exact cutTo_bind (List.prefix_append _ _) (.pure ⟨rfl, before⟩)
        · have round : log ++ roundLog max (gap.caught ++ r.caught)
              = base ++ (p.round r.stop (roundLog max (gap.caught ++ r.caught))).log := by
            rw [before, Progress.log_round, List.append_assoc]
          rw [List.append_assoc]
          exact listRound_bind (.ite (.pure ⟨rfl, round⟩) (ih _ round))

theorem betweenRounds_keeps (separators : KeepsSeparator sep sep') (pos : Int)
    : Keeps (betweenRounds site sep pos) (RuleGrammar.betweenRounds site sep' pos) := by
  refine fun log => step_bind fun start => ?_
  cases separators with
  | none => exact .pure (.nothing start)
  | some separator =>
      refine (separator start _).bind ?_
      rintro _ _ _ (- | r)
      · exact .pure .failed
      · exact step_bind fun stop => .pure (.reached ⟨stop, r.caught⟩)

theorem trailingSeparator_keeps (separators : KeepsSeparator sep sep') (trailing : Bool)
    (p : Progress)
    : Logs log (trailingSeparator site sep trailing p.stop p.rounds)
        (RuleGrammar.trailingSeparator site sep' trailing p)
        fun stop last after => stop = last.stop ∧ after = log ++ last.caught := by
  have nothing := (List.append_nil log).symm
  cases separators with
  | none => exact .pure ⟨rfl, nothing⟩
  | some separator =>
      refine .ite (.mark_bind (.step_bind fun start => ?_)) (.pure ⟨rfl, nothing⟩)
      refine (separator start _).bind ?_
      rintro _ _ _ (- | r)
      · exact cutTo_bind List.prefix_rfl (.pure ⟨rfl, nothing⟩)
      · exact .pure ⟨rfl, rfl⟩

theorem evalRepetition_keeps (bodies : ∀ pos, Keeps (body pos) (body' pos))
    (separators : KeepsSeparator sep sep') (min : Nat) (max : Option Nat) (trailing : Bool)
    (names : List Name) (pos : Int)
    : Keeps (evalRepetition site body sep min max trailing names pos)
        (RuleGrammar.evalRepetition site body' sep' min max trailing names pos) := by
  refine fun log => mark_bind ?_
  refine (repeatRounds_keeps site.rule.name min max bodies (betweenRounds_keeps separators) _
    ⟨pos, 0, []⟩ (List.append_nil log).symm).bind ?_
  rintro _ p _ ⟨rfl, rfl⟩
  refine (trailingSeparator_keeps separators trailing p).bind ?_
  rintro _ last _ ⟨rfl, rfl⟩
  refine .ite (cutTo_bind ?_ (.pure .failed)) ?_
  · exact List.append_assoc log _ _ ▸ List.prefix_append _ _
  · refine write_bind (.pure (.of_eq ?_))
    simp only [List.append_assoc]

theorem evalGoal_keeps (openers : ∀ pos, Keeps (opener pos) (opener' pos))
    (closers : ∀ pos, Keeps (closer pos) (closer' pos))
    (bodies : ∀ pos, Keeps (body pos) (body' pos)) (closerName : Text) (pos : Int)
    : Keeps (evalGoal site opener closer body closerName pos)
        (RuleGrammar.evalGoal site opener' closer' body' closerName pos) := by
  refine fun log => mark_bind ((openers pos log).bind ?_)
  rintro _ _ _ (- | o)
  · exact cutTo_bind List.prefix_rfl (.pure .failed)
  · refine step_bind fun inner => (bodies inner _).bind ?_
    rintro _ _ _ (- | b)
    · exact cutTo_bind (List.prefix_append _ _) (.pure .failed)
    · refine step_bind fun closing => (closers closing []).apart_bind ?_
      rintro _ _ _ (- | c)
      · refine step_bind fun _ => cutTo_bind ?_ (.pure .failed)
        exact List.append_assoc log _ _ ▸ List.prefix_append _ _
      · refine write_bind (.pure (.of_eq ?_))
        simp only [List.append_assoc, List.nil_append]

end Loops

-----------------------------------------------------------------------------------------
-- All expressions
-----------------------------------------------------------------------------------------

/-- An expression that captures nothing writes nothing. -/
theorem evalPlain_keeps {e : Expr} {pos : Int}
    (bare : Answers (RuleGrammar.eval site e pos) fun reached => ∀ r ∈ reached, r.caught = [])
    : Keeps (evalPlain site e pos) (RuleGrammar.eval site e pos) := by
  refine fun _ => (Logs.step bare).bind_left ?_
  rintro reached _ log ⟨rfl, bare, rfl⟩
  cases reached with
  | none => exact .pure .failed
  | some r => exact .pure (.of_eq (by rw [bare r rfl, List.append_nil]))

theorem reference_keeps (rule : Name) (capture : Option Name) (pos : Int)
    : Keeps (eval site (.reference rule capture) pos)
        (RuleGrammar.eval site (.reference rule capture) pos) := by
  refine fun log => step_bind fun answer => ?_
  cases answer with
  | none => exact miss pos _
  | some m => exact write_bind (.pure (.reached ⟨m.stop, _⟩))

theorem sym_keeps (pos : Int) : Keeps (eval site .sym pos) (RuleGrammar.eval site .sym pos) := by
  intro log
  simp only [eval, RuleGrammar.eval]
  cases site.rule.tag with
  | none => exact .throw _
  | some tag =>
      refine .ite (step_bind fun m => write_bind (.pure ?_)) (miss pos _)
      exact .reached ⟨_, [.node (some (Text.ofString "sym")) m false]⟩

mutual

/-- Whatever an evaluation does to a log, it keeps what is there and adds what evaluation without a
shared log captures, by induction on the expression.
-/
theorem eval_keeps (site : Site) (e : Expr) (pos : Int)
    : Keeps (eval site e pos) (RuleGrammar.eval site e pos) := by
  cases e with
  | literal text => exact evalPlain_keeps (.ite (.pure (by simp)) (.miss (by simp) site pos _))
  | charClass cls => exact evalPlain_keeps (.charClass (by simp) (by simp) cls pos)
  | anyChar => exact evalPlain_keeps (.ite (.pure (by simp)) (.miss (by simp) site pos _))
  | anchor a => exact evalPlain_keeps (.anchor (by simp) (by simp) a pos)
  | reference rule capture => exact reference_keeps rule capture pos
  | sym => exact sym_keeps pos
  | lookahead body negated =>
      refine fun log => (eval_keeps site.quiet body pos []).apart_bind ?_
      rintro _ _ _ (- | r)
      · exact .ite (.pure (.nothing pos)) (miss pos _)
      · exact .ite (.pure (.nothing pos)) (miss pos _)
  | repetition body min max sep trailing =>
      exact evalRepetition_keeps (eval_keeps site body) (evalOption_keeps site sep) min max trailing
        _ pos
  | sequence items =>
      exact fun log => mark_bind (evalItems_keeps site true items List.prefix_rfl pos)
  | choice alternatives => exact fun log => mark_bind (evalChoice_keeps site alternatives log pos)
  | longest alternatives =>
      refine fun log => (evalLongest_keeps site alternatives log none pos).bind_left ?_
      rintro best _ _ ⟨rfl, rfl⟩
      cases best with
      | none => exact .pure .failed
      | some best => exact write_bind (.pure (.reached best))
  | goal opener closer body =>
      exact evalGoal_keeps (eval_keeps site opener) (eval_keeps site closer) (eval_keeps site body)
        _ pos
  | capture body name =>
      refine fun log => (eval_keeps site body pos []).apart_bind ?_
      rintro _ _ _ (- | r)
      · exact .pure .failed
      · exact step_bind fun m => write_bind (.pure (.reached ⟨r.stop, [.node name m false]⟩))

theorem evalOption_keeps (site : Site) (sep : Option Expr)
    : KeepsSeparator (evalOption site sep) (RuleGrammar.evalOption site sep) := by
  cases sep with
  | none => exact .none
  | some e => exact .some (eval_keeps site e)

/-- Items write behind those before them, and cut these off as well if they fail. -/
theorem evalItems_keeps (site : Site) (first : Bool) (items : List Expr) {base log : List Caught}
    (longer : base <+: log) (pos : Int)
    : Logs log (evalItems site base.length first items pos)
        (RuleGrammar.evalItems site first items pos) (Written base log) := by
  cases items with
  | nil => exact .pure (.nothing pos)
  | cons e rest =>
      refine step_bind fun start => (eval_keeps site e start log).bind ?_
      rintro _ _ _ (- | r)
      · exact cutTo_bind longer (.pure .failed)
      · have longer := longer.trans (List.prefix_append log r.caught)
        refine (evalItems_keeps site false rest longer r.stop).bind_right ?_
        rintro _ _ _ (- | later)
        · exact .pure .failed
        · exact .pure (.of_eq (List.append_assoc log r.caught later.caught))

theorem evalChoice_keeps (site : Site) (alternatives : List Expr) (log : List Caught) (pos : Int)
    : Logs log (evalChoice site log.length alternatives pos)
        (RuleGrammar.evalChoice site alternatives pos) (Written log log) := by
  cases alternatives with
  | nil => exact .pure .failed
  | cons e rest =>
      refine (eval_keeps site e pos log).bind ?_
      rintro _ _ _ (- | r)
      · exact cutTo_bind List.prefix_rfl (evalChoice_keeps site rest log pos)
      · exact .pure (.reached r)

theorem evalLongest_keeps (site : Site) (alternatives : List Expr) (log : List Caught)
    (best : Option Reached) (pos : Int)
    : Logs log (evalLongest site alternatives best pos)
        (RuleGrammar.evalLongest site alternatives best pos)
        fun best best' log' => best = best' ∧ log' = log := by
  cases alternatives with
  | nil => exact .pure ⟨rfl, rfl⟩
  | cons e rest =>
      refine (eval_keeps site e pos []).apart_bind ?_
      rintro _ _ _ (- | r)
      · exact evalLongest_keeps site rest log _ pos
      · exact evalLongest_keeps site rest log _ pos

end

/-- Backtracking leaves a log intact: an evaluation that fails leaves it as it was, and one that
succeeds only adds to it, under names that can be read off the expression. Without a shared log it
ends in the same state with the same answer, which has just what was added for its captures.
-/
theorem eval_log (site : Site) (e : Expr) (pos : Int) (s : LoggedState)
    : match eval site e pos s with
      | .ok none t => t.log = s.log ∧ RuleGrammar.eval site e pos s.state = .ok none t.state
      | .ok (some stop) t =>
          ∃ caught, t.log = s.log ++ caught
            ∧ RuleGrammar.eval site e pos s.state = .ok (some ⟨stop, caught⟩) t.state
            ∧ ∀ name ≠ [], name ∈ caught.filterMap Caught.name → name ∈ e.captureNames
      | .error fault t => RuleGrammar.eval site e pos s.state = .error fault t.state := by
  have matched := eval_keeps site e pos s.log s.state
  generalize ran : RuleGrammar.eval site e pos s.state = ended at matched
  change LogMatched _ (eval site e pos s) ended at matched
  generalize eval site e pos s = ended' at matched
  cases matched with
  | ok together =>
      cases together with
      | failed => exact ⟨rfl, rfl⟩
      | reached r =>
          refine ⟨r.caught, rfl, rfl, fun name counts member => mem_distinct.mpr ?_⟩
          exact CapturesAmong.eval site e pos _ _ _ ran r rfl name counts member
  | error fault state log => rfl

/-- A branch that fails behind a capture leaves nothing in the log for the next one to find. -/
example
    : let capture (letter : Text) := Expr.capture (.literal letter) (some letter)
      let branches : Expr :=
        .choice [.sequence [capture "a", .literal "z"], .sequence [capture "a", capture "b"]]
      let site : Site :=
        ⟨.ofText "ab", { name := "top", expr := branches }, {}, fun _ _ _ => pure none⟩
      (match eval site branches 0 ⟨{}, [.mark "before"]⟩ with
        | .ok _ t => t.log.filterMap Caught.name
        | .error _ _ => [])
      = [Text.ofString "before", Text.ofString "a", Text.ofString "b"] := by
  decide +kernel

end Logged

end RuleGrammar
