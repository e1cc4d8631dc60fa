import RuleGrammar.Proofs.Grammar.SpacedOut
import RuleGrammar.Proofs.Matcher.ApplyLockstep

/-! Bodies with white space written out, beside the bodies of rules that try it by themselves.
Every offset after white space that a rule skips is one that an optional call of white space
reaches, so expressions go the same way, construct by construct.
-/

namespace RuleGrammar.Coupling

variable {c : Coupling} {left right : Site} {pos : Int}

-----------------------------------------------------------------------------------------
-- Sites of a rule and of its token
-----------------------------------------------------------------------------------------

/-- A site of a rule that tries white space beside one of a token of the same name and tag. From an
offset on, calls of all names are in lockstep, quiet or not, and so are the calls for white space
that the rule makes and ordinary calls of the token. What the token notes alone does not matter.
-/
structure WrittenOut (c : Coupling) (left right : Site) (pos : Int) : Prop where
  subject : left.subject = right.subject
  name : left.rule.name = right.rule.name
  tag : left.rule.tag = right.rule.tag
  implicit : left.rule.sigspace = true
  explicit : right.rule.sigspace = false
  notes : c.Notes left.scope right.scope
  noted
    : ∀ q what,
        c.Lockstep (fun _ _ => True) (pure ()) (MatchM.expect right.scope q what)
  calls
    : ∀ name q,
        left.subject.Ahead pos q
        → c.Lockstep (c.SameMatch left.subject q True) (left.call left.scope name q)
            (right.call right.scope name q)
  quietCalls
    : ∀ name q,
        left.subject.Ahead pos q
        → c.Lockstep (c.SameMatch left.subject q True) (left.call left.quiet.scope name q)
            (right.call right.quiet.scope name q)
  space
    : ∀ q,
        left.subject.Ahead pos q
        → c.Lockstep (c.SameMatch left.subject q True) (left.call left.quiet.scope "ws" q)
            (right.call right.scope "ws" q)
  ordinary : ∀ fault : Fault, fault.isOfGrammar = true → c.faults fault fault

namespace WrittenOut

theorem ahead {q : Int} (writtenOut : c.WrittenOut left right pos)
    (further : left.subject.Ahead pos q)
    : c.WrittenOut left right q :=
  { writtenOut with
    calls := fun name _ more => writtenOut.calls name _ (further.trans more)
    quietCalls := fun name _ more => writtenOut.quietCalls name _ (further.trans more)
    space := fun _ more => writtenOut.space _ (further.trans more) }

theorem quiet (writtenOut : c.WrittenOut left right pos)
    : c.WrittenOut left.quiet right.quiet pos :=
  { writtenOut with
    notes := .of_quiet rfl rfl
    noted := fun _ _ => .pure trivial
    calls := writtenOut.quietCalls
    space := writtenOut.quietCalls "ws" }

/-- Apart from white space the token is evaluated as the rule would be at its place. -/
theorem beside (writtenOut : c.WrittenOut left right pos)
    : c.Beside left { right with rule := left.rule } :=
  ⟨writtenOut.subject, rfl, writtenOut.notes⟩

theorem skipSpace_explicit (writtenOut : c.WrittenOut left right pos)
    : right.skipSpace = pure := by
  funext q
  simp only [Site.skipSpace, writtenOut.explicit, Bool.false_eq_true, if_false]

theorem itemStart_explicit (writtenOut : c.WrittenOut left right pos) (first : Bool)
    : right.itemStart first = pure := by
  funext q
  simp only [Site.itemStart, writtenOut.skipSpace_explicit, ite_self]

/-- What stands between the rounds of a token is the separator alone. -/
theorem betweenRounds_explicit (writtenOut : c.WrittenOut left right pos)
    (sep : Int → MatchM (Option Reached))
    : betweenRounds right (some sep) = sep := by
  funext q
  simp only [betweenRounds, writtenOut.skipSpace_explicit, pure_bind]
  refine Eq.trans ?_ (bind_pure (sep q))
  congr 1
  funext r
  cases r <;> rfl

-----------------------------------------------------------------------------------------
-- White space
-----------------------------------------------------------------------------------------

/-- An offset after white space and what an optional call of white space reaches: that offset,
ahead, and no captures.
-/
def SameSpace (subject : Subject) (pos : Int) (stop : Int) (found : Option Reached) : Prop :=
  found = some ⟨stop, []⟩ ∧ subject.Ahead pos stop

/-- The white space that a rule skips is what an optional call of it reaches. The repetition ends
after its one round, for which its bound leaves room.
-/
theorem skipSpace (writtenOut : c.WrittenOut left right pos)
    : c.Lockstep (SameSpace left.subject pos) (left.skipSpace pos)
        (eval right Expr.optionalSpace pos) := by
  simp only [Site.skipSpace, writtenOut.implicit, if_true, Expr.optionalSpace, eval,
    evalRepetition, evalOption, trailingSeparator, repeatRounds, belowMax, gapBefore, bind_assoc,
    pure_bind, Nat.zero_lt_one, decide_true, Expr.capturing, List.map_nil]
  refine .bind (writtenOut.space pos (.refl _ _)) fun m n same => ?_
  cases same with
  | missed =>
      have ended : c.Lockstep (SameSpace left.subject pos) (pure () >>= fun _ => pure pos)
          (MatchM.expect right.scope pos ("<" ++ "ws" ++ ">") >>= fun _ =>
            pure (some ⟨pos, []⟩)) :=
        .bind (writtenOut.noted pos _) fun _ _ _ => .pure ⟨rfl, .refl _ _⟩
      simpa [Site.miss, Progress.log, Expr.repeats] using ended
  | @found m n same ahead _ =>
      have stop := view_stop_eq same
      rw [stop] at ahead
      have ended : c.Lockstep (SameSpace left.subject pos) (pure m.stop)
          (pure (some ⟨n.stop, []⟩)) := .pure ⟨by rw [stop], stop ▸ ahead⟩
      by_cases still : n.stop = pos
      · simpa [isLastRound, Progress.round, roundLog, Progress.log, still, Expr.repeats] using ended
      · obtain ⟨more, rest⟩ : ∃ more, (right.subject.size - pos).toNat = more + 1 := by
          have less := ahead.rest_lt still
          rw [writtenOut.subject] at less
          exact ⟨_, (Nat.succ_pred_eq_of_pos (Nat.zero_lt_of_lt less)).symm⟩
        simpa [isLastRound, Progress.round, roundLog, Progress.log, still, Expr.repeats, rest,
          repeatRounds, belowMax] using ended

-----------------------------------------------------------------------------------------
-- Separators, repetitions and goals
-----------------------------------------------------------------------------------------

/-- What stands between optional calls of white space is evaluated as between skipped white space.
-/
theorem surrounded {e : Expr} {body : Int → MatchM (Option Reached)}
    (writtenOut : c.WrittenOut left right pos)
    (same
      : ∀ q,
          left.subject.Ahead pos q
          → c.Lockstep (c.SameReached left.subject q True) (body q) (eval right e q))
    : c.Lockstep (c.SameReached left.subject pos True) (betweenRounds left (some body) pos)
        (eval right (.sequence [.optionalSpace, e, .optionalSpace]) pos) := by
  simp only [betweenRounds, eval, evalItems, writtenOut.itemStart_explicit, pure_bind]
  refine .bind writtenOut.skipSpace fun start _ found => ?_
  obtain ⟨rfl, ahead⟩ := found
  simp only [bind_assoc]
  refine .bind (same start ahead) fun r r' reached => ?_
  cases reached with
  | missed => exact .pure .missed
  | @reached stop log log' alike further _ =>
      have onward := ahead.trans further
      simp only [bind_assoc]
      refine .bind (writtenOut.ahead onward).skipSpace fun last _ found => ?_
      obtain ⟨rfl, more⟩ := found
      simp only [pure_bind, List.append_nil, List.nil_append]
      exact .pure (.reached alike (onward.trans more) fun _ => trivial)

/-- A goal evaluates its body between white space, like a separator between rounds, and then its
closer.
-/
theorem evalGoal_eq_between (site : Site) (opener closer body : Int → MatchM (Option Reached))
    (closerName : Text) (pos : Int)
    : evalGoal site opener closer body closerName pos
      = do
        match ← opener pos with
        | none => return none
        | some o =>
            match ← betweenRounds site (some body) o.stop with
            | none => return none
            | some b =>
                match ← closer b.stop with
                | none => do
                    MatchM.expectGoal site.scope b.stop closerName
                    return none
                | some c =>
                    return some ⟨c.stop,
                      o.caught ++ b.caught ++ c.caught.filter fun entry => entry.name.isSome⟩ := by
  unfold evalGoal betweenRounds
  congr 1
  funext o
  cases o with
  | none => rfl
  | some o =>
      simp only [bind_assoc]
      congr 1
      funext start
      congr 1
      funext b
      cases b with
      | none => rfl
      | some b =>
          refine ((bind_assoc (m := MatchM) _ _ _).trans ?_).symm
          exact bind_congr fun _ => pure_bind _ _

/-- A repetition without trailing separators is in lockstep where its body and what stands between
its rounds are.
-/
theorem repetition {bodyLeft bodyRight sepRight : Int → MatchM (Option Reached)}
    {sepLeft : Option (Int → MatchM (Option Reached))} {min : Nat} {max : Option Nat}
    {names : List Name} (writtenOut : c.WrittenOut left right pos)
    (body
      : ∀ q,
          left.subject.Ahead pos q
          → c.Lockstep (c.SameReached left.subject q True) (bodyLeft q) (bodyRight q))
    (between
      : ∀ q,
          left.subject.Ahead pos q
          → c.Lockstep (c.SameReached left.subject q True) (betweenRounds left sepLeft q)
              (sepRight q))
    : c.Lockstep (c.SameReached left.subject pos True)
        (evalRepetition left bodyLeft sepLeft min max false names pos)
        (evalRepetition right bodyRight (some sepRight) min max false names pos) := by
  have untrailed (site : Site) (sep : Option (Int → MatchM (Option Reached))) (p : Progress)
      : trailingSeparator site sep false p = pure ⟨p.stop, []⟩ := by
    cases sep <;> rfl
  have start : c.SameProgress left.subject pos True ⟨pos, 0, []⟩ ⟨pos, 0, []⟩ :=
    .intro rfl (.refl _ _) fun _ _ => trivial
  simp only [evalRepetition, untrailed, pure_bind, writtenOut.betweenRounds_explicit,
    ← writtenOut.subject, ← writtenOut.name]
  refine .bind (repeatRounds_lockstep body (fun q ahead _ => between q ahead) _ start (by simp)
    (by simp only; omega)) fun p p' same => ?_
  cases same with | @intro stop rounds caught caught' alike ahead _ => ?_
  refine .ite Iff.rfl (fun _ => .pure .missed) fun _ => ?_
  refine .pure (.reached ?_ ahead fun _ => trivial)
  simp only [Progress.log, logThrough, List.append_nil, List.map_append] at alike ⊢
  rw [alike]

/-- A goal is in lockstep where its opener, its body between white space, and its closer are. -/
theorem goal {openerLeft openerRight bodyLeft bodyRight closerLeft closerRight
      : Int → MatchM (Option Reached)}
    {closerName : Text} (writtenOut : c.WrittenOut left right pos)
    (opener
      : c.Lockstep (c.SameReached left.subject pos True) (openerLeft pos) (openerRight pos))
    (body
      : ∀ q,
          left.subject.Ahead pos q
          → c.Lockstep (c.SameReached left.subject q True)
              (betweenRounds left (some bodyLeft) q) (bodyRight q))
    (closer
      : ∀ q,
          left.subject.Ahead pos q
          → c.Lockstep (c.SameReached left.subject q True) (closerLeft q) (closerRight q))
    : c.Lockstep (c.SameReached left.subject pos True)
        (evalGoal left openerLeft closerLeft bodyLeft closerName pos)
        (evalGoal right openerRight closerRight bodyRight closerName pos) := by
  rw [evalGoal_eq_between]
  simp only [evalGoal, writtenOut.skipSpace_explicit, pure_bind]
  refine .bind opener fun _ _ opened => ?_
  cases opened with
  | missed => exact .pure .missed
  | @reached stop log log' sameOpener ahead _ =>
      refine .bind (body stop ahead) fun _ _ filled => ?_
      cases filled with
      | missed => exact .pure .missed
      | @reached closing bodyLog bodyLog' sameBody further _ =>
          have onward := ahead.trans further
          refine .bind (closer closing onward) fun _ _ closed => ?_
          cases closed with
          | missed =>
              exact .bind (writtenOut.notes.expectGoal closing closerName)
                fun _ _ _ => .pure .missed
          | @reached last closerLog closerLog' sameCloser more _ =>
              refine .pure (.reached ?_ (onward.trans more) fun _ => trivial)
              have named : logThrough c.view (closerLog.filter fun e => e.name.isSome)
                  = logThrough c.view (closerLog'.filter fun e => e.name.isSome) := by
                rw [logThrough_filter_named, logThrough_filter_named, sameCloser]
              simp only [logThrough, List.map_append] at sameOpener sameBody named ⊢
              rw [sameOpener, sameBody, named]

/-- The offset at which an item of a sequence starts is what an optional call of white space
reaches.
-/
theorem afterSpace {items : List Expr} {next : Int → MatchM (Option Reached)}
    (writtenOut : c.WrittenOut left right pos)
    (same
      : ∀ q,
          left.subject.Ahead pos q
          → c.Lockstep (c.SameReached left.subject q True) (next q) (evalItems right false items q))
    (first : Bool)
    : c.Lockstep (c.SameReached left.subject pos True) (left.skipSpace pos >>= next)
        (evalItems right first (.optionalSpace :: items) pos) := by
  simp only [evalItems, writtenOut.itemStart_explicit, pure_bind]
  refine .bind writtenOut.skipSpace fun start _ found => ?_
  obtain ⟨rfl, ahead⟩ := found
  rw [← bind_pure (next start)]
  refine .bind (same start ahead) fun _ _ later => ?_
  cases later with
  | missed => exact .pure .missed
  | reached alike further _ =>
      exact .pure (.reached alike (ahead.trans further) fun _ => trivial)

end WrittenOut

-----------------------------------------------------------------------------------------
-- All expressions
-----------------------------------------------------------------------------------------

mutual

/-- An expression is evaluated by a rule as it is by a token with white space written out, by
induction on it.
-/
theorem eval_spaced {left right : Site} {pos : Int} (writtenOut : c.WrittenOut left right pos)
    (e : Expr) (untrailed : e.Untrailed)
    : c.Lockstep (c.SameReached left.subject pos True) (eval left e pos)
        (eval right e.spaced pos) := by
  have loosely {empty : Prop} {m : MatchM (Option Reached)}
      (same : c.Lockstep (c.SameReached left.subject pos empty) (eval left e pos) m)
      : c.Lockstep (c.SameReached left.subject pos True) (eval left e pos) m :=
    same.mono fun _ _ same => same.mono fun _ => trivial
  cases e with
  | literal text =>
      have same := loosely (literal_lockstep writtenOut.beside text)
      simp only [Expr.spaced, eval] at same ⊢
      exact same
  | charClass cls =>
      have same := loosely (charClass_lockstep writtenOut.beside cls
        fun fault _ => writtenOut.ordinary _ rfl)
      simp only [Expr.spaced, eval] at same ⊢
      exact same
  | anyChar =>
      have same := loosely (anyChar_lockstep writtenOut.beside)
      simp only [Expr.spaced, eval] at same ⊢
      exact same
  | anchor a =>
      have same := loosely (anchor_lockstep writtenOut.beside a)
      simp only [Expr.spaced, eval] at same ⊢
      exact same
  | reference name capture =>
      have same := loosely (reference_lockstep writtenOut.beside name capture
        (writtenOut.calls name pos (.refl _ _)))
      simp only [Expr.spaced, eval] at same ⊢
      exact same
  | sym =>
      have same := loosely (sym_lockstep writtenOut.beside rfl fun _ => writtenOut.ordinary _ rfl)
      simp only [Expr.spaced, eval, writtenOut.name, writtenOut.tag] at same ⊢
      exact same
  | lookahead body negated =>
      have inner := eval_spaced writtenOut.quiet body (untrailed.part (.lookahead .self))
      simp only [Expr.spaced, eval, Expr.describe_spaced]
      refine .bind inner fun found found' same => ?_
      have agree : found.isSome = found'.isSome := by cases same <;> rfl
      rw [agree]
      exact .ite Iff.rfl (fun _ => .pure (.reached rfl (.refl _ _) fun _ => trivial))
        fun _ => writtenOut.beside.miss _ _ _
  | repetition body min max sep trailing =>
      obtain rfl := untrailed .self
      have bodies q (ahead : left.subject.Ahead pos q) :=
        eval_spaced (writtenOut.ahead ahead) body (untrailed.part (.repeated .self))
      have names : (Expr.repetition body min max sep false).spaced.captureNames
          = (Expr.repetition body min max sep false).captureNames := by
        simp only [Expr.captureNames, Expr.captures_spaced]
      simp only [Expr.spaced] at names
      simp only [Expr.spaced, eval, evalOption, names]
      refine writtenOut.repetition bodies fun q ahead => ?_
      have here := writtenOut.ahead ahead
      cases sep with
      | none =>
          simp only [Expr.spacedSeparator, evalOption, betweenRounds]
          rw [← bind_pure (eval right .optionalSpace q)]
          refine .bind here.skipSpace fun start _ found => ?_
          obtain ⟨rfl, further⟩ := found
          exact .pure (.reached rfl further fun _ => trivial)
      | some sep =>
          have seps q' (further : left.subject.Ahead q q') :=
            eval_spaced (here.ahead further) sep (untrailed.part (.separator .self))
          exact here.surrounded seps
  | sequence items =>
      have parts {e} (member : e ∈ items) : e.Untrailed := untrailed.part (.item member .self)
      simp only [Expr.spaced, eval]
      exact evalItems_spaced writtenOut true true items fun e member => parts member
  | choice alternatives =>
      have parts {e} (member : e ∈ alternatives) : e.Untrailed :=
        untrailed.part (.choice member .self)
      simp only [Expr.spaced, eval]
      exact evalChoice_spaced writtenOut alternatives fun e member => parts member
  | longest alternatives =>
      have parts {e} (member : e ∈ alternatives) : e.Untrailed :=
        untrailed.part (.longest member .self)
      simp only [Expr.spaced, eval]
      exact evalLongest_spaced writtenOut alternatives .missed fun e member => parts member
  | goal opener closer body =>
      have bodies q (ahead : left.subject.Ahead pos q) :=
        eval_spaced (writtenOut.ahead ahead) body (untrailed.part (.goalBody .self))
      have closers q (ahead : left.subject.Ahead pos q) :=
        eval_spaced (writtenOut.ahead ahead) closer (untrailed.part (.closer .self))
      have openers := eval_spaced writtenOut opener (untrailed.part (.opener .self))
      simp only [Expr.spaced, eval, Expr.describe_spaced]
      refine writtenOut.goal openers (fun q ahead => ?_) closers
      exact (writtenOut.ahead ahead).surrounded fun q' further => bodies q' (ahead.trans further)
  | capture body name =>
      have inner := eval_spaced writtenOut body (untrailed.part (.captured .self))
      simp only [Expr.spaced, eval]
      refine .bind inner fun _ _ same => ?_
      cases same with
      | missed => exact .pure .missed
      | @reached stop log log' same ahead still =>
          refine .bind (lockstep_fresh ⟨0, pos, stop, [], none⟩ same)
            fun m n alike => .pure (.reached ?_ ahead still)
          simp [logThrough, Caught.through, alike.1]
termination_by sizeOf e

theorem evalItems_spaced {left right : Site} {pos : Int}
    (writtenOut : c.WrittenOut left right pos) (first first' : Bool) (items : List Expr)
    (untrailed : ∀ e ∈ items, e.Untrailed)
    : c.Lockstep (c.SameReached left.subject pos True) (evalItems left first items pos)
        (evalItems right first' (Expr.spacedItems first items) pos) := by
  cases items with
  | nil => exact .pure (.reached rfl (.refl _ _) fun _ => trivial)
  | cons e rest =>
      have onward q (ahead : left.subject.Ahead pos q) (first' : Bool)
          : c.Lockstep (c.SameReached left.subject q True)
              (do
                match ← eval left e q with
                | none => return none
                | some r =>
                    match ← evalItems left false rest r.stop with
                    | none => return none
                    | some later => return some ⟨later.stop, r.caught ++ later.caught⟩)
              (evalItems right first' (e.spaced :: Expr.spacedItems false rest) q) := by
        have here := writtenOut.ahead ahead
        simp only [evalItems, here.itemStart_explicit, pure_bind]
        refine .bind (eval_spaced here e (untrailed e (by simp))) fun _ _ same => ?_
        cases same with
        | missed => exact .pure .missed
        | @reached stop log log' same further _ =>
            have more := evalItems_spaced (here.ahead further) false false rest
              fun other member => untrailed other (by simp [member])
            refine .bind more fun _ _ later => ?_
            cases later with
            | missed => exact .pure .missed
            | reached same' last _ =>
                refine .pure (.reached ?_ (further.trans last) fun _ => trivial)
                simp only [logThrough, List.map_append] at same same' ⊢
                rw [same, same']
      cases first with
      | true =>
          simp only [Expr.spacedItems, if_true]
          exact onward pos (.refl _ _) first'
      | false =>
          simp only [Expr.spacedItems, Bool.false_eq_true, if_false]
          exact writtenOut.afterSpace (fun q ahead => onward q ahead false) first'
termination_by sizeOf items

theorem evalChoice_spaced {left right : Site} {pos : Int}
    (writtenOut : c.WrittenOut left right pos) (alternatives : List Expr)
    (untrailed : ∀ e ∈ alternatives, e.Untrailed)
    : c.Lockstep (c.SameReached left.subject pos True) (evalChoice left alternatives pos)
        (evalChoice right (Expr.spacedList alternatives) pos) := by
  cases alternatives with
  | nil => exact .pure .missed
  | cons e rest =>
      simp only [Expr.spacedList, evalChoice]
      refine .bind (eval_spaced writtenOut e (untrailed e (by simp))) fun _ _ same => ?_
      cases same with
      | missed =>
          exact evalChoice_spaced writtenOut rest
            fun other member => untrailed other (by simp [member])
      | reached same ahead still => exact .pure (.reached same ahead still)
termination_by sizeOf alternatives

theorem evalLongest_spaced {left right : Site} {pos : Int}
    (writtenOut : c.WrittenOut left right pos) (alternatives : List Expr)
    {best best' : Option Reached} (sameBest : c.SameReached left.subject pos True best best')
    (untrailed : ∀ e ∈ alternatives, e.Untrailed)
    : c.Lockstep (c.SameReached left.subject pos True) (evalLongest left alternatives best pos)
        (evalLongest right (Expr.spacedList alternatives) best' pos) := by
  cases alternatives with
  | nil => exact .pure sameBest
  | cons e rest =>
      simp only [Expr.spacedList, evalLongest]
      refine .bind (eval_spaced writtenOut e (untrailed e (by simp))) fun _ _ same => ?_
      exact evalLongest_spaced writtenOut rest (sameBest.further same)
        fun other member => untrailed other (by simp [member])
termination_by sizeOf alternatives

end

end RuleGrammar.Coupling
