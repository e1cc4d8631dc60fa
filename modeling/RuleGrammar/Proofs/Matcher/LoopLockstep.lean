import RuleGrammar.Proofs.Matcher.Lockstep

/-! Repetitions and goals side by side. If the parts of a repetition or a goal are in lockstep
wherever it may try them, so is the whole; its rounds never use up their bound.
-/

namespace RuleGrammar.Coupling

variable {c : Coupling} {left right : Site} {pos : Int}

-----------------------------------------------------------------------------------------
-- What stands between and after rounds
-----------------------------------------------------------------------------------------

/-- Separators side by side: both absent, or in lockstep at the offsets that a condition
allows.
-/
inductive SameSeparator (c : Coupling) (subject : Subject) (allowed : Int → Prop)
    : Option (Int → MatchM (Option Reached)) → Option (Int → MatchM (Option Reached)) → Prop
  | absent : c.SameSeparator subject allowed none none
  | present {sepLeft sepRight}
    (lockstep
      : ∀ q,
          allowed q
          → c.Lockstep (c.SameReached subject q True) (sepLeft q) (sepRight q))
    : c.SameSeparator subject allowed (some sepLeft) (some sepRight)

/-- What stands between rounds is in lockstep where white space and separator are. -/
theorem betweenRounds_lockstep (beside : c.Beside left right) (pos : Int)
    {sepLeft sepRight} {allowed : Int → Prop}
    (space : ∀ q, left.subject.Ahead pos q → c.SpaceAt left right q)
    (sep : c.SameSeparator left.subject allowed sepLeft sepRight)
    (reach : ∀ q, left.subject.Ahead pos q → allowed q)
    : c.Lockstep (c.SameReached left.subject pos True) (betweenRounds left sepLeft pos)
        (betweenRounds right sepRight pos) := by
  refine .bind (beside.skipSpace (space pos (.refl _ _))) fun start _ same => ?_
  obtain ⟨rfl, ahead⟩ := same
  cases sep with
  | absent => exact .pure (.reached rfl ahead fun _ => trivial)
  | present lockstep =>
      refine .bind (lockstep start (reach start ahead)) fun r _ same => ?_
      cases same with
      | missed => exact .pure .missed
      | reached same further still =>
          refine .bind (beside.skipSpace (space _ (ahead.trans further)))
            fun stop _ skipped => ?_
          obtain ⟨rfl, last⟩ := skipped
          exact .pure (.reached same ((ahead.trans further).trans last) fun _ => trivial)

-----------------------------------------------------------------------------------------
-- Rounds
-----------------------------------------------------------------------------------------

/-- Two repetitions that have come equally far from an offset, with logs that look the same. A
round that has ended at the starting offset was one of an empty body.
-/
inductive SameProgress (c : Coupling) (subject : Subject) (pos : Int) (empty : Prop)
    : Progress → Progress → Prop
  | intro {stop rounds caught caught'}
    (same : logThrough c.view caught.reverse.flatten
      = logThrough c.view caught'.reverse.flatten)
    (ahead : subject.Ahead pos stop) (still : rounds ≠ 0 → stop = pos → empty)
    : c.SameProgress subject pos empty ⟨stop, rounds, caught⟩ ⟨stop, rounds, caught'⟩

/-- A round more on both sides, with a gap and a body that look the same. -/
theorem SameProgress.round {subject : Subject} {empty : Prop} (stop : Int) (rounds : Nat)
    (max : Option Nat) {next : Int} {caught caught' : List (List Caught)}
    {gap gap' body body' : List Caught}
    (same : logThrough c.view caught.reverse.flatten
      = logThrough c.view caught'.reverse.flatten)
    (sameGap : logThrough c.view gap = logThrough c.view gap')
    (sameBody : logThrough c.view body = logThrough c.view body')
    (ahead : subject.Ahead pos next) (still : next = pos → empty)
    : c.SameProgress subject pos empty
        (Progress.round ⟨stop, rounds, caught⟩ next (roundLog max (gap ++ body)))
        (Progress.round ⟨stop, rounds, caught'⟩ next (roundLog max (gap' ++ body'))) := by
  refine .intro ?_ ahead fun _ => still
  have rounds : logThrough c.view (roundLog max (gap ++ body))
      = logThrough c.view (roundLog max (gap' ++ body')) := by
    simp only [logThrough_roundLog, logThrough, List.map_append] at sameGap sameBody ⊢
    rw [sameGap, sameBody]
  simp only [logThrough, List.reverse_cons, List.flatten_append, List.flatten_cons,
    List.flatten_nil, List.append_nil, List.map_append] at same rounds ⊢
  rw [same, rounds]

/-- The rounds of a repetition are in lockstep where its body and what stands between rounds are;
at the starting offset rounds only follow each other as long as the minimum asks for more.
Induction on the bound: a round that goes on has moved, which leaves less of the subject, or
brings the count closer to the minimum, so a bound above both is never used up.
-/
theorem repeatRounds_lockstep {subject : Subject} {empty : Prop} {rule rule' : Name}
    {bodyLeft bodyRight betweenLeft betweenRight : Int → MatchM (Option Reached)}
    {min : Nat} {max : Option Nat}
    (body
      : ∀ q,
          subject.Ahead pos q
          → c.Lockstep (c.SameReached subject q empty) (bodyLeft q) (bodyRight q))
    (between
      : ∀ q,
          subject.Ahead pos q
          → (q = pos → empty ∧ 1 < min)
          → c.Lockstep (c.SameReached subject q True) (betweenLeft q) (betweenRight q))
    (bound : Nat) {p p' : Progress} (same : c.SameProgress subject pos empty p p')
    (unfinished : p.rounds ≠ 0 → p.stop = pos → p.rounds < min)
    (enough : (subject.size - p.stop).toNat + (min - p.rounds) < bound)
    : c.Lockstep (c.SameProgress subject pos empty)
        (repeatRounds rule bodyLeft betweenLeft min max bound p)
        (repeatRounds rule' bodyRight betweenRight min max bound p') := by
  induction bound generalizing p p' with
  | zero => omega
  | succ bound ih =>
      cases same with | @intro stop rounds caught caught' sameLog ahead still => ?_
      simp only at enough unfinished
      unfold repeatRounds
      by_cases below : belowMax max rounds = true
      · simp only [below, if_true]
        have gap : c.Lockstep (c.SameReached subject stop True)
            (gapBefore betweenLeft ⟨stop, rounds, caught⟩)
            (gapBefore betweenRight ⟨stop, rounds, caught'⟩) := by
          unfold gapBefore
          split
          · exact .pure (.reached rfl (.refl _ _) fun _ => trivial)
          · rename_i later
            refine between stop ahead fun returned => ⟨still later returned, ?_⟩
            exact Nat.lt_of_le_of_lt (Nat.pos_of_ne_zero later) (unfinished later returned)
        refine .bind gap fun _ _ sameGap => ?_
        cases sameGap with
        | missed => exact .pure (.intro sameLog ahead still)
        | @reached start gapLog gapLog' sameGap gapAhead _ =>
            refine .bind (body start (ahead.trans gapAhead)) fun _ _ sameBody => ?_
            cases sameBody with
            | missed => exact .pure (.intro sameLog ahead still)
            | @reached next bodyLog bodyLog' sameBody bodyAhead bodyStill =>
                have nextAhead := gapAhead.trans bodyAhead
                -- a round that ends where the first one started had an empty body
                have nextStill : next = pos → empty := fun returned =>
                  bodyStill ((ahead.trans gapAhead).stop_eq bodyAhead returned)
                have sameNext := SameProgress.round stop rounds max
                  sameLog sameGap sameBody (ahead.trans nextAhead) nextStill
                refine .ite Iff.rfl (fun _ => .pure sameNext) fun more => ih sameNext ?_ ?_
                · intro _ returned
                  have stayed : next = stop :=
                    returned.trans (ahead.middle_eq nextAhead returned).symm
                  simpa [isLastRound, Progress.round, stayed] using more
                · simp only [Progress.round] at more ⊢
                  by_cases moved : next = stop
                  · simp only [isLastRound, moved, decide_true, Bool.true_and,
                      decide_eq_true_eq] at more
                    rw [moved]
                    omega
                  · have less := nextAhead.rest_lt moved
                    omega
      · simp only [below, if_false, Bool.false_eq_true]
        exact .pure (.intro sameLog ahead still)

-----------------------------------------------------------------------------------------
-- Whole repetitions
-----------------------------------------------------------------------------------------

/-- One more separator is in lockstep where white space and separator are. -/
theorem trailingSeparator_lockstep (beside : c.Beside left right) {sepLeft sepRight}
    {empty : Prop} {allowed : Int → Prop} {trailing : Bool}
    (space
      : ∀ q,
          left.subject.Ahead pos q
          → (q = pos → empty ∧ trailing = true ∧ sepLeft.isSome = true)
          → c.SpaceAt left right q)
    (sep : c.SameSeparator left.subject allowed sepLeft sepRight)
    (reach : ∀ q, left.subject.Ahead pos q → (q = pos → empty ∧ trailing = true) → allowed q)
    {p p' : Progress} (same : c.SameProgress left.subject pos empty p p')
    : c.Lockstep
        (fun r r' => c.SameReached left.subject p.stop True (some r) (some r'))
        (trailingSeparator left sepLeft trailing p)
        (trailingSeparator right sepRight trailing p') := by
  cases same with | @intro stop rounds caught caught' _ ahead still => ?_
  have unmoved : c.SameReached left.subject stop True (some ⟨stop, []⟩) (some ⟨stop, []⟩) :=
    .reached rfl (.refl _ _) fun _ => trivial
  cases sep with
  | absent => exact .pure unmoved
  | present lockstep =>
      unfold trailingSeparator
      by_cases tried : (trailing && decide (rounds ≠ 0)) = true
      · simp only [tried, if_true]
        have nonzero : rounds ≠ 0 := by simp_all
        have trails := (Bool.and_eq_true_iff.mp tried).1
        have spaced := space stop ahead fun returned => ⟨still nonzero returned, trails, rfl⟩
        refine .bind (beside.skipSpace spaced) fun start _ skipped => ?_
        obtain ⟨rfl, further⟩ := skipped
        have allowedHere := reach start (ahead.trans further) fun returned =>
          ⟨still nonzero (ahead.middle_eq further returned), trails⟩
        refine .bind (lockstep start allowedHere) fun r r' sameLast => ?_
        cases sameLast with
        | missed => exact .pure unmoved
        | reached same last _ =>
            exact .pure (.reached same (further.trans last) fun _ => trivial)
      · simp only [tried, if_false, Bool.false_eq_true]
        exact .pure unmoved

/-- A repetition is in lockstep where its body, its separator and white space are. It stays at
its offset only if no round is asked for or its body may stay. Only if its body may stay, and if a
second round is asked for or a separator may trail, is white space or a separator tried there.
-/
theorem evalRepetition_lockstep (beside : c.Beside left right) {sepLeft sepRight}
    {empty : Prop} {bodyLeft bodyRight : Int → MatchM (Option Reached)} {min : Nat}
    {max : Option Nat} {trailing : Bool} {names : List Name}
    (space
      : ∀ q,
          left.subject.Ahead pos q
          → (q = pos → empty ∧ (1 < min ∨ trailing = true ∧ sepLeft.isSome = true))
          → c.SpaceAt left right q)
    (body
      : ∀ q,
          left.subject.Ahead pos q
          → c.Lockstep (c.SameReached left.subject q empty) (bodyLeft q) (bodyRight q))
    (sep
      : c.SameSeparator left.subject
          (fun q => left.subject.Ahead pos q ∧ (q = pos → empty ∧ (1 < min ∨ trailing = true)))
          sepLeft sepRight)
    : c.Lockstep (c.SameReached left.subject pos (min = 0 ∨ empty))
        (evalRepetition left bodyLeft sepLeft min max trailing names pos)
        (evalRepetition right bodyRight sepRight min max trailing names pos) := by
  unfold evalRepetition
  rw [← beside.subject]
  have between q (ahead : left.subject.Ahead pos q) (still : q = pos → empty ∧ 1 < min) :=
    betweenRounds_lockstep beside q
      (fun _ further => space _ (ahead.trans further) fun returned =>
        (still (ahead.middle_eq further returned)).imp_right Or.inl)
      sep (fun q' further => ⟨ahead.trans further, fun returned =>
        (still (ahead.middle_eq further returned)).imp_right Or.inl⟩)
  have start : c.SameProgress left.subject pos empty ⟨pos, 0, []⟩ ⟨pos, 0, []⟩ :=
    .intro rfl (.refl _ _) (by simp)
  refine .bind (repeatRounds_lockstep body between _ start (by simp) (by simp only; omega))
    fun p p' same => ?_
  refine .bind (trailingSeparator_lockstep beside
    (fun q ahead still => space q ahead fun returned => (still returned).imp_right Or.inr) sep
    (fun _ ahead still => ⟨ahead, fun returned => (still returned).imp_right Or.inr⟩) same)
    fun last last' sameLast => ?_
  cases same with | @intro stop rounds caught caught' sameLog ahead still => ?_
  cases sameLast with
  | @reached stop' log log' sameTail further _ =>
      by_cases few : rounds < min
      · simp only [few, if_true]
        exact .pure .missed
      · simp only [few, if_false]
        refine .pure (.reached ?_ (ahead.trans further) ?_)
        · simp only [Progress.log, logThrough, List.map_append] at sameLog sameTail ⊢
          rw [sameLog, sameTail]
        · intro returned
          by_cases none : rounds = 0
          · exact Or.inl (by omega)
          · exact Or.inr (still none (ahead.middle_eq further returned))

-----------------------------------------------------------------------------------------
-- Goals
-----------------------------------------------------------------------------------------

/-- Leaving out the entries without a name is the same before and after a change of nodes. -/
theorem logThrough_filter_named (view : Match → Match) (log : List Caught)
    : logThrough view (log.filter fun entry => entry.name.isSome)
      = (logThrough view log).filter fun entry => entry.name.isSome := by
  simp [List.filter_map, Function.comp_def]

/-- A goal is in lockstep where its parts and white space are. It stays at its offset only if all
its parts may stay, and each part is tried there only if those before it may stay, white space only
if its opener may.
-/
theorem evalGoal_lockstep (beside : c.Beside left right)
    {openerEmpty bodyEmpty closerEmpty : Prop}
    {openerLeft openerRight bodyLeft bodyRight closerLeft closerRight
      : Int → MatchM (Option Reached)}
    {closerName : Text}
    (space
      : ∀ q,
          left.subject.Ahead pos q
          → (q = pos → openerEmpty)
          → c.SpaceAt left right q)
    (opener
      : c.Lockstep (c.SameReached left.subject pos openerEmpty) (openerLeft pos)
          (openerRight pos))
    (body
      : ∀ q,
          left.subject.Ahead pos q
          → (q = pos → openerEmpty)
          → c.Lockstep (c.SameReached left.subject q bodyEmpty) (bodyLeft q) (bodyRight q))
    (closer
      : ∀ q,
          left.subject.Ahead pos q
          → (q = pos → openerEmpty ∧ bodyEmpty)
          → c.Lockstep (c.SameReached left.subject q closerEmpty) (closerLeft q)
              (closerRight q))
    : c.Lockstep
        (c.SameReached left.subject pos (openerEmpty ∧ bodyEmpty ∧ closerEmpty))
        (evalGoal left openerLeft closerLeft bodyLeft closerName pos)
        (evalGoal right openerRight closerRight bodyRight closerName pos) := by
  refine .bind opener fun _ _ sameOpener => ?_
  cases sameOpener with
  | missed => exact .pure .missed
  | @reached opened openerLog openerLog' sameOpener openerAhead openerStill =>
      refine .bind (beside.skipSpace (space opened openerAhead openerStill))
        fun q _ skipped => ?_
      obtain ⟨rfl, skipAhead⟩ := skipped
      have qAhead := openerAhead.trans skipAhead
      have qStill : q = pos → openerEmpty := fun returned =>
        openerStill (openerAhead.middle_eq skipAhead returned)
      refine .bind (body q qAhead qStill) fun _ _ sameBody => ?_
      cases sameBody with
      | missed => exact .pure .missed
      | @reached filled bodyLog bodyLog' sameBody bodyAhead bodyStill =>
          have spaced := space filled (qAhead.trans bodyAhead) fun returned =>
            qStill (qAhead.middle_eq bodyAhead returned)
          refine .bind (beside.skipSpace spaced) fun closing _ skipped => ?_
          obtain ⟨rfl, closingSkip⟩ := skipped
          have closingAhead := (qAhead.trans bodyAhead).trans closingSkip
          have closingStill : closing = pos → openerEmpty ∧ bodyEmpty := by
            intro returned
            have filledEq := (qAhead.trans bodyAhead).middle_eq closingSkip returned
            exact ⟨qStill (qAhead.middle_eq bodyAhead filledEq),
              bodyStill (qAhead.stop_eq bodyAhead filledEq)⟩
          refine .bind (closer closing closingAhead closingStill) fun _ _ sameCloser => ?_
          cases sameCloser with
          | missed =>
              exact .bind (beside.notes.expectGoal closing closerName)
                fun _ _ _ => .pure .missed
          | @reached stop closerLog closerLog' sameCloser closerAhead closerStill =>
              refine .pure (.reached ?_ (closingAhead.trans closerAhead) ?_)
              · have named : logThrough c.view (closerLog.filter fun e => e.name.isSome)
                    = logThrough c.view (closerLog'.filter fun e => e.name.isSome) := by
                  rw [logThrough_filter_named, logThrough_filter_named, sameCloser]
                simp only [logThrough, List.map_append] at sameOpener sameBody named ⊢
                rw [sameOpener, sameBody, named]
              · intro returned
                have stayed := closingStill (closingAhead.middle_eq closerAhead returned)
                exact ⟨stayed.1, stayed.2,
                  closerStill (closingAhead.stop_eq closerAhead returned)⟩

end RuleGrammar.Coupling
