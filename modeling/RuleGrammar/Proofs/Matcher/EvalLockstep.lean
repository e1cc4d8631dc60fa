import RuleGrammar.Proofs.Matcher.Coverage
import RuleGrammar.Proofs.Matcher.LoopLockstep

/-! Expressions side by side. If the calls that an expression may make are in lockstep wherever
it may make them, so is its evaluation, and it reaches offsets ahead only. Before it has moved on
it calls names at its left edge only, and it does not move on only if it is nullable.
-/

namespace RuleGrammar.Coupling

variable {c : Coupling} {left right : Site} {pos : Int}

-----------------------------------------------------------------------------------------
-- Expressions without parts
-----------------------------------------------------------------------------------------

section Leaves

variable (beside : c.Beside left right)

include beside

theorem literal_lockstep (text : Text)
    : c.Lockstep (c.SameReached left.subject pos (text = []))
        (eval left (.literal text) pos) (eval right (.literal text) pos) := by
  simp only [eval]
  rw [← beside.subject]
  refine .ite Iff.rfl (fun holds => .pure (.reached rfl (Subject.ahead_of_holds holds) ?_))
    fun _ => beside.miss _ _ _
  intro stays
  exact List.length_eq_zero_iff.mp (by omega)

theorem charClass_lockstep (cls : CharClass)
    (faults
      : ∀ fault, cls.compile = .error fault → c.faults (.charClass fault) (.charClass fault))
    : c.Lockstep (c.SameReached left.subject pos False)
        (eval left (.charClass cls) pos) (eval right (.charClass cls) pos) := by
  simp only [eval]
  rw [← beside.subject]
  refine .ite Iff.rfl (fun inside => ?_) fun _ => beside.miss _ _ _
  cases compiled : cls.compile with
  | error fault => exact .throw (faults fault compiled)
  | ok holds =>
      cases left.subject.at? pos with
      | none => exact beside.miss _ _ _
      | some point =>
          refine .ite Iff.rfl (fun _ => .pure (.reached rfl (Subject.ahead_succ inside) ?_))
            fun _ => beside.miss _ _ _
          intro stays
          omega

theorem anyChar_lockstep
    : c.Lockstep (c.SameReached left.subject pos False) (eval left .anyChar pos)
        (eval right .anyChar pos) := by
  simp only [eval]
  rw [← beside.subject]
  refine .ite Iff.rfl (fun inside => .pure (.reached rfl (Subject.ahead_succ inside) ?_))
    fun _ => beside.miss _ _ _
  intro stays
  omega

theorem anchor_lockstep (a : Anchor)
    : c.Lockstep (c.SameReached left.subject pos True) (eval left (.anchor a) pos)
        (eval right (.anchor a) pos) := by
  have stays : c.SameReached left.subject pos True (some ⟨pos, []⟩) (some ⟨pos, []⟩) :=
    .reached rfl (.refl _ _) fun _ => trivial
  simp only [eval]
  rw [← beside.subject]
  cases a with
  | inputStart => exact .ite Iff.rfl (fun _ => .pure stays) fun _ => beside.miss _ _ _
  | inputEnd => exact .ite Iff.rfl (fun _ => .pure stays) fun _ => beside.miss _ _ _
  | other mark => exact beside.miss _ _ _

/-- A reference is in lockstep where its call is; it stays only if a match of the call may. -/
theorem reference_lockstep {empty : Prop} (name : Name) (capture : Option Name)
    (call
      : c.Lockstep (c.SameMatch left.subject pos empty) (left.call left.scope name pos)
          (right.call right.scope name pos))
    : c.Lockstep (c.SameReached left.subject pos empty)
        (eval left (.reference name capture) pos)
        (eval right (.reference name capture) pos) := by
  simp only [eval]
  refine .bind call fun _ _ same => ?_
  cases same with
  | missed => exact beside.miss _ _ _
  | @found m n same ahead still =>
      refine .pure ?_
      rw [← view_stop_eq same]
      refine .reached ?_ ahead still
      simp [logThrough, Function.comp_def, Caught.through, same]

/-- The tag of an alternative stays at its offset only if it is empty. -/
theorem sym_lockstep (same : left.rule = right.rule)
    (fault
      : left.rule.tag = none
        → c.faults (.grammar (.symOutsideAlternative left.rule.name))
            (.grammar (.symOutsideAlternative left.rule.name)))
    : c.Lockstep (c.SameReached left.subject pos (left.rule.tag = some []))
        (eval left .sym pos) (eval right .sym pos) := by
  simp only [eval]
  rw [← beside.subject, ← same]
  cases tagged : left.rule.tag with
  | none => exact .throw (fault tagged)
  | some tag =>
      refine .ite Iff.rfl (fun holds => ?_) fun _ => beside.miss _ _ _
      refine .bind (lockstep_fresh ⟨0, pos, pos + tag.length, [], none⟩ rfl)
        fun m n same => .pure (.reached ?_ (Subject.ahead_of_holds holds) ?_)
      · simp [logThrough, Caught.through, same.1]
      · intro stays
        rw [List.length_eq_zero_iff.mp (show tag.length = 0 by omega)]

/-- A lookahead is in lockstep where its body is, in quiet scopes. -/
theorem lookahead_lockstep {empty : Prop} (body : Expr) (negated : Bool)
    (lockstep
      : c.Lockstep (c.SameReached left.subject pos empty) (eval left.quiet body pos)
          (eval right.quiet body pos))
    : c.Lockstep (c.SameReached left.subject pos True)
        (eval left (.lookahead body negated) pos)
        (eval right (.lookahead body negated) pos) := by
  simp only [eval]
  refine .bind lockstep fun found found' same => ?_
  have agree : found.isSome = found'.isSome := by cases same <;> rfl
  rw [agree]
  exact .ite Iff.rfl (fun _ => .pure (.reached rfl (.refl _ _) fun _ => trivial))
    fun _ => beside.miss _ _ _

omit beside in
/-- A capture is in lockstep where its body is. -/
theorem capture_lockstep {empty : Prop} (body : Expr) (name : Option Name)
    (lockstep
      : c.Lockstep (c.SameReached left.subject pos empty) (eval left body pos)
          (eval right body pos))
    : c.Lockstep (c.SameReached left.subject pos empty)
        (eval left (.capture body name) pos) (eval right (.capture body name) pos) := by
  simp only [eval]
  refine .bind lockstep fun _ _ same => ?_
  cases same with
  | missed => exact .pure .missed
  | @reached stop log log' same ahead still =>
      refine .bind (lockstep_fresh ⟨0, pos, stop, [], none⟩ same)
        fun m n alike => .pure (.reached ?_ ahead still)
      simp [logThrough, Caught.through, alike.1]

/-- An item of a sequence starts at one offset on both sides, at that of the sequence itself if
it is the first.
-/
theorem itemStart_lockstep (first : Bool) (space : first = false → c.SpaceAt left right pos)
    : c.Lockstep (SameOffset left.subject pos) (left.itemStart first pos)
        (right.itemStart first pos) := by
  cases first with
  | true => exact .pure ⟨rfl, .refl _ _⟩
  | false => exact beside.skipSpace (space rfl)

end Leaves

/-- The better of two answers is alike where the answers are. -/
theorem SameReached.further {subject : Subject} {empty : Prop} {best best' next next'}
    (sameBest : c.SameReached subject pos empty best best')
    (sameNext : c.SameReached subject pos empty next next')
    : c.SameReached subject pos empty (furtherReached best next)
        (furtherReached best' next') := by
  cases sameBest with
  | missed => cases sameNext with
    | missed => exact .missed
    | reached same ahead still => exact .reached same ahead still
  | reached same ahead still => cases sameNext with
    | missed => exact .reached same ahead still
    | reached same' ahead' still' =>
        simp only [furtherReached]
        split
        · exact .reached same' ahead' still'
        · exact .reached same ahead still

-----------------------------------------------------------------------------------------
-- All expressions
-----------------------------------------------------------------------------------------

mutual

/-- An expression is in lockstep where all that it may do is, and it stays at its offset only if
it is nullable, by induction on it.
-/
theorem eval_lockstep {left right : Site} {loose : Prop} {known : List Name} {pos : Int}
    (beside : c.Beside left right) (e : Expr)
    (covered : c.Covered left right loose known pos e)
    : c.Lockstep (c.SameReached left.subject pos (MayStay loose known e)) (eval left e pos)
        (eval right e pos) := by
  have weaken {empty : Prop} {e : Expr}
      (lockstep : c.Lockstep (c.SameReached left.subject pos empty) (eval left e pos)
        (eval right e pos))
      (nullable : empty → MayStay loose known e)
      : c.Lockstep (c.SameReached left.subject pos (MayStay loose known e)) (eval left e pos)
          (eval right e pos) :=
    lockstep.mono fun _ _ same => same.mono nullable
  cases e with
  | literal text =>
      refine weaken (literal_lockstep beside text) fun none => Or.inr ?_
      simp [Expr.nullable, none]
  | charClass cls =>
      exact weaken (charClass_lockstep beside cls fun _ faulty => covered.classes .self faulty)
        False.elim
  | anyChar => exact weaken (anyChar_lockstep beside) False.elim
  | anchor a => exact weaken (anchor_lockstep beside a) fun _ => Or.inr (by simp [Expr.nullable])
  | reference name capture =>
      have call := covered.calls .self pos (.refl _ _) fun _ =>
        Or.inr (by simp [Expr.leftCalls])
      refine weaken (reference_lockstep beside name capture call.call) fun stays => ?_
      simpa [MayStay, Expr.nullable] using stays
  | sym =>
      exact weaken (sym_lockstep beside (covered.rule .self) (covered.sym .self)) fun empty =>
        Or.inl (covered.tag .self empty)
  | lookahead body negated =>
      have inner := eval_lockstep beside.quiet body covered.lookahead
      exact weaken (lookahead_lockstep beside body negated inner)
        fun _ => Or.inr (by simp [Expr.nullable])
  | repetition body min max sep trailing =>
      have bodies q (ahead : left.subject.Ahead pos q) :=
        eval_lockstep beside body (covered.repeated ahead)
      simp only [eval]
      refine Lockstep.mono (evalRepetition_lockstep beside ?_ bodies ?_) ?_
      · refine fun q ahead still => covered.repetitionSpace ahead fun returned => ?_
        refine (still returned).imp_right (Or.imp_right (And.imp_right fun separated => ?_))
        cases sep with
        | none => exact separated
        | some _ => rfl
      · cases sep with
        | none => simpa only [evalOption] using .absent
        | some sep =>
            simp only [evalOption]
            refine .present fun q allowed => ?_
            have separated := eval_lockstep beside sep (covered.separator allowed.1 allowed.2)
            exact separated.mono fun _ _ same => same.mono fun _ => trivial
      · refine fun _ _ same => same.mono fun stays => ?_
        rcases stays with none | yes | nullable
        · exact Or.inr (by simp [Expr.nullable, none])
        · exact Or.inl yes
        · exact Or.inr (by simp [Expr.nullable, nullable])
  | sequence items =>
      simp only [Covered, Expr.leftCalls, Expr.unseenSpace] at covered
      simp only [eval, MayStay, Expr.nullable]
      exact evalItems_lockstep beside true items
        fun e member => covered.part (.item member .self)
  | choice alternatives =>
      simp only [Covered, Expr.leftCalls, Expr.unseenSpace] at covered
      simp only [eval, MayStay, Expr.nullable]
      exact evalChoice_lockstep beside alternatives
        fun e member => covered.part (.choice member .self)
  | longest alternatives =>
      simp only [Covered, Expr.leftCalls, Expr.unseenSpace] at covered
      simp only [eval, MayStay, Expr.nullable]
      exact evalLongest_lockstep beside alternatives .missed id
        fun e member => covered.part (.longest member .self)
  | goal opener closer body =>
      have openers := eval_lockstep beside opener covered.goalOpener
      have bodies q (ahead : left.subject.Ahead pos q)
          (still : q = pos → MayStay loose known opener) :=
        eval_lockstep beside body (covered.goalBody ahead still)
      have closers q (ahead : left.subject.Ahead pos q)
          (still : q = pos → MayStay loose known opener ∧ MayStay loose known body) :=
        eval_lockstep beside closer (covered.goalCloser ahead still)
      simp only [eval]
      have spaces q (ahead : left.subject.Ahead pos q)
          (still : q = pos → MayStay loose known opener) :=
        covered.goalSpace ahead still
      refine Lockstep.mono (evalGoal_lockstep beside spaces openers bodies closers) ?_
      refine fun _ _ same => same.mono fun ⟨opens, fills, closes⟩ => ?_
      by_cases all : loose
      · exact Or.inl all
      · refine Or.inr ?_
        simp [Expr.nullable, opens.resolve_left all, fills.resolve_left all,
          closes.resolve_left all]
  | capture body name =>
      refine weaken (capture_lockstep body name (eval_lockstep beside body covered.captured))
        fun stays => ?_
      simpa only [MayStay, Expr.nullable] using stays
termination_by sizeOf e

theorem evalItems_lockstep {left right : Site} {loose : Prop} {known : List Name} {pos : Int}
    (beside : c.Beside left right) (first : Bool) (items : List Expr)
    (covered : c.CoveredItems left right loose known first pos items)
    : c.Lockstep (c.SameReached left.subject pos (loose ∨ Expr.allNullable known items = true))
        (evalItems left first items pos) (evalItems right first items pos) := by
  cases items with
  | nil => exact .pure (.reached rfl (.refl _ _) fun _ => Or.inr rfl)
  | cons e rest =>
      simp only [evalItems]
      refine .bind (itemStart_lockstep beside first fun later =>
        CoveredItems.space (later ▸ covered)) fun q _ started => ?_
      obtain ⟨rfl, startAhead⟩ := started
      refine .bind (eval_lockstep beside e (covered.head startAhead)) fun _ _ same => ?_
      cases same with
      | missed => exact .pure .missed
      | @reached stop log log' same ahead still =>
          have restAhead := startAhead.trans ahead
          have itemStill (returned : stop = pos) : MayStay loose known e :=
            still (startAhead.stop_eq ahead returned)
          refine .bind (evalItems_lockstep beside false rest (covered.tail restAhead itemStill))
            fun _ _ later => ?_
          cases later with
          | missed => exact .pure .missed
          | reached same' ahead' still' =>
              refine .pure (.reached ?_ (restAhead.trans ahead') fun returned => ?_)
              · simp only [logThrough, List.map_append] at same same' ⊢
                rw [same, same']
              · rcases itemStill (restAhead.middle_eq ahead' returned) with yes | nullable
                · exact Or.inl yes
                · refine (still' (restAhead.stop_eq ahead' returned)).imp_right fun others => ?_
                  simp [Expr.allNullable, nullable, others]
termination_by sizeOf items

theorem evalChoice_lockstep {left right : Site} {loose : Prop} {known : List Name} {pos : Int}
    (beside : c.Beside left right) (alternatives : List Expr)
    (covered : c.CoveredList left right loose known pos alternatives)
    : c.Lockstep
        (c.SameReached left.subject pos (loose ∨ Expr.anyNullable known alternatives = true))
        (evalChoice left alternatives pos) (evalChoice right alternatives pos) := by
  cases alternatives with
  | nil => exact .pure .missed
  | cons e rest =>
      simp only [evalChoice]
      refine .bind (eval_lockstep beside e covered.head) fun _ _ same => ?_
      cases same with
      | missed =>
          refine Lockstep.mono (evalChoice_lockstep beside rest covered.tail) ?_
          refine fun _ _ same => same.mono fun stays => stays.imp_right fun others => ?_
          simp [Expr.anyNullable, others]
      | reached same ahead still =>
          refine .pure (.reached same ahead fun stays => (still stays).imp_right fun nullable => ?_)
          simp [Expr.anyNullable, nullable]
termination_by sizeOf alternatives

theorem evalLongest_lockstep {left right : Site} {loose empty : Prop} {known : List Name}
    {pos : Int} (beside : c.Beside left right) (alternatives : List Expr)
    {best best' : Option Reached}
    (sameBest : c.SameReached left.subject pos empty best best')
    (nullable : (loose ∨ Expr.anyNullable known alternatives = true) → empty)
    (covered : c.CoveredList left right loose known pos alternatives)
    : c.Lockstep (c.SameReached left.subject pos empty)
        (evalLongest left alternatives best pos)
        (evalLongest right alternatives best' pos) := by
  cases alternatives with
  | nil => exact .pure sameBest
  | cons e rest =>
      simp only [evalLongest]
      refine .bind (eval_lockstep beside e covered.head) fun _ _ same => ?_
      have sameHere := same.mono fun stays => nullable (stays.imp_right fun nullable => by
        simp [Expr.anyNullable, nullable])
      refine evalLongest_lockstep beside rest (sameBest.further sameHere) ?_ covered.tail
      exact fun stays => nullable (stays.imp_right fun others => by
        simp [Expr.anyNullable, others])
termination_by sizeOf alternatives

end

end RuleGrammar.Coupling
