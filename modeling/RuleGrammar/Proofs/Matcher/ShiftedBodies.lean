import RuleGrammar.Proofs.Matcher.Shifting

/-! Bodies of rules at a distance. An expression that does not ask for the start of the subject
reaches from an offset what it reaches over the rest of the subject, moved to the offset, if the
names that it calls do.
-/

namespace RuleGrammar

-----------------------------------------------------------------------------------------
-- Expressions that match alike wherever they stand
-----------------------------------------------------------------------------------------

/-- An expression that calls certain names only and does not ask for the start of the subject. -/
structure Expr.Floats (among : Name → Prop) (e : Expr) : Prop where
  calls : ∀ {name capture}, (Expr.reference name capture).Part e → among name
  unanchored : ¬ (Expr.anchor .inputStart).Part e

theorem Expr.Floats.part {among : Name → Prop} {e part : Expr} (floats : e.Floats among)
    (inside : part.Part e)
    : part.Floats among where
  calls reference := floats.calls (inside.trans reference)
  unanchored anchor := floats.unanchored (inside.trans anchor)

/-- Two answers of an expression at a distance: both missing, or an offset inside the subject and
one further ahead, with the nodes that were captured moved as much.
-/
inductive ShiftedReached (k : Nat) : Option Reached → Option Reached → Prop
  | missed : ShiftedReached k none none
  | reached {stop stop' : Int} {log log'} (inside : 0 ≤ stop) (further : stop' = stop + k)
    (moved : log' = logThrough (Match.shift k) log)
    : ShiftedReached k (some ⟨stop, log⟩) (some ⟨stop', log'⟩)

/-- An offset inside the subject and one further ahead. -/
def ShiftedOffset (k : Nat) (pos pos' : Int) : Prop :=
  pos' = pos + k ∧ 0 ≤ pos

/-- Two sites of one rule at a distance, the left one over what is left of the subject behind it.
Calls of certain names go along with each other; white space is one of them, if the rule tries it.
-/
structure ShiftedSites (g : Grammar) (k : Nat) (among : Name → Prop) (left right : Site)
    : Prop where
  within : k ≤ right.subject.size
  subject : left.subject = right.subject.after k
  rule : left.rule = right.rule
  scope : right.scope = left.scope.shift k
  space : right.rule.sigspace = true → among "ws"
  call
    : ∀ {name} scope {pos},
        among name
        → 0 ≤ pos
        → (shifting g k).Lockstep (ShiftedMatch k) (left.call scope name pos)
            (right.call (scope.shift k) name (pos + k))

variable {g : Grammar} {k : Nat} {among : Name → Prop} {left right : Site} {pos : Int}

namespace ShiftedSites

variable (sites : ShiftedSites g k among left right)

include sites

theorem quiet : ShiftedSites g k among left.quiet right.quiet where
  within := sites.within
  subject := sites.subject
  rule := sites.rule
  scope := by rw [Site.quiet, Site.quiet, sites.scope]; rfl
  space := sites.space
  call := sites.call

/-- What is left of the subject is as much shorter. -/
theorem size : (left.subject.size : Int) + k = right.subject.size := by
  rw [sites.subject, Subject.size_after]
  have within := sites.within
  omega

theorem miss (inside : 0 ≤ pos) (what : Text)
    : (shifting g k).Lockstep (ShiftedReached k) (left.miss pos what)
        (right.miss (pos + k) what) := by
  rw [Site.miss, Site.miss, sites.scope]
  exact .bind (shifting_expect inside left.scope what) fun _ _ _ => .pure .missed

theorem skipSpace (inside : 0 ≤ pos)
    : (shifting g k).Lockstep (ShiftedOffset k) (left.skipSpace pos)
        (right.skipSpace (pos + k)) := by
  unfold Site.skipSpace
  rw [sites.rule]
  refine .ite Iff.rfl (fun sigspace => ?_) fun _ => .pure ⟨rfl, inside⟩
  rw [sites.quiet.scope]
  refine .bind (sites.call left.quiet.scope (sites.space sigspace) inside) fun _ _ same => ?_
  cases same with
  | missed => exact .pure ⟨rfl, inside⟩
  | @found m ahead => exact .pure ⟨m.shift_stop k, ahead⟩

theorem itemStart (first : Bool) (inside : 0 ≤ pos)
    : (shifting g k).Lockstep (ShiftedOffset k) (left.itemStart first pos)
        (right.itemStart first (pos + k)) :=
  .ite Iff.rfl (fun _ => .pure ⟨rfl, inside⟩) fun _ => sites.skipSpace inside

omit sites in
/-- A node that no rule made is built further ahead on the right. -/
theorem anonymous (start stop : Int) {start' stop' : Int} {log log' : List Caught}
    (begins : start' = start + k) (ends : stop' = stop + k)
    (moved : log' = logThrough (Match.shift k) log)
    : (shifting g k).Lockstep (fun m n : Match => n = m.shift k ∧ m.stop = stop)
        (Site.anonymous start stop log) (Site.anonymous start' stop' log') := by
  subst begins ends
  exact shifting_fresh ⟨0, start, stop, [], none⟩ moved

end ShiftedSites

-----------------------------------------------------------------------------------------
-- Repetitions and goals
-----------------------------------------------------------------------------------------

/-- What is tried at an offset inside the subject goes along with what is tried further ahead. -/
def Along (g : Grammar) (k : Nat) (left right : Int → MatchM (Option Reached)) : Prop :=
  ∀ pos, 0 ≤ pos → (shifting g k).Lockstep (ShiftedReached k) (left pos) (right (pos + k))

/-- Two repetitions at a distance that have come equally far. -/
inductive ShiftedProgress (k : Nat) : Progress → Progress → Prop
  | intro {stop : Int} {rounds caught caught'} (inside : 0 ≤ stop)
    (moved : caught'.reverse.flatten = logThrough (Match.shift k) caught.reverse.flatten)
    : ShiftedProgress k ⟨stop, rounds, caught⟩ ⟨stop + k, rounds, caught'⟩

/-- A round more on both sides. -/
theorem ShiftedProgress.round (stop : Int) (rounds : Nat) (max : Option Nat)
    {caught caught' : List (List Caught)} {gap gap' body body' : List Caught}
    (moved : caught'.reverse.flatten = logThrough (Match.shift k) caught.reverse.flatten)
    (movedGap : gap' = logThrough (Match.shift k) gap)
    (movedBody : body' = logThrough (Match.shift k) body) {next : Int} (inside : 0 ≤ next)
    : ShiftedProgress k (Progress.round ⟨stop, rounds, caught⟩ next (roundLog max (gap ++ body)))
        (Progress.round ⟨stop + k, rounds, caught'⟩ (next + k) (roundLog max (gap' ++ body'))) := by
  refine .intro inside ?_
  subst movedGap movedBody
  simp only [List.reverse_cons, List.flatten_append, List.flatten_singleton, logThrough,
    List.map_append] at moved ⊢
  rw [moved, ← List.map_append, ← logThrough, ← logThrough_roundLog]

/-- The rounds of a repetition go along with each other where its body and what stands between
rounds do, by induction on their bound.
-/
theorem repeatRounds_shift {rule : Name}
    {bodyLeft bodyRight betweenLeft betweenRight : Int → MatchM (Option Reached)}
    (body : Along g k bodyLeft bodyRight) (between : Along g k betweenLeft betweenRight)
    (min : Nat) (max : Option Nat) (bound : Nat) {p p' : Progress}
    (same : ShiftedProgress k p p')
    : (shifting g k).Lockstep (ShiftedProgress k)
        (repeatRounds rule bodyLeft betweenLeft min max bound p)
        (repeatRounds rule bodyRight betweenRight min max bound p') := by
  induction bound generalizing p p' with
  | zero =>
      cases same
      exact .throw rfl
  | succ bound ih =>
      cases same with | @intro stop rounds caught caught' inside moved => ?_
      have unmoved : ShiftedProgress k ⟨stop, rounds, caught⟩ ⟨stop + k, rounds, caught'⟩ :=
        .intro inside moved
      refine .ite Iff.rfl (fun _ => ?_) fun _ => .pure unmoved
      have gap : (shifting g k).Lockstep (ShiftedReached k)
          (gapBefore betweenLeft ⟨stop, rounds, caught⟩)
          (gapBefore betweenRight ⟨stop + k, rounds, caught'⟩) :=
        .ite Iff.rfl (fun _ => .pure (.reached inside rfl rfl)) fun _ => between stop inside
      refine .bind gap fun _ _ sameGap => ?_
      cases sameGap with
      | missed => exact .pure unmoved
      | @reached start _ gapLog _ ahead further movedGap =>
          subst further
          refine .bind (body start ahead) fun _ _ sameBody => ?_
          cases sameBody with
          | missed => exact .pure unmoved
          | @reached next _ bodyLog _ ends further movedBody =>
              subst further
              have sameNext := ShiftedProgress.round stop rounds max
                moved movedGap movedBody ends
              have last : isLastRound min (rounds + 1) stop next
                  = isLastRound min (rounds + 1) (stop + k) (next + k) := by
                simp [isLastRound]
              exact .ite (Bool.eq_iff_iff.mp last) (fun _ => .pure sameNext) fun _ => ih sameNext

namespace ShiftedSites

variable (sites : ShiftedSites g k among left right)
  {sepLeft sepRight : Option (Int → MatchM (Option Reached))}

include sites

theorem betweenRounds (sep : sepLeft.Rel (Along g k) sepRight)
    : Along g k (betweenRounds left sepLeft) (betweenRounds right sepRight) := by
  intro pos inside
  refine .bind (sites.skipSpace inside) fun start _ skipped => ?_
  obtain ⟨rfl, ahead⟩ := skipped
  cases sep with
  | none => exact .pure (.reached ahead rfl rfl)
  | some separator =>
      refine .bind (separator start ahead) fun _ _ same => ?_
      cases same with
      | missed => exact .pure .missed
      | @reached stop _ log _ ends further moved =>
          subst further
          refine .bind (sites.skipSpace ends) fun _ _ skipped => ?_
          exact .pure (.reached skipped.2 skipped.1 moved)

theorem trailingSeparator (sep : sepLeft.Rel (Along g k) sepRight) (trailing : Bool)
    {p p' : Progress} (same : ShiftedProgress k p p')
    : (shifting g k).Lockstep (fun r r' => ShiftedReached k (some r) (some r'))
        (trailingSeparator left sepLeft trailing p)
        (trailingSeparator right sepRight trailing p') := by
  cases same with | @intro stop rounds caught caught' inside _ => ?_
  have unmoved : ShiftedReached k (some ⟨stop, []⟩) (some ⟨stop + k, []⟩) :=
    .reached inside rfl rfl
  cases sep with
  | none => exact .pure unmoved
  | some separator =>
      refine .ite Iff.rfl (fun _ => ?_) fun _ => .pure unmoved
      refine .bind (sites.skipSpace inside) fun start _ skipped => ?_
      obtain ⟨rfl, ahead⟩ := skipped
      refine .bind (separator start ahead) fun _ _ same => ?_
      cases same with
      | missed => exact .pure unmoved
      | reached ends further moved => exact .pure (.reached ends further moved)

/-- A repetition goes along with itself further ahead where its body and its separator do: there is
as much left of the subject, so that the rounds have the same bound.
-/
theorem evalRepetition {bodyLeft bodyRight : Int → MatchM (Option Reached)}
    (body : Along g k bodyLeft bodyRight) (sep : sepLeft.Rel (Along g k) sepRight)
    (min : Nat) (max : Option Nat) (trailing : Bool) (names : List Name)
    : Along g k (evalRepetition left bodyLeft sepLeft min max trailing names)
        (evalRepetition right bodyRight sepRight min max trailing names) := by
  intro pos inside
  have rest : left.subject.size - pos = right.subject.size - (pos + k) := by
    rw [← sites.size]
    omega
  have start : ShiftedProgress k ⟨pos, 0, []⟩ ⟨pos + k, 0, []⟩ := .intro inside rfl
  unfold RuleGrammar.evalRepetition
  rw [rest, sites.rule]
  have between := sites.betweenRounds sep
  refine .bind (repeatRounds_shift body between min max _ start) fun p p' same => ?_
  refine .bind (sites.trailingSeparator sep trailing same) fun last last' sameLast => ?_
  cases same with | @intro stop rounds caught caught' _ moved => ?_
  cases sameLast with | @reached ends _ log _ inside further movedLast => ?_
  refine .ite Iff.rfl (fun _ => .pure .missed) fun _ => .pure (.reached inside further ?_)
  subst movedLast
  have marks : logThrough (Match.shift k) (names.map Caught.mark) = names.map Caught.mark := by
    simp
  simp only [Progress.log, moved, logThrough, List.map_append] at marks ⊢
  split <;> simp [marks]

/-- A goal goes along with itself further ahead where its parts do. -/
theorem evalGoal
    {openerLeft openerRight bodyLeft bodyRight closerLeft closerRight
      : Int → MatchM (Option Reached)}
    (opener : Along g k openerLeft openerRight) (body : Along g k bodyLeft bodyRight)
    (closer : Along g k closerLeft closerRight) (closerName : Text)
    : Along g k (evalGoal left openerLeft closerLeft bodyLeft closerName)
        (evalGoal right openerRight closerRight bodyRight closerName) := by
  intro pos inside
  refine .bind (opener pos inside) fun _ _ sameOpener => ?_
  cases sameOpener with
  | missed => exact .pure .missed
  | @reached opened _ openerLog _ opens further movedOpener =>
      subst further
      refine .bind (sites.skipSpace opens) fun start _ skipped => ?_
      obtain ⟨rfl, ahead⟩ := skipped
      refine .bind (body start ahead) fun _ _ sameBody => ?_
      cases sameBody with
      | missed => exact .pure .missed
      | @reached filled _ bodyLog _ fills further movedBody =>
          subst further
          refine .bind (sites.skipSpace fills) fun closing _ skipped => ?_
          obtain ⟨rfl, ahead⟩ := skipped
          refine .bind (closer closing ahead) fun _ _ sameCloser => ?_
          cases sameCloser with
          | missed =>
              rw [sites.scope]
              exact .bind (shifting_expectGoal ahead left.scope closerName)
                fun _ _ _ => .pure .missed
          | reached closes further movedCloser =>
              refine .pure (.reached closes further ?_)
              subst movedOpener movedBody movedCloser
              simp only [logThrough, List.map_append, Coupling.logThrough_filter_named]

end ShiftedSites

-----------------------------------------------------------------------------------------
-- All expressions
-----------------------------------------------------------------------------------------

/-- The better of two answers further ahead is the better one, further ahead. -/
theorem ShiftedReached.further {best best' next next' : Option Reached}
    (sameBest : ShiftedReached k best best') (sameNext : ShiftedReached k next next')
    : ShiftedReached k (furtherReached best next) (furtherReached best' next') := by
  cases sameBest with
  | missed => cases sameNext with
    | missed => exact .missed
    | reached inside further moved => exact .reached inside further moved
  | reached inside further moved => cases sameNext with
    | missed => exact .reached inside further moved
    | reached inside' further' moved' =>
        subst further further'
        simp only [furtherReached, Int.add_lt_add_iff_right]
        split
        · exact .reached inside' rfl moved'
        · exact .reached inside rfl moved

mutual

/-- An expression goes along with itself further ahead where its calls do, by induction on it. -/
theorem eval_shift {left right : Site} (sites : ShiftedSites g k among left right) (e : Expr)
    (floats : e.Floats among)
    : Along g k (eval left e) (eval right e) := by
  intro pos inside
  have within := sites.within
  have subject := sites.subject
  have stays : ShiftedReached k (some ⟨pos, []⟩) (some ⟨pos + k, []⟩) := .reached inside rfl rfl
  cases e with
  | literal text =>
      simp only [eval]
      rw [subject, Subject.holds_after within inside]
      exact .ite Iff.rfl (fun _ => .pure (.reached (by omega) (by omega) rfl))
        fun _ => sites.miss inside _
  | charClass cls =>
      simp only [eval]
      refine .ite (by rw [← sites.size]; omega) (fun _ => ?_) fun _ => sites.miss inside _
      rw [subject, Subject.at?_after within inside]
      cases cls.compile with
      | error fault => exact .throw rfl
      | ok holds =>
          cases right.subject.at? (pos + k) with
          | none => exact sites.miss inside _
          | some c =>
              exact .ite Iff.rfl (fun _ => .pure (.reached (by omega) (by omega) rfl))
                fun _ => sites.miss inside _
  | anyChar =>
      simp only [eval]
      exact .ite (by rw [← sites.size]; omega)
        (fun _ => .pure (.reached (by omega) (by omega) rfl)) fun _ => sites.miss inside _
  | anchor a =>
      cases a with
      | inputStart => exact absurd .self floats.unanchored
      | inputEnd =>
          simp only [eval]
          exact .ite (by rw [← sites.size]; omega) (fun _ => .pure stays)
            fun _ => sites.miss inside _
      | other mark => exact sites.miss inside _
  | reference name capture =>
      simp only [eval]
      rw [sites.scope]
      refine .bind (sites.call left.scope (floats.calls .self) inside) fun _ _ same => ?_
      cases same with
      | missed => exact sites.miss inside _
      | @found m ahead =>
          refine .pure (.reached ahead (m.shift_stop k) ?_)
          simp [Function.comp_def, Caught.through]
  | sym =>
      simp only [eval]
      rw [sites.rule]
      cases right.rule.tag with
      | none => exact .throw rfl
      | some tag =>
          simp only
          rw [subject, Subject.holds_after within inside]
          refine .ite Iff.rfl (fun _ => ?_) fun _ => sites.miss inside _
          refine .bind (ShiftedSites.anonymous pos (pos + tag.length) rfl (by omega) rfl)
            fun m n same => .pure (.reached (by omega) (by omega) ?_)
          simp [Caught.through, same.1]
  | lookahead body negated =>
      simp only [eval]
      refine .bind (eval_shift sites.quiet body (floats.part (.lookahead .self)) pos inside)
        fun found found' same => ?_
      have agree : found.isSome = found'.isSome := by cases same <;> rfl
      rw [agree]
      exact .ite Iff.rfl (fun _ => .pure stays) fun _ => sites.miss inside _
  | repetition body min max sep trailing =>
      simp only [eval]
      refine sites.evalRepetition (eval_shift sites body (floats.part (.repeated .self))) ?_
        min max trailing _ pos inside
      cases sep with
      | none =>
          simp only [evalOption]
          exact .none
      | some sep =>
          simp only [evalOption]
          exact .some (eval_shift sites sep (floats.part (.separator .self)))
  | sequence items =>
      simp only [eval]
      exact evalItems_shift sites true items (fun e member => floats.part (.item member .self))
        pos inside
  | choice alternatives =>
      simp only [eval]
      exact evalChoice_shift sites alternatives
        (fun e member => floats.part (.choice member .self)) pos inside
  | longest alternatives =>
      simp only [eval]
      exact evalLongest_shift sites alternatives .missed
        (fun e member => floats.part (.longest member .self)) inside
  | goal opener closer body =>
      simp only [eval]
      exact sites.evalGoal (eval_shift sites opener (floats.part (.opener .self)))
        (eval_shift sites body (floats.part (.goalBody .self)))
        (eval_shift sites closer (floats.part (.closer .self))) _ pos inside
  | capture body name =>
      simp only [eval]
      refine .bind (eval_shift sites body (floats.part (.captured .self)) pos inside)
        fun _ _ same => ?_
      cases same with
      | missed => exact .pure .missed
      | reached ends further moved =>
          refine .bind (ShiftedSites.anonymous pos _ rfl further moved)
            fun m n same => .pure (.reached ends further ?_)
          simp [Caught.through, same.1]
termination_by sizeOf e

theorem evalItems_shift {left right : Site} (sites : ShiftedSites g k among left right)
    (first : Bool) (items : List Expr) (floats : ∀ e ∈ items, e.Floats among)
    : Along g k (evalItems left first items) (evalItems right first items) := by
  intro pos inside
  cases items with
  | nil => exact .pure (.reached inside rfl rfl)
  | cons e rest =>
      obtain ⟨here, later⟩ := List.forall_mem_cons.mp floats
      simp only [evalItems]
      refine .bind (sites.itemStart first inside) fun start _ skipped => ?_
      obtain ⟨rfl, ahead⟩ := skipped
      refine .bind (eval_shift sites e here start ahead) fun _ _ same => ?_
      cases same with
      | missed => exact .pure .missed
      | reached ends further moved =>
          subst further
          refine .bind (evalItems_shift sites false rest later _ ends) fun _ _ same => ?_
          cases same with
          | missed => exact .pure .missed
          | reached ends' further' moved' =>
              refine .pure (.reached ends' further' ?_)
              rw [moved, moved', ← List.map_append]
termination_by sizeOf items

theorem evalChoice_shift {left right : Site} (sites : ShiftedSites g k among left right)
    (alternatives : List Expr) (floats : ∀ e ∈ alternatives, e.Floats among)
    : Along g k (evalChoice left alternatives) (evalChoice right alternatives) := by
  intro pos inside
  cases alternatives with
  | nil => exact .pure .missed
  | cons e rest =>
      obtain ⟨here, later⟩ := List.forall_mem_cons.mp floats
      simp only [evalChoice]
      refine .bind (eval_shift sites e here pos inside) fun _ _ same => ?_
      cases same with
      | missed => exact evalChoice_shift sites rest later pos inside
      | reached ends further moved => exact .pure (.reached ends further moved)
termination_by sizeOf alternatives

theorem evalLongest_shift {left right : Site} (sites : ShiftedSites g k among left right)
    (alternatives : List Expr) {best best' : Option Reached} (sameBest : ShiftedReached k best best')
    (floats : ∀ e ∈ alternatives, e.Floats among) {pos : Int} (inside : 0 ≤ pos)
    : (shifting g k).Lockstep (ShiftedReached k) (evalLongest left alternatives best pos)
        (evalLongest right alternatives best' (pos + k)) := by
  cases alternatives with
  | nil => exact .pure sameBest
  | cons e rest =>
      obtain ⟨here, later⟩ := List.forall_mem_cons.mp floats
      simp only [evalLongest]
      refine .bind (eval_shift sites e here pos inside) fun _ _ same => ?_
      exact evalLongest_shift sites rest (sameBest.further same) later inside
termination_by sizeOf alternatives

end

end RuleGrammar
