import RuleGrammar.Proofs.Matcher.Lockstep
import RuleGrammar.Proofs.Part

/-! What has to be in lockstep for an expression to be: the calls that it may make. At the offset
where an expression stands these are the calls at its left edge, and each part of it has its left
edge in that of the whole as long as the parts before it may stay. White space may be tried there
besides, in places that are not counted to the left edge.
-/

namespace RuleGrammar

-----------------------------------------------------------------------------------------
-- White space that is not counted
-----------------------------------------------------------------------------------------

namespace Expr

mutual

/-- Whether white space may be tried before anything has been consumed, in a place that is not
counted to the left edge: after the opener of a goal, between two rounds, or before a separator that
trails.
-/
@[simp] def unseenSpace (nullable : List Name) : Expr → Bool
  | literal _ | charClass _ | anyChar | anchor _ | reference _ _ | sym => false
  | lookahead body _ => body.unseenSpace nullable
  | repetition body min _ sep trailing =>
      body.unseenSpace nullable
        || (body.nullable nullable && (1 < min || (trailing && sep.isSome)))
  | sequence items => unseenSpaceOfItems nullable items
  | choice alternatives => unseenSpaceOfList nullable alternatives
  | longest alternatives => unseenSpaceOfList nullable alternatives
  | goal opener _ _ => opener.unseenSpace nullable || opener.nullable nullable
  | capture body _ => body.unseenSpace nullable

/-- The items of a sequence count as long as those before them can be empty. -/
@[simp] def unseenSpaceOfItems (nullable : List Name) : List Expr → Bool
  | [] => false
  | e :: rest =>
      e.unseenSpace nullable || (e.nullable nullable && unseenSpaceOfItems nullable rest)

@[simp] def unseenSpaceOfList (nullable : List Name) : List Expr → Bool
  | [] => false
  | e :: rest => e.unseenSpace nullable || unseenSpaceOfList nullable rest

end

end Expr

namespace Coupling

variable {c : Coupling} {left right : Site} {pos : Int}

-----------------------------------------------------------------------------------------
-- What an expression may do
-----------------------------------------------------------------------------------------

/-- The calls of a name at an offset are in lockstep, quiet or not. -/
structure CallsAt (c : Coupling) (left right : Site) (name : Name) (pos : Int) (empty : Prop)
    : Prop where
  call
    : c.Lockstep (c.SameMatch left.subject pos empty) (left.call left.scope name pos)
        (right.call right.scope name pos)
  quietCall
    : c.Lockstep (c.SameMatch left.subject pos empty) (left.call left.quiet.scope name pos)
        (right.call right.quiet.scope name pos)

/-- All that an expression may do at an offset and ahead of it is in lockstep: the calls of its
references and of white space, its tags, which are those of one rule, and the faults of its tags
and classes. At the offset itself calls
are asked for only of the names at its edge, and they stay there only if the name is known to be
nullable; white space is tried there if it is at the edge, or unseen. Unless all this is taken
loosely.
-/
structure Covers (c : Coupling) (left right : Site) (loose : Prop) (known edge : List Name)
    (unseen : Prop) (pos : Int) (e : Expr) : Prop where
  space
    : ∀ q,
        left.subject.Ahead pos q
        → (q = pos → loose ∨ Text.ofString "ws" ∈ edge ∨ unseen)
        → c.SpaceAt left right q
  calls
    : ∀ {name capture},
        (Expr.reference name capture).Part e
        → ∀ q,
            left.subject.Ahead pos q
            → (q = pos → loose ∨ name ∈ edge)
            → c.CallsAt left right name q (loose ∨ name ∈ known)
  rule : Expr.sym.Part e → left.rule = right.rule
  sym
    : Expr.sym.Part e
      → left.rule.tag = none
      → c.faults (.grammar (.symOutsideAlternative left.rule.name))
          (.grammar (.symOutsideAlternative left.rule.name))
  tag : Expr.sym.Part e → left.rule.tag = some [] → loose
  classes
    : ∀ {cls fault},
        (Expr.charClass cls).Part e
        → cls.compile = .error fault
        → c.faults (.charClass fault) (.charClass fault)

namespace Covers

variable {loose unseen : Prop} {known edge : List Name} {e : Expr}

theorem part {e' : Expr} (covers : c.Covers left right loose known edge unseen pos e)
    (inside : e'.Part e)
    : c.Covers left right loose known edge unseen pos e' where
  space := covers.space
  calls := fun reference => covers.calls (inside.trans reference)
  rule := fun sym => covers.rule (inside.trans sym)
  sym := fun sym => covers.sym (inside.trans sym)
  tag := fun sym => covers.tag (inside.trans sym)
  classes := fun cls => covers.classes (inside.trans cls)

/-- Further ahead there may be more at the edge: what counts there does not count for the offset
that was left behind.
-/
theorem ahead {edge' : List Name} {unseen' : Prop} {q : Int}
    (covers : c.Covers left right loose known edge unseen pos e)
    (ahead : left.subject.Ahead pos q)
    (still : q = pos → loose ∨ edge' ⊆ edge ∧ (unseen' → unseen))
    : c.Covers left right loose known edge' unseen' q e where
  space := fun q' further here =>
    covers.space q' (ahead.trans further) fun returned => by
      have stays := ahead.middle_eq further returned
      rcases still stays with yes | ⟨smaller, weaker⟩
      · exact Or.inl yes
      · exact (here (returned.trans stays.symm)).imp_right fun spaced =>
          spaced.imp (fun member => smaller member) weaker
  calls := fun reference q' further here =>
    covers.calls reference q' (ahead.trans further) fun returned => by
      have stays := ahead.middle_eq further returned
      rcases still stays with yes | ⟨smaller, -⟩
      · exact Or.inl yes
      · exact (here (returned.trans stays.symm)).imp_right fun member => smaller member
  rule := covers.rule
  sym := covers.sym
  tag := covers.tag
  classes := covers.classes

/-- At the same offset less may be at the edge. -/
theorem narrow {edge' : List Name} {unseen' : Prop}
    (covers : c.Covers left right loose known edge unseen pos e) (smaller : edge' ⊆ edge)
    (weaker : unseen' → unseen)
    : c.Covers left right loose known edge' unseen' pos e :=
  covers.ahead (.refl _ _) fun _ => Or.inr ⟨smaller, weaker⟩

theorem quiet (covers : c.Covers left right loose known edge unseen pos e)
    : c.Covers left.quiet right.quiet loose known edge unseen pos e where
  space := covers.space
  calls := fun reference q ahead here =>
    have both := covers.calls reference q ahead here
    ⟨both.quietCall, both.quietCall⟩
  rule := covers.rule
  sym := covers.sym
  tag := covers.tag
  classes := covers.classes

end Covers

-----------------------------------------------------------------------------------------
-- Parts of covered expressions
-----------------------------------------------------------------------------------------

section Parts

variable (c : Coupling) (left right : Site) (loose : Prop) (known : List Name)

/-- An expression may stay at its offset: it is nullable, unless all this is taken loosely. -/
abbrev MayStay (loose : Prop) (known : List Name) (e : Expr) : Prop :=
  loose ∨ e.nullable known = true

/-- What an expression may do is in lockstep, with the calls at its own left edge. -/
abbrev Covered (pos : Int) (e : Expr) : Prop :=
  c.Covers left right loose known (e.leftCalls known left.rule.sigspace)
    (e.unseenSpace known = true) pos e

/-- What the items of a sequence may do is in lockstep, with the calls at the left edge of their
sequence.
-/
abbrev CoveredItems (first : Bool) (pos : Int) (items : List Expr) : Prop :=
  ∀ e ∈ items,
    c.Covers left right loose known
      (Expr.leftCallsOfItems known left.rule.sigspace first items)
      (Expr.unseenSpaceOfItems known items = true) pos e

/-- What alternatives may do is in lockstep, with the calls at the left edge of any of them. -/
abbrev CoveredList (pos : Int) (alternatives : List Expr) : Prop :=
  ∀ e ∈ alternatives,
    c.Covers left right loose known
      (Expr.leftCallsOfList known left.rule.sigspace alternatives)
      (Expr.unseenSpaceOfList known alternatives = true) pos e

end Parts

variable {loose : Prop} {known : List Name}

namespace Covered

variable {body opener closer : Expr} {q : Int}

theorem lookahead {negated : Bool}
    (covered : c.Covered left right loose known pos (.lookahead body negated))
    : c.Covered left.quiet right.quiet loose known pos body := by
  simp only [Covered, Expr.leftCalls, Expr.unseenSpace] at covered
  exact (covered.part (.lookahead .self)).quiet

theorem captured {name : Option Name}
    (covered : c.Covered left right loose known pos (.capture body name))
    : c.Covered left right loose known pos body := by
  simp only [Covered, Expr.leftCalls, Expr.unseenSpace] at covered
  exact covered.part (.captured .self)

section Repetitions

variable {min : Nat} {max : Option Nat} {trailing : Bool}

/-- The body of a repetition may be tried wherever a round starts. -/
theorem repeated {sep : Option Expr}
    (covered : c.Covered left right loose known pos (.repetition body min max sep trailing))
    (ahead : left.subject.Ahead pos q)
    : c.Covered left right loose known q body := by
  simp only [Covered, Expr.leftCalls, Expr.unseenSpace, Bool.or_eq_true] at covered
  exact (covered.part (.repeated .self)).ahead ahead
    fun _ => Or.inr ⟨List.subset_append_left _ _, Or.inl⟩

/-- White space is tried at the offset of a repetition only if its body may stay there, and if a
second round is asked for or a separator may trail.
-/
theorem repetitionSpace {sep : Option Expr}
    (covered : c.Covered left right loose known pos (.repetition body min max sep trailing))
    (ahead : left.subject.Ahead pos q)
    (still : q = pos → MayStay loose known body ∧ (1 < min ∨ trailing = true ∧ sep.isSome = true))
    : c.SpaceAt left right q := by
  refine covered.space q ahead fun returned => ?_
  obtain ⟨stays, again⟩ := still returned
  refine stays.imp_right fun nullable => Or.inr ?_
  simp [nullable, again]

/-- A separator is tried after a round, at the offset of the repetition only if its body may stay
there.
-/
theorem separator {sep : Expr}
    (covered
      : c.Covered left right loose known pos (.repetition body min max (some sep) trailing))
    (ahead : left.subject.Ahead pos q)
    (still : q = pos → MayStay loose known body ∧ (1 < min ∨ trailing = true))
    : c.Covered left right loose known q sep := by
  simp only [Covered, Expr.leftCalls] at covered
  refine (covered.part (.separator .self)).ahead ahead fun returned => ?_
  obtain ⟨stays, again⟩ := still returned
  refine stays.imp_right fun nullable => ?_
  simp [nullable, Expr.leftCallsOfOption, again]

end Repetitions

section Goals

variable (covered : c.Covered left right loose known pos (.goal opener closer body))

include covered

theorem goalOpener : c.Covered left right loose known pos opener := by
  simp only [Covered, Expr.leftCalls, Expr.unseenSpace, Bool.or_eq_true] at covered
  exact (covered.part (.opener .self)).narrow (List.subset_append_left _ _) Or.inl

/-- White space is tried at the offset of a goal only if its opener may stay there. -/
theorem goalSpace (ahead : left.subject.Ahead pos q) (still : q = pos → MayStay loose known opener)
    : c.SpaceAt left right q := by
  refine covered.space q ahead fun returned => ?_
  refine (still returned).imp_right fun nullable => Or.inr ?_
  simp [nullable]

/-- The body of a goal is tried at the goal's offset only if its opener may stay there. -/
theorem goalBody (ahead : left.subject.Ahead pos q) (still : q = pos → MayStay loose known opener)
    : c.Covered left right loose known q body := by
  simp only [Covered, Expr.leftCalls, Expr.unseenSpace] at covered
  refine (covered.part (.goalBody .self)).ahead ahead fun returned => ?_
  refine (still returned).imp_right fun nullable => ?_
  simp only [nullable, if_true, Bool.or_true, implies_true, and_true]
  exact List.subset_append_of_subset_right _ (List.subset_append_left _ _)

/-- The closer of a goal is tried at the goal's offset only if both opener and body may stay. -/
theorem goalCloser (ahead : left.subject.Ahead pos q)
    (still : q = pos → MayStay loose known opener ∧ MayStay loose known body)
    : c.Covered left right loose known q closer := by
  simp only [Covered, Expr.leftCalls, Expr.unseenSpace] at covered
  refine (covered.part (.closer .self)).ahead ahead fun returned => ?_
  obtain ⟨opens, fills⟩ := still returned
  by_cases all : loose
  · exact Or.inl all
  · simp only [opens.resolve_left all, fills.resolve_left all, if_true, Bool.or_true, implies_true,
      and_true]
    exact Or.inr (List.subset_append_of_subset_right _ (List.subset_append_right _ _))

end Goals

end Covered

section Lists

variable {e : Expr} {rest : List Expr} {q : Int}

/-- The first of some items may be tried where they start. -/
theorem CoveredItems.head {first : Bool}
    (covered : c.CoveredItems left right loose known first pos (e :: rest))
    (ahead : left.subject.Ahead pos q)
    : c.Covered left right loose known q e := by
  simp only [CoveredItems, Expr.leftCallsOfItems, Expr.unseenSpaceOfItems, Bool.or_eq_true]
    at covered
  exact (covered e (by simp)).ahead ahead fun _ =>
    Or.inr ⟨List.subset_append_of_subset_left _ (List.subset_append_right _ _), Or.inl⟩

/-- White space before an item of a sequence is at the edge, unless the item is the first. -/
theorem CoveredItems.space (covered : c.CoveredItems left right loose known false pos (e :: rest))
    : c.SpaceAt left right pos := by
  intro sigspace
  refine (covered e (by simp)).space pos (.refl _ _) (fun _ => ?_) sigspace
  simp [Expr.leftCallsOfItems, sigspace]

/-- The other items are tried at the first offset only if the first item may stay there. -/
theorem CoveredItems.tail {first : Bool}
    (covered : c.CoveredItems left right loose known first pos (e :: rest))
    (ahead : left.subject.Ahead pos q) (still : q = pos → MayStay loose known e)
    : c.CoveredItems left right loose known false q rest := by
  simp only [CoveredItems, Expr.leftCallsOfItems, Expr.unseenSpaceOfItems, Bool.or_eq_true]
    at covered
  intro e' member
  refine (covered e' (by simp [member])).ahead ahead fun returned => ?_
  refine (still returned).imp_right fun nullable => ?_
  simp only [nullable, if_true, Bool.true_and]
  exact ⟨List.subset_append_right _ _, Or.inr⟩

theorem CoveredList.head (covered : c.CoveredList left right loose known pos (e :: rest))
    : c.Covered left right loose known pos e := by
  simp only [CoveredList, Expr.leftCallsOfList, Expr.unseenSpaceOfList, Bool.or_eq_true] at covered
  exact (covered e (by simp)).narrow (List.subset_append_left _ _) Or.inl

theorem CoveredList.tail (covered : c.CoveredList left right loose known pos (e :: rest))
    : c.CoveredList left right loose known pos rest := by
  simp only [CoveredList, Expr.leftCallsOfList, Expr.unseenSpaceOfList, Bool.or_eq_true] at covered
  exact fun e' member =>
    (covered e' (by simp [member])).narrow (List.subset_append_right _ _) Or.inr

end Lists

end Coupling

end RuleGrammar
