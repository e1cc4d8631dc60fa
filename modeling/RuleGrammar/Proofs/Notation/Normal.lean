import Mathlib.Data.List.TakeWhile
import RuleGrammar.Grammar.Basic
import RuleGrammar.Notation.Body
import RuleGrammar.Proofs.Notation.Yields
import RuleGrammar.Proofs.Text.Numerals

/-! Normal expressions, those that notation can write. Whatever body is read from notation is
normal: nothing is a choice of one, a sequence of one or a repetition without rounds between its
bounds, and names are what the readers of names take.
-/

namespace RuleGrammar

-----------------------------------------------------------------------------------------
-- Normal expressions
-----------------------------------------------------------------------------------------

/-- Identifiers: what may start one or an underscore, followed by what may continue one. -/
def IsIdentifier : Name → Prop
  | [] => False
  | c :: rest =>
      (c.isIdentifierStart = true ∨ c = CodePoint.ofChar '_')
        ∧ ∀ d ∈ rest, d.isIdentifierPart = true

/-- Names of properties: letters, digits and underscores, with no digit at the start. -/
def IsPropertyName : Name → Prop
  | [] => False
  | c :: rest => c.isAsciiDigit = false ∧ ∀ d ∈ c :: rest, Notation.isPropertyPart d = true

/-- A class whose ranges run forward and whose properties have names. -/
structure CharClass.Normal (cls : CharClass) : Prop where
  ranges : ∀ range ∈ cls.ranges, range.1.value ≤ range.2.value
  props : ∀ prop ∈ cls.props, IsPropertyName prop

theorem CharClass.Normal.union {a b : CharClass} (normalA : a.Normal) (normalB : b.Normal)
    : (a.union b).Normal where
  ranges := List.forall_mem_append.mpr ⟨normalA.ranges, normalB.ranges⟩
  props := List.forall_mem_append.mpr ⟨normalA.props, normalB.props⟩

/-- A count whose numeral may be written. -/
def IsCount (n : Nat) : Prop :=
  (Text.ofNat n).length ≤ Numeral.digitLimit

instance (n : Nat) : Decidable (IsCount n) :=
  inferInstanceAs (Decidable ((Text.ofNat n).length ≤ Numeral.digitLimit))

/-- Bounds with room for some number of rounds. -/
structure Bounds (min : Nat) (max : Option Nat) : Prop where
  least : IsCount min
  most : ∀ bound ∈ max, min ≤ bound ∧ IsCount bound

/-- Expressions that notation can write. -/
inductive Expr.Normal : Expr → Prop
  | literal (text : Text) : Expr.Normal (.literal text)
  | charClass {cls : CharClass} (normal : cls.Normal) : Expr.Normal (.charClass cls)
  | anyChar : Expr.Normal .anyChar
  | inputStart : Expr.Normal (.anchor .inputStart)
  | inputEnd : Expr.Normal (.anchor .inputEnd)
  | reference {rule : Name} {capture : Option Name} (called : IsIdentifier rule)
    (captured : ∀ name ∈ capture, IsIdentifier name)
    : Expr.Normal (.reference rule capture)
  | sym : Expr.Normal .sym
  | lookahead {body : Expr} (normal : body.Normal) (negated : Bool)
    : Expr.Normal (.lookahead body negated)
  | repetition {body : Expr} {min : Nat} {max : Option Nat} {sep : Option Expr} {trailing : Bool}
    (normal : body.Normal) (bounds : Bounds min max) (separator : ∀ e ∈ sep, e.Normal)
    (trailed : trailing = true → sep.isSome = true)
    : Expr.Normal (.repetition body min max sep trailing)
  | sequence {items : List Expr} (several : items.length ≠ 1) (each : ∀ e ∈ items, e.Normal)
    : Expr.Normal (.sequence items)
  | choice {alternatives : List Expr} (several : 2 ≤ alternatives.length)
    (each : ∀ e ∈ alternatives, e.Normal)
    : Expr.Normal (.choice alternatives)
  | longest {alternatives : List Expr} (several : 2 ≤ alternatives.length)
    (each : ∀ e ∈ alternatives, e.Normal)
    : Expr.Normal (.longest alternatives)
  | goal {opener closer body : Expr} (opens : opener.Normal) (closes : closer.Normal)
    (normal : body.Normal)
    : Expr.Normal (.goal opener closer body)
  | positional {body : Expr} (normal : body.Normal) : Expr.Normal (.capture body none)
  | named {body : Expr} {name : Name} (named : IsIdentifier name) (normal : body.Normal)
    (other : ∀ rule capture, body ≠ .reference rule capture)
    : Expr.Normal (.capture body (some name))

/-- All the rules of a layer have normal bodies. -/
def Layer.Normal (layer : Layer) : Prop :=
  ∀ row ∈ layer.entries, ∀ rule ∈ row.2.rules, rule.expr.Normal

namespace Notation

open Reader

-----------------------------------------------------------------------------------------
-- Names and numbers that are read
-----------------------------------------------------------------------------------------

theorem isIdentifier_identifierAt (t : Text)
    : identifierAt t = [] ∨ IsIdentifier (identifierAt t) := by
  unfold identifierAt
  split
  · exact Or.inl rfl
  · split
    · rename_i starts
      simp only [Bool.or_eq_true, decide_eq_true_eq] at starts
      exact Or.inr ⟨starts, fun d member => List.mem_takeWhile_imp member⟩
    · exact Or.inl rfl

theorem identifier_yields : identifier.Yields IsIdentifier := by
  have sought : identifier?.Yields fun name => name = [] ∨ IsIdentifier name := by
    unfold identifier?
    refine .after fun _ cursor name cursor' ran => ?_
    cases ran
    exact isIdentifier_identifierAt cursor.rest
  unfold identifier
  refine .bind sought fun name found => ?_
  split
  · exact .fail _
  · rename_i nonempty
    refine .after fun _ => .pure (found.resolve_left fun empty => nonempty ?_)
    rw [empty, List.isEmpty_nil]

theorem numeral_yields (missing : Cause) : (numeral missing).Yields IsCount := by
  have digits : (span CodePoint.isAsciiDigit).Yields fun digits =>
      ∀ c ∈ digits, c.isAsciiDigit = true := by
    intro cursor digits cursor' ran
    cases ran
    exact fun c member => List.mem_takeWhile_imp member
  unfold numeral
  refine .bind digits fun digits each => ?_
  split
  · exact .fail _
  · split
    · exact .throw _
    · rename_i nonempty short
      rw [List.isEmpty_iff] at nonempty
      have least := Numeral.length_ofNat_valueOf_le nonempty each
      exact .pure (Nat.le_trans least (Nat.le_of_not_lt short))

theorem count_yields : count.Yields fun bounds => Bounds bounds.1 bounds.2 := by
  unfold count
  refine .after fun _ => .bind (numeral_yields _) fun least isCount => .after fun ranged => ?_
  split
  · refine .after fun _ => .after fun unbounded => ?_
    split
    · exact .after fun _ => .pure ⟨isCount, by simp⟩
    · refine .bind (numeral_yields _) fun most isMost => ?_
      split
      · exact .fail _
      · exact .pure ⟨isCount, by simpa [isMost] using ‹¬most < least›⟩
  · exact .pure ⟨isCount, by simpa using isCount⟩

theorem quantifier_yields
    : quantifier.Yields fun found => ∀ bounds ∈ found, Bounds bounds.1 bounds.2 := by
  have zero : IsCount 0 := by decide
  have one : IsCount 1 := by decide
  unfold quantifier
  refine .after fun counted => ?_
  split
  · exact .bind count_yields fun bounds normal => .pure (by simpa using normal)
  · refine .after fun optional => ?_
    split
    · exact .pure (by simpa using ⟨zero, by simpa using one⟩)
    · refine .after fun many => ?_
      split
      · exact .pure (by simpa using ⟨zero, by simp⟩)
      · refine .after fun positive => ?_
        split
        · exact .pure (by simpa using ⟨one, by simp⟩)
        · exact .pure (by simp)

-----------------------------------------------------------------------------------------
-- Classes that are read
-----------------------------------------------------------------------------------------

theorem orderedRange_forward (a b : CodePoint)
    : (orderedRange a b).1.value ≤ (orderedRange a b).2.value := by
  unfold orderedRange
  split
  · exact Nat.le_of_lt ‹_›
  · exact Nat.le_of_not_lt ‹_›

theorem propertyName_yields : propertyName.Yields IsPropertyName := by
  rintro ⟨offset, rest⟩ name cursor' ran
  cases rest with
  | nil => cases ran
  | cons c rest =>
      change (if isPropertyPart c && !c.isAsciiDigit then span isPropertyPart
        else fail .expectedProperty) ⟨offset, c :: rest⟩ = .ok (name, cursor') at ran
      split at ran
      · rename_i starts
        obtain ⟨isPart, noDigit⟩ := Bool.and_eq_true_iff.mp starts
        cases ran
        rw [List.takeWhile_cons_of_pos isPart]
        refine ⟨by simpa using noDigit, List.forall_mem_cons.mpr ⟨isPart, fun d member => ?_⟩⟩
        exact List.mem_takeWhile_imp member
      · cases ran

/-- The items of a class add normal ones, by induction on how many there may be. -/
theorem classItems_yields (rounds : Nat) {cls : CharClass} (normal : cls.Normal)
    : (classItems rounds cls).Yields CharClass.Normal := by
  induction rounds generalizing cls with
  | zero => exact .fail _
  | succ rounds ih =>
      unfold classItems
      refine .after fun _ => .after fun ahead => ?_
      split
      · exact .fail _
      · split
        · exact .after fun _ => .pure normal
        · refine .after fun item => ?_
          split
          · exact ih ⟨normal.ranges, normal.props⟩
          · rename_i a
            refine .after fun ranged => ?_
            split
            · refine .after fun _ => .after fun last => ?_
              split
              · exact .fail _
              · rename_i b
                refine ih ⟨List.forall_mem_append.mpr ⟨normal.ranges, ?_⟩, normal.props⟩
                simpa using orderedRange_forward a b
            · exact ih ⟨normal.ranges, normal.props⟩

theorem classTerm_yields : classTerm.Yields CharClass.Normal := by
  unfold classTerm
  refine .after fun bracketed => ?_
  split
  · exact .after fun rounds => classItems_yields rounds ⟨by simp, by simp⟩
  · refine .after fun property => ?_
    split
    · exact .bind propertyName_yields fun name named => .pure ⟨by simp, by simpa using named⟩
    · exact .fail _

theorem classTerms_yields (rounds : Nat) {cls : CharClass} (normal : cls.Normal)
    : (classTerms rounds cls).Yields CharClass.Normal := by
  induction rounds generalizing cls with
  | zero => exact .pure normal
  | succ rounds ih =>
      unfold classTerms
      refine .after fun further => ?_
      split
      · exact .bind classTerm_yields fun term normalTerm => ih (normal.union normalTerm)
      · exact .pure normal

theorem classExpr_yields : classExpr.Yields Expr.Normal := by
  unfold classExpr
  refine .after fun negated => .after fun _ => .bind classTerm_yields fun first normalFirst => ?_
  refine .after fun rounds => .bind (classTerms_yields rounds normalFirst) fun cls normal => ?_
  exact .after fun _ => .pure (.charClass ⟨normal.ranges, normal.props⟩)

-----------------------------------------------------------------------------------------
-- Levels of binding
-----------------------------------------------------------------------------------------

/-- What is neither nothing nor a single alternative has two of them. -/
theorem two_le_length {items : List Expr} (nonempty : items ≠ [])
    (several : ∀ item, items = [item] → False)
    : 2 ≤ items.length := by
  match items with
  | [] => exact absurd rfl nonempty
  | [item] => exact (several item rfl).elim
  | _ :: _ :: _ => simp

theorem sequenceOf_normal {items : List Expr} (each : ∀ e ∈ items, e.Normal)
    : (sequenceOf items).Normal := by
  unfold sequenceOf
  split
  · exact each _ (by simp)
  · rename_i several
    refine .sequence (fun single => ?_) each
    obtain ⟨item, rfl⟩ := List.length_eq_one_iff.mp single
    exact several item rfl

theorem longestOf_normal {items : List Expr} (nonempty : items ≠ [])
    (each : ∀ e ∈ items, e.Normal)
    : (longestOf items).Normal := by
  unfold longestOf
  split
  · exact each _ (by simp)
  · exact .longest (two_le_length nonempty ‹_›) each

theorem choiceOf_normal {items : List Expr} (nonempty : items ≠ []) (each : ∀ e ∈ items, e.Normal)
    : (choiceOf items).Normal := by
  unfold choiceOf
  split
  · exact each _ (by simp)
  · exact .choice (two_le_length nonempty ‹_›) each

/-- Alternatives are normal if each one that is read is, by induction on how many there may be. -/
theorem furtherAlternatives_yields {mark : Reader Bool} {alternative : Reader Expr}
    (yields : alternative.Yields Expr.Normal) (rounds : Nat)
    : (furtherAlternatives mark alternative rounds).Yields fun items =>
        ∀ e ∈ items, e.Normal := by
  induction rounds with
  | zero => exact .pure (by simp)
  | succ rounds ih =>
      unfold furtherAlternatives
      refine .after fun further => ?_
      split
      · exact .bind yields fun next normal =>
          .bind ih fun rest each => .pure (List.forall_mem_cons.mpr ⟨normal, each⟩)
      · exact .pure (by simp)

theorem alternatives_yields {mark : Reader Bool} {alternative : Reader Expr}
    (yields : alternative.Yields Expr.Normal)
    : (alternatives mark alternative).Yields fun items =>
        items ≠ [] ∧ ∀ e ∈ items, e.Normal := by
  unfold alternatives
  refine .after fun _ => .bind yields fun first normal => .after fun rounds => ?_
  exact .bind (furtherAlternatives_yields yields rounds) fun further each =>
    .pure ⟨List.cons_ne_nil _ _, List.forall_mem_cons.mpr ⟨normal, each⟩⟩

section Levels

variable {atom : Reader Expr} (atoms : atom.Yields Expr.Normal)

include atoms

theorem quantified_yields : (quantified atom).Yields Expr.Normal := by
  unfold quantified
  refine .bind atoms fun body normal => .bind quantifier_yields fun found bounded => ?_
  split
  · exact .pure normal
  · rename_i least most
    have bounds : Bounds least most := bounded _ rfl
    refine .after fun trailing => ?_
    split
    · exact .bind atoms fun sep separator =>
        .pure (.repetition normal bounds (by simpa using separator) (by simp))
    · refine .after fun separated => ?_
      split
      · exact .bind atoms fun sep separator =>
          .pure (.repetition normal bounds (by simpa using separator) (by simp))
      · exact .pure (.repetition normal bounds (by simp) (by simp))

/-- The items of a sequence add normal ones, by induction on how many there may be. -/
theorem sequenceItems_yields (rounds : Nat) {items : List Expr} (each : ∀ e ∈ items, e.Normal)
    : (sequenceItems atom rounds items).Yields fun items => ∀ e ∈ items, e.Normal := by
  induction rounds generalizing items with
  | zero => exact .pure each
  | succ rounds ih =>
      unfold sequenceItems
      refine .after fun _ => .after fun ahead => ?_
      split
      · exact .pure each
      · split
        · exact .pure each
        · split
          · refine .after fun _ => ?_
            split
            · exact .fail _
            · rename_i opener earlier
              obtain ⟨opens, before⟩ := List.forall_mem_cons.mp each
              refine .bind (quantified_yields atoms) fun closer closes =>
                .bind (quantified_yields atoms) fun body normal => ih ?_
              exact List.forall_mem_cons.mpr ⟨.goal opens closes normal, before⟩
          · exact .bind (quantified_yields atoms) fun item normal =>
              ih (List.forall_mem_cons.mpr ⟨normal, each⟩)

theorem sequence_yields : (sequence atom).Yields Expr.Normal := by
  unfold sequence
  refine .after fun rounds => .bind (sequenceItems_yields atoms rounds (by simp)) ?_
  exact fun items each => .pure (sequenceOf_normal (by simpa using each))

theorem longest_yields : (longest atom).Yields Expr.Normal := by
  unfold longest
  exact .bind (alternatives_yields (sequence_yields atoms)) fun items each =>
    .pure (longestOf_normal each.1 each.2)

theorem choice_yields : (choice atom).Yields Expr.Normal := by
  unfold choice
  exact .bind (alternatives_yields (longest_yields atoms)) fun items each =>
    .pure (choiceOf_normal each.1 each.2)

-----------------------------------------------------------------------------------------
-- Atoms
-----------------------------------------------------------------------------------------

theorem lookaheadRest_yields (negated : Bool)
    : (lookaheadRest atom negated).Yields Expr.Normal := by
  unfold lookaheadRest
  exact .bind (choice_yields atoms) fun body normal => .after fun _ =>
    .pure (.lookahead normal negated)

theorem signedLookahead_yields (negated : Bool)
    : (signedLookahead atom negated).Yields Expr.Normal := by
  unfold signedLookahead
  refine .after fun before => ?_
  split
  · exact lookaheadRest_yields atoms negated
  · exact .bind identifier_yields fun name named => .after fun _ =>
      .pure (.lookahead (.reference named (by simp)) negated)

omit atoms in
theorem aliased_yields {name : Name} (named : IsIdentifier name)
    : (namedAssertion.aliased name).Yields Expr.Normal := by
  unfold namedAssertion.aliased
  refine .after fun renamed => ?_
  split
  · exact .after fun _ => .bind identifier_yields fun target called => .after fun _ =>
      .pure (.reference called (by simpa using named))
  · exact .after fun _ => .pure (.reference named (by simpa using named))

theorem namedAssertion_yields : (namedAssertion atom).Yields Expr.Normal := by
  unfold namedAssertion
  refine .bind identifier_yields fun name named => ?_
  split
  · exact lookaheadRest_yields atoms false
  · split
    · refine .after fun closed => ?_
      split
      · exact .pure .sym
      · exact aliased_yields named
    · exact aliased_yields named

theorem assertion_yields : (assertion atom).Yields Expr.Normal := by
  unfold assertion
  refine .after fun _ => .after fun c => ?_
  split
  · exact classExpr_yields
  · split
    · exact .after fun _ => signedLookahead_yields atoms _
    · refine .after fun silent => ?_
      split
      · exact .bind identifier_yields fun name named => .after fun _ =>
          .pure (.reference named (by simp))
      · exact namedAssertion_yields atoms

theorem namedCapture_yields : (namedCapture atom).Yields Expr.Normal := by
  unfold namedCapture
  refine .bind identifier_yields fun name named => .after fun _ => .after fun _ =>
    .bind atoms fun body normal => ?_
  split
  · cases normal with
    | reference called _ => exact .pure (.reference called (by simpa using named))
  · rename_i other
    exact .pure (.named named normal other)

omit atoms in
theorem backslashAtom_yields : backslashAtom.Yields Expr.Normal := by
  have normal {c : Option CodePoint} {cls : CharClass} (found : c.bind bodyClass? = some cls)
      : cls.Normal := by
    obtain ⟨c, -, isClass⟩ := Option.bind_eq_some_iff.mp found
    unfold bodyClass? at isClass
    split at isClass
    · cases isClass
      exact ⟨by simp, by simp⟩
    · split at isClass
      · cases isClass
        exact ⟨by simp, by simp⟩
      · split at isClass
        · obtain ⟨e, -, rfl⟩ := Option.map_eq_some_iff.mp isClass
          exact ⟨by simp, by simp⟩
        · cases isClass
  unfold backslashAtom
  refine .after fun c => ?_
  split
  · rename_i found
    exact .after fun _ => .pure (.charClass (normal found))
  · exact .after fun c => .pure (.literal [c])

omit atoms in
theorem wordAtom_yields (c : CodePoint) : (wordAtom c).Yields Expr.Normal := by
  unfold wordAtom
  refine .after fun word => ?_
  split
  · exact .fail _
  · exact .pure (.literal word)

theorem atomOver_yields : (atomOver atom).Yields Expr.Normal := by
  unfold atomOver
  refine .after fun _ => .after fun ahead => ?_
  split
  · exact .fail _
  · rename_i c
    split
    · exact .after fun _ => .after fun rounds => .after fun text => .pure (.literal text)
    split
    · exact .after fun _ => .bind (choice_yields atoms) fun body normal => .after fun _ =>
        .pure normal
    split
    · exact .after fun _ => .bind (choice_yields atoms) fun body normal => .after fun _ =>
        .pure (.positional normal)
    refine .after fun captures => ?_
    split
    · exact .after fun _ => namedCapture_yields atoms
    split
    · exact .after fun _ => .pure .inputEnd
    split
    · exact .after fun _ => .pure .inputStart
    split
    · exact .after fun _ => .pure .anyChar
    split
    · exact .after fun _ => backslashAtom_yields
    split
    · exact .after fun _ => assertion_yields atoms
    · exact wordAtom_yields c

end Levels

/-- Atoms are normal, by induction on how deep they may nest. -/
theorem atomTo_yields (depth : Nat) : (atomTo depth).Yields Expr.Normal := by
  induction depth with
  | zero => exact .fail _
  | succ depth ih => exact atomOver_yields ih

theorem body_yields : body.Yields Expr.Normal := by
  unfold body
  exact .after fun depth => choice_yields (atomTo_yields depth)

end Notation

end RuleGrammar
