import Mathlib.Tactic.Common
import RuleGrammar.Proofs.Notation.Normal
import RuleGrammar.Proofs.Text.Categories

/-! What readers read. A reader takes a value off the start of a text, wherever the text stands,
and leaves a rest. Most readers skip blanks and comments first, so what they read depends only on
the text after these.
-/

namespace RuleGrammar

-----------------------------------------------------------------------------------------
-- Blanks and comments
-----------------------------------------------------------------------------------------

namespace Notation

/-- A text after the blanks and comments that it starts with. -/
def unblank (t : Text) : Text :=
  (Cursor.skip false 0 t).rest

/-- Code points at which skipping stops. -/
def isSolid (c : CodePoint) : Bool :=
  !c.isBlank && c ≠ CodePoint.ofChar '#'

/-- What is left does not depend on where a text stands. -/
theorem skip_rest (inComment : Bool) (offset : Nat) (t : Text)
    : (Cursor.skip inComment offset t).rest = (Cursor.skip inComment 0 t).rest := by
  have anywhere (first second : Nat)
      : (Cursor.skip inComment first t).rest = (Cursor.skip inComment second t).rest := by
    induction t generalizing inComment first second with
    | nil => rfl
    | cons c t ih =>
        simp only [Cursor.skip]
        split
        · exact ih _ _ _
        · split
          · exact ih _ _ _
          · split
            · exact ih _ _ _
            · rfl
  exact anywhere offset 0

theorem unblank_solid {c : CodePoint} (solid : isSolid c = true) (t : Text)
    : unblank (c :: t) = c :: t := by
  simp only [isSolid, Bool.and_eq_true, Bool.not_eq_true', decide_eq_true_eq] at solid
  simp [unblank, Cursor.skip, solid.1, solid.2]

@[simp]
theorem unblank_space (t : Text) : unblank (CodePoint.ofChar ' ' :: t) = unblank t :=
  skip_rest false 1 t

/-- What is left after skipping is nothing or starts with a code point that is not skipped. -/
theorem unblank_cases (t : Text)
    : unblank t = [] ∨ ∃ c rest, unblank t = c :: rest ∧ isSolid c = true := by
  have stops (inComment : Bool)
      : (Cursor.skip inComment 0 t).rest = []
        ∨ ∃ c rest, (Cursor.skip inComment 0 t).rest = c :: rest ∧ isSolid c = true := by
    induction t generalizing inComment with
    | nil => exact Or.inl rfl
    | cons c t ih =>
        simp only [Cursor.skip]
        split
        · simpa only [skip_rest _ (0 + 1)] using ih _
        · split
          · simpa only [skip_rest _ (0 + 1)] using ih _
          · split
            · simpa only [skip_rest _ (0 + 1)] using ih _
            · exact Or.inr ⟨c, t, rfl, by simp_all [isSolid]⟩
  exact stops false

@[simp]
theorem unblank_unblank (t : Text) : unblank (unblank t) = unblank t := by
  rcases unblank_cases t with nothing | ⟨c, rest, ahead, solid⟩
  · rw [nothing]
    rfl
  · rw [ahead, unblank_solid solid]

section Heads

variable {s t : Text} {c : CodePoint} (ahead : unblank s = c :: t)

include ahead

theorem isSolid_of_head : isSolid c = true := by
  rcases unblank_cases s with nothing | ⟨d, rest, starts, solid⟩
  · rw [nothing] at ahead
    cases ahead
  · rw [starts] at ahead
    cases ahead
    exact solid

theorem unblank_head : unblank (c :: t) = c :: t :=
  unblank_solid (isSolid_of_head ahead) t

end Heads

theorem length_unblank_le (s : Text) : (unblank s).length ≤ s.length := by
  have shrinks (inComment : Bool) : (Cursor.skip inComment 0 s).rest.length ≤ s.length := by
    induction s generalizing inComment with
    | nil => simp [Cursor.skip]
    | cons c s ih =>
        simp only [Cursor.skip]
        split
        · rw [skip_rest]
          exact Nat.le_succ_of_le (ih _)
        · split
          · rw [skip_rest]
            exact Nat.le_succ_of_le (ih _)
          · split
            · rw [skip_rest]
              exact Nat.le_succ_of_le (ih _)
            · exact Nat.le_refl _
  exact shrinks false

-----------------------------------------------------------------------------------------
-- Where texts start and end
-----------------------------------------------------------------------------------------

/-- A run of code points ends in front of a text that starts with another one. -/
theorem stopped {test : CodePoint → Bool} {rest : Text} (stops : ∀ c ∈ rest.head?, test c = false)
    : rest.takeWhile test = [] ∧ rest.dropWhile test = rest := by
  cases rest with
  | nil => simp
  | cons c rest =>
      have stop := stops c rfl
      simp [stop]

/-- A text that starts with another code point than a literal does not start with the literal. -/
theorem isPrefixOf_eq_false {literal : Text} {c d : CodePoint} (spelled : literal.head? = some d)
    (other : c ≠ d) (rest : Text)
    : literal.isPrefixOf (c :: rest) = false := by
  obtain ⟨more, rfl⟩ := List.head?_eq_some_iff.mp spelled
  rw [List.isPrefixOf_cons_cons, beq_false_of_ne other.symm, Bool.false_and]

theorem identifierAt_append {name rest : Text} (named : IsIdentifier name)
    (stops : ∀ c ∈ rest.head?, c.isIdentifierPart = false)
    : Reader.identifierAt (name ++ rest) = name := by
  cases name with
  | nil => exact named.elim
  | cons c name =>
      obtain ⟨start, parts⟩ := named
      simp [Reader.identifierAt, start, List.takeWhile_append_of_pos parts, (stopped stops).1]

/-- Names do not start with anything that is skipped. -/
theorem unblank_name {name : Name} (named : IsIdentifier name) (rest : Text)
    : unblank (name ++ rest) = name ++ rest := by
  cases name with
  | nil => exact named.elim
  | cons c name =>
      refine unblank_solid ?_ _
      rcases named.1 with starts | rfl
      · have other : c ≠ CodePoint.ofChar '#' := by
          rintro rfl
          revert starts
          decide
        simp [isSolid, CodePoint.isBlank_of_isIdentifierStart starts, other]
      · decide

namespace Reader

-----------------------------------------------------------------------------------------
-- Readers in general
-----------------------------------------------------------------------------------------

/-- A reader takes a value off the start of a text, and this is what is left. -/
def Reads {α : Type} (reader : Reader α) (source : Text) (a : α) (rest : Text) : Prop :=
  ∀ offset, ∃ offset', reader ⟨offset, source⟩ = .ok (a, ⟨offset', rest⟩)

namespace Reads

variable {α β : Type} {s m rest : Text}

theorem pure (a : α) : Reads (Pure.pure a) s a s :=
  fun offset => ⟨offset, rfl⟩

theorem bind {reader : Reader α} {next : α → Reader β} {a : α} {b : β}
    (first : reader.Reads s a m) (later : (next a).Reads m b rest)
    : (reader >>= next).Reads s b rest := by
  intro offset
  obtain ⟨middle, ran⟩ := first offset
  obtain ⟨last, ranOn⟩ := later middle
  refine ⟨last, ?_⟩
  change (do
    let (a, cursor) ← reader ⟨offset, s⟩
    next a cursor) = _
  rw [ran]
  exact ranOn

theorem skipBlank (s : Text) : Reads skipBlank s () (unblank s) := by
  intro offset
  refine ⟨(Cursor.skip false offset s).offset, ?_⟩
  rw [unblank, ← skip_rest false offset]
  rfl

theorem peek (s : Text) : Reads peek s s.head? s :=
  fun offset => ⟨offset, rfl⟩

theorem bump (t s : Text) : Reads (bump t.length) (t ++ s) () s := by
  intro offset
  refine ⟨offset + t.length, ?_⟩
  simp [Reader.bump]

theorem pass (c : CodePoint) (s : Text) : Reads (Reader.bump 1) (c :: s) () s :=
  bump [c] s

theorem rounds (s : Text) : Reads rounds s (s.length + 1) s :=
  fun offset => ⟨offset, rfl⟩

theorem starts (literal s : Text) : Reads (starts literal) s (literal.isPrefixOf s) s :=
  fun offset => ⟨offset, rfl⟩

-----------------------------------------------------------------------------------------
-- Marks
-----------------------------------------------------------------------------------------

theorem tryEat {literal : Text} (ahead : unblank s = literal ++ rest)
    : Reads (tryEat literal) s true rest := by
  refine .bind (.skipBlank s) (.bind (.starts literal _) ?_)
  rw [ahead, List.isPrefixOf_iff_prefix.mpr (List.prefix_append literal rest), if_pos rfl]
  exact .bind (.bump literal rest) (.pure true)

theorem tryEat_missed {literal : Text} (missing : literal.isPrefixOf (unblank s) = false)
    : Reads (Reader.tryEat literal) s false (unblank s) := by
  refine .bind (.skipBlank s) (.bind (.starts literal _) ?_)
  rw [missing, if_neg (by decide)]
  exact .pure false

theorem tryEat_other {literal : Text} {c d : CodePoint} (ahead : unblank s = c :: rest)
    (spelled : literal.head? = some d) (other : c ≠ d)
    : Reads (Reader.tryEat literal) s false (c :: rest) := by
  rw [← ahead]
  refine .tryEat_missed ?_
  rw [ahead, isPrefixOf_eq_false spelled other]

theorem eat {literal : Text} (ahead : unblank s = literal ++ rest)
    : Reads (eat literal) s () rest := by
  refine .bind (.tryEat ahead) ?_
  rw [if_pos rfl]
  exact .pure ()

-----------------------------------------------------------------------------------------
-- Names and numbers
-----------------------------------------------------------------------------------------

theorem span {test : CodePoint → Bool} {t : Text} (each : ∀ c ∈ t, test c = true)
    (stops : ∀ c ∈ rest.head?, test c = false)
    : Reads (span test) (t ++ rest) t rest := by
  obtain ⟨noMore, whole⟩ := stopped stops
  intro offset
  refine ⟨offset + t.length, ?_⟩
  simp [Reader.span, List.takeWhile_append_of_pos each, List.dropWhile_append_of_pos each, noMore,
    whole]

theorem identifier? (s : Text)
    : Reads identifier? s (identifierAt (unblank s)) (unblank s) :=
  .bind (.skipBlank s) fun offset => ⟨offset, rfl⟩

theorem identifier {name : Name} (named : IsIdentifier name) (ahead : unblank s = name ++ rest)
    (stops : ∀ c ∈ rest.head?, c.isIdentifierPart = false)
    : Reads identifier s name rest := by
  refine .bind (.identifier? s) ?_
  rw [ahead, identifierAt_append named stops, if_neg (by cases name <;> simp_all [IsIdentifier])]
  exact .bind (.bump name rest) (.pure name)

theorem keyword {word : Text} (named : IsIdentifier word) (ahead : unblank s = word ++ rest)
    (stops : ∀ c ∈ rest.head?, c.isIdentifierPart = false)
    : Reads (keyword word) s true rest := by
  refine .bind (.identifier? s) ?_
  rw [ahead, identifierAt_append named stops, if_pos rfl]
  exact .bind (.bump word rest) (.pure true)

theorem keyword_missed {word : Text} (other : identifierAt (unblank s) ≠ word)
    : Reads (Reader.keyword word) s false (unblank s) := by
  refine .bind (.identifier? s) ?_
  rw [if_neg other]
  exact .pure false

theorem numeral {n : Nat} (missing : Cause) (isCount : IsCount n)
    (stops : ∀ c ∈ rest.head?, c.isAsciiDigit = false)
    : Reads (numeral missing) (Text.ofNat n ++ rest) n rest := by
  refine .bind (.span (Text.isAsciiDigit_ofNat n) stops) ?_
  rw [if_neg (by simpa using Text.ofNat_ne_nil n), if_neg (Nat.not_lt.mpr isCount),
    Numeral.valueOf_ofNat]
  exact .pure n

end Reads

end Reader

end Notation

end RuleGrammar
