import RuleGrammar.Proofs.Notation.Reads
import RuleGrammar.Proofs.Notation.Written

/-! Literals and classes that are written are read back. -/

namespace RuleGrammar.Notation

open Reader

variable {s rest : Text}

-----------------------------------------------------------------------------------------
-- Escapes and literals
-----------------------------------------------------------------------------------------

theorem ne_of_isEscapeLetter {c letter : CodePoint} (other : isEscapeLetter c = false)
    (changes : isEscapeLetter letter = true)
    : c ≠ letter := by
  rintro rfl
  rw [changes] at other
  cases other

/-- A backslash keeps whatever is not a letter that it changes. -/
theorem Reader.Reads.escape {c : CodePoint} (other : isEscapeLetter c = false) (rest : Text)
    : Reads escape (c :: rest) c rest := by
  have distinct {letter : CodePoint} := @ne_of_isEscapeLetter c letter other
  refine .bind (.peek _) (.bind (.pass c rest) ?_)
  rw [if_neg (distinct (by decide)), if_neg (distinct (by decide)), if_neg (distinct (by decide)),
    if_neg (distinct (by decide)), if_neg (distinct (by decide))]
  exact .pure c

/-- Nor does it make a class of it. -/
theorem ofLetter?_of_other {c : CodePoint} (other : isEscapeLetter c = false)
    : ClassEscape.ofLetter? c = none := by
  have distinct {letter : CodePoint} := @ne_of_isEscapeLetter c letter other
  rw [ClassEscape.ofLetter?, if_neg (distinct (by decide)), if_neg (distinct (by decide)),
    if_neg (distinct (by decide)), if_neg (distinct (by decide))]

/-- A literal is read up to its closing quote, by induction on its text. -/
theorem literalRest_reads (text rest : Text) {rounds : Nat} (enough : text.length < rounds)
    : Reads (literalRest '\'' rounds)
        (text.flatMap literalPoint ++ (CodePoint.ofChar '\'' :: rest)) text rest := by
  induction text generalizing rounds with
  | nil =>
      obtain ⟨rounds, rfl⟩ : ∃ n, rounds = n + 1 := ⟨rounds - 1, by simp at enough; omega⟩
      refine .bind (.peek _) (.bind (.pass _ rest) ?_)
      rw [if_pos rfl]
      exact .pure []
  | cons c text ih =>
      obtain ⟨rounds, rfl⟩ : ∃ n, rounds = n + 1 := ⟨rounds - 1, by simp at enough; omega⟩
      have later : Reads (literalRest '\'' rounds) _ text rest := ih (by simpa using enough)
      rw [List.flatMap_cons, List.append_assoc]
      by_cases marked : c = CodePoint.ofChar '\'' ∨ c = CodePoint.ofChar '\\'
      · rw [literalPoint, if_pos (by simpa using marked)]
        refine .bind (.peek _) (.bind (.pass _ _) ?_)
        rw [if_neg (by decide), if_pos rfl]
        refine .bind (.escape ?_ _) (.bind later (.pure _))
        rcases marked with rfl | rfl <;> decide
      · rw [literalPoint, if_neg (by simpa using marked)]
        rw [not_or] at marked
        refine .bind (.peek _) (.bind (.pass _ _) ?_)
        rw [if_neg marked.1, if_neg marked.2]
        exact .bind later (.pure _)

-----------------------------------------------------------------------------------------
-- Items of classes
-----------------------------------------------------------------------------------------

theorem isSolid_of_isEscapeLetter {c : CodePoint} (letter : isEscapeLetter c = true)
    : isSolid c = true ∧ c ≠ CodePoint.ofChar ']' ∧ c ≠ CodePoint.ofChar '\\' := by
  simp only [isEscapeLetter, List.contains_iff_mem] at letter
  have each : ∀ c ∈ ("nrtxudwsh" : Text),
      isSolid c = true ∧ c ≠ CodePoint.ofChar ']' ∧ c ≠ CodePoint.ofChar '\\' := by decide
  exact each c letter

/-- A text that starts with an item of a class or closes the class. -/
def GoesOn (t : Text) : Prop :=
  ∃ c rest, t = c :: rest ∧ isSolid c = true ∧ c ≠ CodePoint.ofChar '.'

theorem GoesOn.unblank (ahead : GoesOn s) : unblank s = s := by
  obtain ⟨c, rest, rfl, solid, -⟩ := ahead
  exact unblank_solid solid rest

theorem GoesOn.tryEat_missed (ahead : GoesOn s) : Reads (tryEat "..") s false s := by
  have stays := ahead.unblank
  obtain ⟨c, rest, rfl, -, other⟩ := ahead
  exact .tryEat_other stays rfl other

/-- An item starts with a code point that stays and that neither closes the class nor makes a
range.
-/
theorem classPoint_cons (c : CodePoint)
    : ∃ d t, classPoint c = d :: t ∧ isSolid d = true ∧ d ≠ CodePoint.ofChar ']'
        ∧ d ≠ CodePoint.ofChar '.' := by
  unfold classPoint
  split
  · rename_i letter
    obtain ⟨solid, other, -⟩ := isSolid_of_isEscapeLetter letter
    refine ⟨c, [], rfl, solid, other, ?_⟩
    rintro rfl
    revert letter
    decide
  · exact ⟨_, _, rfl, by decide, by decide, by decide⟩

theorem goesOn_classPoint (c : CodePoint) (rest : Text) : GoesOn (classPoint c ++ rest) := by
  obtain ⟨d, t, spelled, solid, -, other⟩ := classPoint_cons c
  exact ⟨d, t ++ rest, by rw [spelled, List.cons_append], solid, other⟩

theorem goesOn_classEscape (e : ClassEscape) (rest : Text) : GoesOn (classEscape e ++ rest) :=
  ⟨_, _, rfl, by decide, by decide⟩

theorem goesOn_close (rest : Text) : GoesOn (CodePoint.ofChar ']' :: rest) :=
  ⟨_, _, rfl, by decide, by decide⟩

theorem classItem_point (c : CodePoint) (rest : Text)
    : Reads classItem (classPoint c ++ rest) (.point c) rest := by
  unfold classPoint
  split
  · rename_i letter
    refine .bind (.peek _) (.bind (.pass c rest) ?_)
    rw [if_neg (isSolid_of_isEscapeLetter letter).2.2]
    exact .pure _
  · rename_i other
    rw [Bool.not_eq_true] at other
    change Reads classItem (CodePoint.ofChar '\\' :: c :: rest) (.point c) rest
    refine .bind (.peek _) (.bind (.pass _ _) ?_)
    rw [if_pos rfl]
    refine .bind (.peek _) ?_
    rw [List.head?_cons, Option.bind_some, ofLetter?_of_other other]
    exact .bind (.escape other rest) (.pure _)

theorem classItem_escape (e : ClassEscape) (rest : Text)
    : Reads classItem (classEscape e ++ rest) (.escape e) rest := by
  have known : ClassEscape.ofLetter? e.letter = some e := by cases e <;> decide
  change Reads classItem (CodePoint.ofChar '\\' :: e.letter :: rest) (.escape e) rest
  refine .bind (.peek _) (.bind (.pass _ _) ?_)
  rw [if_pos rfl]
  refine .bind (.peek _) ?_
  rw [List.head?_cons, Option.bind_some, known]
  exact .bind (.pass _ rest) (.pure _)

section Items

variable {cls made : CharClass} {rounds : Nat} {m : Text}

theorem classItems_close (cls : CharClass) (rounds : Nat) (rest : Text)
    : Reads (classItems (rounds + 1) cls) (CodePoint.ofChar ']' :: rest) cls rest := by
  refine .bind (.skipBlank _) (.bind (.peek _) ?_)
  rw [(goesOn_close rest).unblank]
  exact .bind (.pass _ rest) (.pure cls)

/-- An item that does not close the class is read. -/
theorem classItems_item {c : CodePoint} {t : Text} {item : ClassItem}
    {next : ClassItem → Reader CharClass} (spelled : s = c :: t) (solid : isSolid c = true)
    (other : c ≠ CodePoint.ofChar ']') (read : Reads classItem s item m)
    (later : Reads (next item) m made rest)
    : Reads (do
        skipBlank
        match ← peek with
        | none => fail .unterminatedClass
        | some c =>
            if c = CodePoint.ofChar ']' then
              bump 1
              return cls
            else next (← classItem)) s made rest := by
  refine .bind (.skipBlank _) (.bind (.peek _) ?_)
  rw [spelled, unblank_solid solid, List.head?_cons]
  simp only [other, if_false]
  exact .bind (spelled ▸ read) later

theorem classItems_escape (e : ClassEscape)
    (later : Reads (classItems rounds { cls with escapes := cls.escapes ++ [e] }) m made rest)
    : Reads (classItems (rounds + 1) cls) (classEscape e ++ m) made rest :=
  classItems_item rfl (by decide) (by decide) (classItem_escape e m) later

theorem classItems_single (c : CodePoint) (goesOn : GoesOn m)
    (later : Reads (classItems rounds { cls with singles := cls.singles ++ [c] }) m made rest)
    : Reads (classItems (rounds + 1) cls) (classPoint c ++ m) made rest := by
  obtain ⟨d, t, spelled, solid, other, -⟩ := classPoint_cons c
  refine classItems_item (by rw [spelled, List.cons_append]) solid other (classItem_point c m) ?_
  exact .bind goesOn.tryEat_missed later

theorem classItems_range {range : CodePoint × CodePoint}
    (forward : range.1.value ≤ range.2.value)
    (later : Reads (classItems rounds { cls with ranges := cls.ranges ++ [range] }) m made rest)
    : Reads (classItems (rounds + 1) cls) (classRange range ++ m) made rest := by
  obtain ⟨d, t, spelled, solid, other, -⟩ := classPoint_cons range.1
  have ordered : orderedRange range.1 range.2 = range := by
    rw [orderedRange, if_neg (Nat.not_lt.mpr forward)]
  unfold classRange
  rw [List.append_assoc, List.append_assoc]
  refine classItems_item (by rw [spelled, List.cons_append]) solid other
    (classItem_point range.1 _) (.bind (.tryEat (unblank_solid (by decide) _)) ?_)
  rw [if_pos rfl]
  refine .bind (.skipBlank _) ?_
  rw [(goesOn_classPoint range.2 m).unblank]
  refine .bind (classItem_point range.2 m) ?_
  rw [← ordered] at later
  exact later

/-- Items of one kind are read one by one, by induction on them. -/
theorem classItems_each {α : Type} {spell : α → Text} {add : CharClass → α → CharClass}
    {xs : List α} {cls : CharClass}
    (each : ∀ x ∈ xs, ∀ {cls rounds m}, GoesOn m →
      Reads (classItems rounds (add cls x)) m made rest →
        Reads (classItems (rounds + 1) cls) (spell x ++ m) made rest)
    (starts : ∀ x m, GoesOn (spell x ++ m)) (goesOn : GoesOn m)
    (later : Reads (classItems rounds (xs.foldl add cls)) m made rest)
    : Reads (classItems (rounds + xs.length) cls) (xs.flatMap spell ++ m) made rest := by
  induction xs generalizing cls with
  | nil => exact later
  | cons x xs ih =>
      obtain ⟨here, others⟩ := List.forall_mem_cons.mp each
      have next : GoesOn (xs.flatMap spell ++ m) := by
        cases xs with
        | nil => exact goesOn
        | cons y xs =>
            rw [List.flatMap_cons, List.append_assoc]
            exact starts y _
      rw [List.flatMap_cons, List.append_assoc]
      exact here next (ih others later)

end Items

theorem foldl_ranges (cls : CharClass) (ranges : List (CodePoint × CodePoint))
    : ranges.foldl (fun cls range => { cls with ranges := cls.ranges ++ [range] }) cls
      = { cls with ranges := cls.ranges ++ ranges } := by
  induction ranges generalizing cls with
  | nil => simp
  | cons range ranges ih => simp [ih]

theorem foldl_singles (cls : CharClass) (singles : Text)
    : singles.foldl (fun cls c => { cls with singles := cls.singles ++ [c] }) cls
      = { cls with singles := cls.singles ++ singles } := by
  induction singles generalizing cls with
  | nil => simp
  | cons c singles ih => simp [ih]

theorem foldl_escapes (cls : CharClass) (escapes : List ClassEscape)
    : escapes.foldl (fun cls e => { cls with escapes := cls.escapes ++ [e] }) cls
      = { cls with escapes := cls.escapes ++ escapes } := by
  induction escapes generalizing cls with
  | nil => simp
  | cons e escapes ih => simp [ih]

theorem length_le_flatMap {α : Type} {spell : α → Text} (nonempty : ∀ x, spell x ≠ [])
    (xs : List α)
    : xs.length ≤ (xs.flatMap spell).length := by
  induction xs with
  | nil => simp
  | cons x xs ih =>
      have positive := List.length_pos_iff.mpr (nonempty x)
      simp only [List.flatMap_cons, List.length_append, List.length_cons]
      omega

/-- What a class lists is read up to the closing bracket: the ranges, then the single code points,
then the backslash classes.
-/
theorem classItems_reads {cls : CharClass} (normal : cls.Normal) (rest : Text)
    : Reads (do classItems (← rounds) {}) (cls.items ++ (CodePoint.ofChar ']' :: rest))
        { cls with negated := false, props := [] } rest := by
  have ranges : cls.ranges.length ≤ (cls.ranges.flatMap classRange).length :=
    length_le_flatMap (fun range => by simp [classRange, Text.ofString]) _
  have singles : cls.singles.length ≤ (cls.singles.flatMap classPoint).length :=
    length_le_flatMap (fun c => by unfold classPoint; split <;> simp) _
  have escapes : cls.escapes.length ≤ (cls.escapes.flatMap classEscape).length :=
    length_le_flatMap (fun e => by simp [classEscape]) _
  obtain ⟨more, enough⟩ : ∃ more,
      (cls.items ++ (CodePoint.ofChar ']' :: rest)).length + 1
        = more + 1 + cls.escapes.length + cls.singles.length + cls.ranges.length := by
    refine ⟨(cls.items ++ (CodePoint.ofChar ']' :: rest)).length - (cls.escapes.length
      + cls.singles.length + cls.ranges.length), ?_⟩
    simp only [CharClass.items, List.length_append, List.length_cons]
    omega
  refine .bind (.rounds _) ?_
  rw [enough, CharClass.items, List.append_assoc, List.append_assoc]
  have goesOn (escapes : List ClassEscape)
      : GoesOn (escapes.flatMap classEscape ++ (CodePoint.ofChar ']' :: rest)) := by
    cases escapes with
    | nil => exact goesOn_close rest
    | cons e escapes =>
        rw [List.flatMap_cons, List.append_assoc]
        exact goesOn_classEscape e _
  refine classItems_each (fun range member _ _ _ _ => classItems_range (normal.ranges range member))
    (fun range m => ?_) ?_ ?_
  · unfold classRange
    rw [List.append_assoc, List.append_assoc]
    exact goesOn_classPoint range.1 _
  · cases cls.singles with
    | nil => exact goesOn cls.escapes
    | cons c singles =>
        rw [List.flatMap_cons, List.append_assoc]
        exact goesOn_classPoint c _
  rw [foldl_ranges]
  refine classItems_each (fun c _ _ _ _ => classItems_single c) goesOn_classPoint
    (goesOn cls.escapes) ?_
  rw [foldl_singles]
  refine classItems_each (fun e _ _ _ _ _ => classItems_escape e) goesOn_classEscape
    (goesOn_close rest) ?_
  rw [foldl_escapes]
  exact classItems_close _ more rest

-----------------------------------------------------------------------------------------
-- Classes
-----------------------------------------------------------------------------------------

theorem propertyName_reads {name : Name} (named : IsPropertyName name)
    (stops : ∀ c ∈ rest.head?, isPropertyPart c = false)
    : Reads propertyName (name ++ rest) name rest := by
  cases name with
  | nil => exact named.elim
  | cons c name =>
      refine .bind (.peek _) ?_
      have starts : (isPropertyPart c && !c.isAsciiDigit) = true := by
        rw [named.2 c (by simp), named.1]
        rfl
      rw [List.cons_append, List.head?_cons]
      simp only [starts, if_true]
      exact .span named.2 stops

/-- Properties are read one by one, by induction on them. -/
theorem classTerms_reads {props : List Name} (named : ∀ prop ∈ props, IsPropertyName prop)
    (cls : CharClass) {rounds : Nat} (enough : props.length < rounds) (rest : Text)
    : Reads (classTerms rounds cls)
        (props.flatMap classProperty ++ (CodePoint.ofChar '>' :: rest))
        { cls with props := cls.props ++ props } (CodePoint.ofChar '>' :: rest) := by
  induction props generalizing cls rounds with
  | nil =>
      obtain ⟨rounds, rfl⟩ : ∃ n, rounds = n + 1 := ⟨rounds - 1, by simp at enough; omega⟩
      have stays := unblank_solid (show isSolid '>' = true by decide) rest
      refine .bind (.tryEat_other stays rfl (by decide)) ?_
      simpa using Reads.pure cls
  | cons prop props ih =>
      obtain ⟨rounds, rfl⟩ : ∃ n, rounds = n + 1 := ⟨rounds - 1, by simp at enough; omega⟩
      obtain ⟨here, others⟩ := List.forall_mem_cons.mp named
      have later := ih others (cls.union { props := [prop] }) (by simpa using enough)
      have stops : ∀ c ∈ (props.flatMap classProperty
          ++ (CodePoint.ofChar '>' :: rest)).head?, isPropertyPart c = false := by
        cases props with
        | nil =>
            rintro c ⟨⟩
            decide
        | cons prop props =>
            rintro c ⟨⟩
            decide
      rw [List.flatMap_cons, List.append_assoc]
      generalize props.flatMap classProperty ++ (CodePoint.ofChar '>' :: rest) = more
        at later stops ⊢
      have term : Reads classTerm (CodePoint.ofChar ':' :: (prop ++ more)) { props := [prop] }
          more := by
        refine .bind (.tryEat_other (unblank_solid (by decide) _) rfl (by decide)) ?_
        refine .bind (.tryEat (unblank_solid (by decide) _)) ?_
        exact .bind (propertyName_reads here stops) (.pure _)
      change Reads _ (CodePoint.ofChar '+' :: CodePoint.ofChar ':' :: (prop ++ more)) _ _
      refine .bind (.tryEat (unblank_solid (by decide) _)) (.bind term ?_)
      simpa [CharClass.union] using later

/-- A class is read after its opening angle bracket. -/
theorem classExpr_reads {cls : CharClass} (normal : cls.Normal) (rest : Text)
    : Reads classExpr
        ((if cls.negated then [CodePoint.ofChar '-'] else []) ++ (CodePoint.ofChar '[' :: (cls.items
          ++ (CodePoint.ofChar ']' :: (cls.props.flatMap classProperty
            ++ (CodePoint.ofChar '>' :: rest))))))
        (.charClass cls) rest := by
  have sign (t : Text)
      : Reads (tryEat "-")
          ((if cls.negated then [CodePoint.ofChar '-'] else []) ++ (CodePoint.ofChar '[' :: t))
          cls.negated (CodePoint.ofChar '[' :: t) := by
    cases cls.negated with
    | false => exact .tryEat_other (unblank_solid (by decide) _) rfl (by decide)
    | true => exact .tryEat (unblank_solid (by decide) _)
  have listed (t : Text)
      : Reads classTerm (CodePoint.ofChar '[' :: (cls.items ++ (CodePoint.ofChar ']' :: t)))
          { cls with negated := false, props := [] } t :=
    .bind (.tryEat (unblank_solid (by decide) _)) (classItems_reads normal t)
  have props : cls.props.length ≤ (cls.props.flatMap classProperty).length :=
    length_le_flatMap (fun prop => by simp [classProperty, Text.ofString]) _
  refine .bind (sign _) ?_
  refine .bind (.tryEat_other (unblank_solid (by decide) _) rfl (by decide)) ?_
  refine .bind (listed _) (.bind (.rounds _) ?_)
  refine .bind (classTerms_reads normal.props _ (by rw [List.length_append]; omega) rest) ?_
  exact .bind (.eat (unblank_solid (by decide) _)) (.pure _)

end RuleGrammar.Notation
