import RuleGrammar.Proofs.Notation.Levels

/-! How atoms and quantified atoms that are written are read. Each atom is known by its first code
points, which no other kind of atom starts with.
-/

namespace RuleGrammar.Notation

open Reader

variable {atom : Reader Expr} {s t u m rest : Text} {c d : CodePoint} {e : Expr}

-----------------------------------------------------------------------------------------
-- What cannot follow
-----------------------------------------------------------------------------------------

/-- A text after which a body closes does not start with anything solid but the closing mark. -/
theorem head_closes (stop : unblank rest = c :: t) (closing : closes c = true)
    : ∀ d ∈ rest.head?, isSolid d = true → closes d = true := by
  intro d head solid
  obtain ⟨u, rfl⟩ := List.head?_eq_some_iff.mp head
  rw [unblank_solid solid] at stop
  cases stop
  exact closing

theorem isSolid_of_isAsciiDigit (digit : c.isAsciiDigit = true) : isSolid c = true := by
  simp only [CodePoint.isAsciiDigit, Bool.and_eq_true, decide_eq_true_eq] at digit
  have other : c ≠ CodePoint.ofChar '#' := by
    rintro rfl
    revert digit
    decide
  have visible : c.isBlank = false := by
    simp only [CodePoint.isBlank, CodePoint.isWhiteSpace, Bool.or_eq_false_iff,
      Bool.and_eq_false_iff, decide_eq_false_iff_not]
    omega
  simp [isSolid, visible, other]

theorem not_digit_of_closes (closing : closes c = true) : c.isAsciiDigit = false := by
  simp only [closes, Bool.or_eq_true, decide_eq_true_eq] at closing
  rcases closing with ((rfl | rfl) | rfl) | rfl <;> decide

/-- A numeral in front of a text after which a body closes ends there. -/
theorem head_not_digit (stop : unblank rest = c :: t) (closing : closes c = true)
    : ∀ d ∈ rest.head?, d.isAsciiDigit = false := by
  intro d head
  refine Bool.eq_false_iff.mpr fun digit => ?_
  have closed := head_closes stop closing d head (isSolid_of_isAsciiDigit digit)
  rw [not_digit_of_closes closed] at digit
  cases digit

-----------------------------------------------------------------------------------------
-- Repetitions
-----------------------------------------------------------------------------------------

theorem exists_cons_ofNat (n : Nat) : ∃ c t, Text.ofNat n = c :: t ∧ c.isAsciiDigit = true := by
  obtain ⟨c, t, spelled⟩ := List.exists_cons_of_ne_nil (Text.ofNat_ne_nil n)
  exact ⟨c, t, spelled, Text.isAsciiDigit_ofNat n c (by rw [spelled]; simp)⟩

theorem unblank_ofNat (n : Nat) (rest : Text)
    : unblank (Text.ofNat n ++ rest) = Text.ofNat n ++ rest := by
  obtain ⟨c, t, spelled, digit⟩ := exists_cons_ofNat n
  rw [spelled]
  exact unblank_solid (isSolid_of_isAsciiDigit digit) _

theorem star_not_prefix_ofNat (n : Nat) (rest : Text)
    : List.isPrefixOf (Text.ofString "*") (Text.ofNat n ++ rest) = false := by
  obtain ⟨c, t, spelled, digit⟩ := exists_cons_ofNat n
  have other : c ≠ CodePoint.ofChar '*' := by
    rintro rfl
    revert digit
    decide
  rw [spelled]
  exact isPrefixOf_eq_false rfl other _

/-- The bounds of a repetition are read as they are written. -/
theorem count_reads {min : Nat} {max : Option Nat} (bounds : Bounds min max)
    (stops : ∀ c ∈ rest.head?, c.isAsciiDigit = false)
    : Reads count (CodePoint.ofChar ' ' :: (Text.ofNat min ++ (CodePoint.ofChar '.'
        :: CodePoint.ofChar '.' :: (writtenBound max ++ rest)))) (min, max) rest := by
  refine .bind (.skipBlank _) ?_
  rw [unblank_space, unblank_ofNat]
  refine .bind (.numeral _ bounds.least (by rintro c ⟨⟩; decide)) (.bind (.starts _ _) ?_)
  refine .bind (.bump [CodePoint.ofChar '.', CodePoint.ofChar '.'] (writtenBound max ++ rest))
    (.bind (.starts _ _) ?_)
  cases max with
  | none => exact .bind (.pass _ rest) (.pure _)
  | some most =>
      obtain ⟨ordered, isCount⟩ := bounds.most most rfl
      rw [writtenBound, star_not_prefix_ofNat, if_neg (by decide)]
      refine .bind (.numeral _ isCount stops) ?_
      rw [if_neg (Nat.not_lt.mpr ordered)]
      exact .pure _

theorem quantifier_reads {min : Nat} {max : Option Nat} (bounds : Bounds min max)
    (stops : ∀ c ∈ rest.head?, c.isAsciiDigit = false)
    : Reads quantifier (CodePoint.ofChar ' ' :: CodePoint.ofChar '*' :: CodePoint.ofChar '*'
        :: CodePoint.ofChar ' ' :: (Text.ofNat min ++ (CodePoint.ofChar '.'
          :: CodePoint.ofChar '.' :: (writtenBound max ++ rest)))) (some (min, max)) rest :=
  .bind (.tryEat rfl) (.bind (count_reads bounds stops) (.pure _))

/-- What is left of a quantified atom once its bounds are read. -/
def separatorOf (atom : Reader Expr) (body : Expr) (min : Nat) (max : Option Nat)
    : Reader Expr := do
  if ← tryEat "%%" then return .repetition body min max (some (← atom)) true
  else if ← tryEat "%" then return .repetition body min max (some (← atom)) false
  else return .repetition body min max none false

theorem quantified_eq (atom : Reader Expr)
    : quantified atom
      = (do
          let body ← atom
          match ← quantifier with
          | none => return body
          | some (least, most) => separatorOf atom body least most) := rfl

section Separators

variable {body : Expr} {min : Nat} {max : Option Nat}

/-- Without a separator, a repetition ends where the body does. -/
theorem separatorOf_missed (stop : unblank rest = c :: t) (closing : closes c = true)
    : Reads (separatorOf atom body min max) rest (.repetition body min max none false)
        (c :: t) := by
  have other : c ≠ CodePoint.ofChar '%' := by
    rintro rfl
    revert closing
    decide
  exact .bind (.tryEat_other stop rfl other)
    (.bind (.tryEat_other (unblank_head stop) rfl other) (.pure _))

theorem separatorOf_reads (read : ReadsOperand atom e) (trailing : Bool) (rest : Text)
    : Reads (separatorOf atom body min max) (Expr.writtenSeparator trailing (some e) ++ rest)
        (.repetition body min max (some e) trailing) rest := by
  have operand : Reads atom (CodePoint.ofChar ' ' :: (bracketed e.written ++ rest)) e rest :=
    read _ rest (by rw [unblank_space, unblank_bracketed])
  cases trailing with
  | false =>
      have spelled : Expr.writtenSeparator false (some e) ++ rest
          = CodePoint.ofChar ' ' :: CodePoint.ofChar '%' :: CodePoint.ofChar ' '
            :: (bracketed e.written ++ rest) := by
        simp [Expr.writtenSeparator, Text.ofString]
      rw [spelled]
      exact .bind (.tryEat_missed rfl) (.bind (.tryEat rfl) (.bind operand (.pure _)))
  | true =>
      have spelled : Expr.writtenSeparator true (some e) ++ rest
          = CodePoint.ofChar ' ' :: CodePoint.ofChar '%' :: CodePoint.ofChar '%'
            :: CodePoint.ofChar ' ' :: (bracketed e.written ++ rest) := by
        simp [Expr.writtenSeparator, Text.ofString]
      rw [spelled]
      exact .bind (.tryEat rfl) (.bind operand (.pure _))

/-- A repetition is read as it is written, up to what follows. -/
theorem repetition_reads {sep : Option Expr} {trailing : Bool} (read : ReadsOperand atom body)
    (bounds : Bounds min max) (separator : ∀ e ∈ sep, ReadsOperand atom e)
    (trailed : trailing = true → sep.isSome = true) (stop : unblank rest = c :: t)
    (closing : closes c = true)
    : ∃ m, Reads (quantified atom) ((Expr.repetition body min max sep trailing).written ++ rest)
        (.repetition body min max sep trailing) m ∧ unblank m = c :: t := by
  have spelled : (Expr.repetition body min max sep trailing).written ++ rest
      = bracketed body.written ++ (CodePoint.ofChar ' ' :: CodePoint.ofChar '*'
        :: CodePoint.ofChar '*' :: CodePoint.ofChar ' ' :: (Text.ofNat min
          ++ (CodePoint.ofChar '.' :: CodePoint.ofChar '.' :: (writtenBound max
            ++ (Expr.writtenSeparator trailing sep ++ rest))))) := by
    simp [Expr.written, Text.ofString]
  have stops : ∀ c ∈ (Expr.writtenSeparator trailing sep ++ rest).head?,
      c.isAsciiDigit = false := by
    cases sep with
    | none => exact head_not_digit stop closing
    | some e => cases trailing <;> rintro c ⟨⟩ <;> decide
  obtain ⟨m, separated, ends⟩ : ∃ m, Reads (separatorOf atom body min max)
      (Expr.writtenSeparator trailing sep ++ rest) (.repetition body min max sep trailing) m
        ∧ unblank m = c :: t := by
    cases sep with
    | none =>
        obtain rfl : trailing = false := Bool.eq_false_iff.mpr fun trails => by
          cases trailed trails
        exact ⟨c :: t, separatorOf_missed stop closing, unblank_head stop⟩
    | some e => exact ⟨rest, separatorOf_reads (separator e rfl) trailing rest, stop⟩
  rw [spelled, quantified_eq]
  exact ⟨m, .bind (read _ _ (unblank_bracketed _ _))
    (.bind (quantifier_reads bounds stops) separated), ends⟩

theorem ReadsBody.repetition {sep : Option Expr} {trailing : Bool}
    (read : ReadsOperand atom body) (bounds : Bounds min max)
    (separator : ∀ e ∈ sep, ReadsOperand atom e)
    (trailed : trailing = true → sep.isSome = true)
    : ReadsBody atom (.repetition body min max sep trailing) := by
  intro s rest c t ahead stop closing
  obtain ⟨m, read, ends⟩ := repetition_reads read bounds separator trailed stop closing
  obtain ⟨u, spelled⟩ : ∃ u, (Expr.repetition body min max sep trailing).written ++ rest
      = CodePoint.ofChar '[' :: u := ⟨_, rfl⟩
  rw [spelled] at ahead read
  exact choice_of_quantified (ahead.trans (unblank_solid (by decide) u)) (by decide) (by decide)
    read ends closing

end Separators

-----------------------------------------------------------------------------------------
-- Atoms
-----------------------------------------------------------------------------------------

/-- An operand makes up a whole body. -/
theorem choice_of_operand (read : ReadsOperand atom e)
    (ahead : unblank s = bracketed e.written ++ m) (stop : unblank m = c :: t)
    (closing : closes c = true)
    : Reads (choice atom) s e (c :: t) := by
  have started := ahead
  rw [bracketed_append] at started
  refine choice_of_atom started (by decide) (by decide) ?_ stop closing
  rw [← bracketed_append]
  exact read _ _ (unblank_bracketed _ m)

/-- Brackets around a body make an operand of it, one level deeper. -/
theorem operand_reads (read : ReadsBody atom e) : ReadsOperand (atomOver atom) e := by
  intro s rest ahead
  rw [bracketed_append] at ahead
  have closing : unblank (CodePoint.ofChar ']' :: rest) = CodePoint.ofChar ']' :: rest :=
    unblank_solid (by decide) rest
  refine .bind (.skipBlank s) (.bind (.peek _) ?_)
  rw [ahead]
  exact .bind (.pass _ _) (.bind (read rfl closing (by decide)) (.bind (.eat closing) (.pure e)))

theorem literal_reads (text rest : Text)
    : Reads (atomOver atom) ((Expr.literal text).written ++ rest) (.literal text) rest := by
  have spelled : (Expr.literal text).written ++ rest = CodePoint.ofChar '\''
      :: (text.flatMap literalPoint ++ (CodePoint.ofChar '\'' :: rest)) := by
    simp [Expr.written, Text.ofString]
  have enough : text.length < (text.flatMap literalPoint
      ++ (CodePoint.ofChar '\'' :: rest)).length + 1 := by
    have counted : text.length ≤ (text.flatMap literalPoint).length :=
      length_le_flatMap (fun c => by unfold literalPoint; split <;> simp) text
    rw [List.length_append]
    omega
  rw [spelled]
  refine .bind (.skipBlank _) (.bind (.peek _) ?_)
  rw [unblank_solid (by decide)]
  exact .bind (.pass _ _) (.bind (.rounds _) (.bind (literalRest_reads text rest enough) (.pure _)))

theorem anyChar_reads (rest : Text)
    : Reads (atomOver atom) (Expr.anyChar.written ++ rest) .anyChar rest := by
  change Reads _ (CodePoint.ofChar '.' :: rest) _ _
  refine .bind (.skipBlank _) (.bind (.peek _) ?_)
  rw [unblank_solid (by decide)]
  exact .bind (.starts _ _) (.bind (.pass _ rest) (.pure _))

theorem inputStart_reads (rest : Text)
    : Reads (atomOver atom) ((Expr.anchor .inputStart).written ++ rest) (.anchor .inputStart)
        rest := by
  change Reads _ (CodePoint.ofChar '^' :: rest) _ _
  refine .bind (.skipBlank _) (.bind (.peek _) ?_)
  rw [unblank_solid (by decide)]
  exact .bind (.starts _ _) (.bind (.pass _ rest) (.pure _))

/-- A dollar sign is an anchor unless an angle bracket follows. -/
theorem inputEnd_reads (other : ∀ c ∈ rest.head?, c ≠ CodePoint.ofChar '<')
    : Reads (atomOver atom) ((Expr.anchor .inputEnd).written ++ rest) (.anchor .inputEnd)
        rest := by
  change Reads _ (CodePoint.ofChar '$' :: rest) _ _
  have plain : List.isPrefixOf (Text.ofString "$<") (CodePoint.ofChar '$' :: rest) = false := by
    change List.isPrefixOf (CodePoint.ofChar '$' :: CodePoint.ofChar '<' :: [])
      (CodePoint.ofChar '$' :: rest) = false
    cases rest with
    | nil => rfl
    | cons c rest => simp [List.isPrefixOf_cons_cons, (other c rfl).symm]
  refine .bind (.skipBlank _) (.bind (.peek _) ?_)
  rw [unblank_solid (by decide)]
  refine .bind (.starts _ _) ?_
  rw [plain]
  exact .bind (.pass _ rest) (.pure _)

theorem positional_reads (read : ReadsOperand atom e) (rest : Text)
    : Reads (atomOver atom) ((Expr.capture e none).written ++ rest) (.capture e none) rest := by
  have spelled : (Expr.capture e none).written ++ rest
      = CodePoint.ofChar '(' :: (bracketed e.written ++ (CodePoint.ofChar ')' :: rest)) := by
    simp [Expr.written, Text.ofString]
  have closing : unblank (CodePoint.ofChar ')' :: rest) = CodePoint.ofChar ')' :: rest :=
    unblank_solid (by decide) rest
  rw [spelled]
  refine .bind (.skipBlank _) (.bind (.peek _) ?_)
  rw [unblank_solid (by decide)]
  exact .bind (.pass _ _) (.bind (choice_of_operand read (unblank_bracketed _ _) closing
    (by decide)) (.bind (.eat closing) (.pure _)))

/-- What a dollar sign and an angle bracket start is read as a capture. -/
theorem dollar_reads {made : Expr} (read : Reads (namedCapture atom) s made rest)
    : Reads (atomOver atom) (CodePoint.ofChar '$' :: CodePoint.ofChar '<' :: s) made rest := by
  refine .bind (.skipBlank _) (.bind (.peek _) ?_)
  rw [unblank_solid (by decide)]
  exact .bind (.starts _ _) (.bind (.bump [CodePoint.ofChar '$', CodePoint.ofChar '<'] s) read)

/-- What an angle bracket starts is read as an assertion. -/
theorem angle_reads {made : Expr} (read : Reads (assertion atom) s made rest)
    : Reads (atomOver atom) (CodePoint.ofChar '<' :: s) made rest := by
  refine .bind (.skipBlank _) (.bind (.peek _) ?_)
  rw [unblank_solid (by decide)]
  exact .bind (.starts _ _) (.bind (.pass _ s) read)

theorem not_part_of_mark (mark : CodePoint) (rest : Text)
    (other : mark.isIdentifierPart = false)
    : ∀ c ∈ (mark :: rest).head?, c.isIdentifierPart = false := by
  rintro c ⟨⟩
  exact other

/-- A call without capture is read as it is written. -/
theorem reference_reads {rule : Name} (called : IsIdentifier rule) (rest : Text)
    : Reads (atomOver atom) ((Expr.reference rule none).written ++ rest) (.reference rule none)
        rest := by
  have spelled : (Expr.reference rule none).written ++ rest = CodePoint.ofChar '<'
      :: CodePoint.ofChar '.' :: (rule ++ (CodePoint.ofChar '>' :: rest)) := by
    simp [Expr.written, Text.ofString]
  rw [spelled]
  refine angle_reads (.bind (.skipBlank _) (.bind (.peek _) ?_))
  rw [unblank_solid (by decide)]
  refine .bind (.tryEat (unblank_solid (by decide) _)) ?_
  refine .bind (.identifier called (unblank_name called _)
    (not_part_of_mark _ _ (by decide))) ?_
  exact .bind (.eat (unblank_solid (by decide) _)) (.pure _)

theorem sym_reads (rest : Text)
    : Reads (atomOver atom) (Expr.sym.written ++ rest) .sym rest := by
  have named : IsIdentifier (Text.ofString "sym") := ⟨Or.inl (by decide), by decide⟩
  change Reads _ (CodePoint.ofChar '<' :: (Text.ofString "sym" ++ (CodePoint.ofChar '>' :: rest)))
    _ _
  refine angle_reads (.bind (.skipBlank _) (.bind (.peek _) ?_))
  rw [unblank_name named]
  refine .bind (.tryEat_other (unblank_name named _) rfl (by decide)) ?_
  refine .bind (.identifier named (unblank_name named _) (not_part_of_mark _ _ (by decide))) ?_
  exact .bind (.tryEat (unblank_solid (by decide) _)) (.pure _)

theorem class_reads {cls : CharClass} (normal : cls.Normal) (rest : Text)
    : Reads (atomOver atom) ((Expr.charClass cls).written ++ rest) (.charClass cls) rest := by
  have spelled : cls.written ++ rest
      = CodePoint.ofChar '<' :: ((if cls.negated then [CodePoint.ofChar '-'] else [])
        ++ (CodePoint.ofChar '[' :: (cls.items ++ (CodePoint.ofChar ']'
          :: (cls.props.flatMap classProperty ++ (CodePoint.ofChar '>' :: rest)))))) := by
    cases negated : cls.negated <;> simp [CharClass.written, bracketed, Text.ofString, negated]
  have read := classExpr_reads normal rest
  rw [Expr.written, spelled]
  refine angle_reads (.bind (.skipBlank _) (.bind (.peek _) ?_))
  cases negated : cls.negated with
  | false =>
      rw [negated] at read
      exact read
  | true =>
      rw [negated] at read
      exact read

/-- A lookahead at an operand is read as it is written. -/
theorem lookahead_reads (read : ReadsOperand atom e) (negated : Bool) (rest : Text)
    : Reads (atomOver atom) ((Expr.lookahead e negated).written ++ rest) (.lookahead e negated)
        rest := by
  have word : IsIdentifier (Text.ofString "before") := ⟨Or.inl (by decide), by decide⟩
  have spelled : (Expr.lookahead e negated).written ++ rest
      = CodePoint.ofChar '<' :: (if negated then CodePoint.ofChar '!' else CodePoint.ofChar '?')
        :: (Text.ofString "before" ++ (CodePoint.ofChar ' ' :: (bracketed e.written
          ++ (CodePoint.ofChar '>' :: rest)))) := by
    cases negated <;> simp [Expr.written, Text.ofString]
  have closing : unblank (CodePoint.ofChar '>' :: rest) = CodePoint.ofChar '>' :: rest :=
    unblank_solid (by decide) rest
  have signed : Reads (signedLookahead atom negated) (Text.ofString "before"
      ++ (CodePoint.ofChar ' ' :: (bracketed e.written ++ (CodePoint.ofChar '>' :: rest))))
      (.lookahead e negated) rest := by
    refine .bind (.keyword word (unblank_name word _) (not_part_of_mark _ _ (by decide))) ?_
    refine .bind (choice_of_operand read ?_ closing (by decide)) (.bind (.eat closing) (.pure _))
    rw [unblank_space, unblank_bracketed]
  rw [spelled]
  refine angle_reads (.bind (.skipBlank _) (.bind (.peek _) ?_))
  cases negated with
  | false => exact .bind (.pass _ _) signed
  | true => exact .bind (.pass _ _) signed

/-- What an atom becomes under a name: a call takes the name itself. -/
def underName (name : Name) : Expr → Expr
  | .reference target _ => .reference target (some name)
  | body => .capture body (some name)

/-- A name after a dollar sign, and the atom that is captured under it. -/
theorem dollarName_reads {name : Name} (named : IsIdentifier name) (read : Reads atom s e rest)
    : Reads (atomOver atom) (CodePoint.ofChar '$' :: CodePoint.ofChar '<' :: (name
        ++ (CodePoint.ofChar '>' :: CodePoint.ofChar '=' :: s))) (underName name e) rest := by
  refine dollar_reads (.bind (.identifier named (unblank_name named _)
    (not_part_of_mark _ _ (by decide))) ?_)
  refine .bind (.eat (unblank_solid (by decide) _)) (.bind (.eat (unblank_solid (by decide) _)) ?_)
  refine .bind read ?_
  cases e <;> exact .pure _

/-- A call takes the name before it for its capture. -/
theorem capturedReference_reads {rule name : Name} (called : IsIdentifier rule)
    (named : IsIdentifier name) (rest : Text)
    : Reads (atomOver (atomOver atom)) ((Expr.reference rule (some name)).written ++ rest)
        (.reference rule (some name)) rest := by
  have spelled : (Expr.reference rule (some name)).written ++ rest
      = CodePoint.ofChar '$' :: CodePoint.ofChar '<' :: (name ++ (CodePoint.ofChar '>'
        :: CodePoint.ofChar '=' :: ((Expr.reference rule none).written ++ rest))) := by
    simp [Expr.written, Text.ofString]
  rw [spelled]
  exact dollarName_reads named (reference_reads called rest)

/-- Anything else is captured under the name before it. -/
theorem named_reads {name : Name} (named : IsIdentifier name) (read : ReadsOperand atom e)
    (other : ∀ rule capture, e ≠ .reference rule capture) (rest : Text)
    : Reads (atomOver atom) ((Expr.capture e (some name)).written ++ rest) (.capture e (some name))
        rest := by
  have spelled : (Expr.capture e (some name)).written ++ rest
      = CodePoint.ofChar '$' :: CodePoint.ofChar '<' :: (name ++ (CodePoint.ofChar '>'
        :: CodePoint.ofChar '=' :: (bracketed e.written ++ rest))) := by
    simp [Expr.written, Text.ofString]
  have taken : underName name e = .capture e (some name) := by
    unfold underName
    split
    · exact absurd rfl (other _ _)
    · rfl
  rw [spelled, ← taken]
  exact dollarName_reads named (read _ rest (unblank_bracketed _ rest))

/-- An atom that is read where a body may close makes up the body. -/
theorem ReadsBody.of_atom
    (starts : ∃ c t, e.written = c :: t ∧ isSolid c = true ∧ endsSequence c = false
      ∧ c ≠ CodePoint.ofChar '~')
    (read : ∀ {rest c t}, unblank rest = c :: t → closes c = true →
      Reads atom (e.written ++ rest) e rest)
    : ReadsBody atom e := by
  intro s rest c t ahead stop closing
  obtain ⟨d, u, spelled, solid, opens, untilded⟩ := starts
  have read := read stop closing
  rw [spelled, List.cons_append] at ahead read
  rw [unblank_solid solid] at ahead
  exact choice_of_atom ahead opens untilded read stop closing

end RuleGrammar.Notation
