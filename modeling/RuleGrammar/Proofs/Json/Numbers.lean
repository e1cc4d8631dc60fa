import RuleGrammar.Proofs.Json.Classes
import RuleGrammar.Proofs.Matcher.Consuming
import RuleGrammar.Proofs.Matcher.Reading

/-! Numbers as the grammar matches them: every number is read whole where none of its code points
can follow it, and whatever is read is a number.
-/

namespace RuleGrammar.Json

variable {g : Grammar} {subject : Subject} {rule : Rule} {pos : Int} {rest : Text}

/-- An expression reads a text at an offset and captures nothing. -/
abbrev Reads (g : Grammar) (subject : Subject) (rule : Rule) (e : Expr) (pos : Int) (t : Text)
    : Prop :=
  Derives g subject (.expr rule e pos (some ⟨pos + t.length, []⟩))

/-- The items of a sequence read a text at an offset and capture nothing. -/
abbrev ItemsRead (g : Grammar) (subject : Subject) (rule : Rule) (first : Bool)
    (items : List Expr) (pos : Int) (t : Text)
    : Prop :=
  Derives g subject (.items rule first items pos (some ⟨pos + t.length, []⟩))

/-- A code point that cannot go on with a number. -/
def EndsNumber (c : CodePoint) : Prop :=
  c.isAsciiDigit = false ∧ c ≠ '.' ∧ c ≠ 'e' ∧ c ≠ 'E'

-----------------------------------------------------------------------------------------
-- Parts of numbers, read
-----------------------------------------------------------------------------------------

theorem ItemsRead.done {first : Bool} : ItemsRead g subject rule first [] pos [] := by
  have derived : Derives g subject (.items rule first [] pos (some ⟨pos, []⟩)) := .itemsDone
  simpa [ItemsRead] using derived

section Token

variable (token : rule.sigspace = false)

include token

/-- In a token, items read what the first and the others do. -/
theorem ItemsRead.next {first : Bool} {e : Expr} {items : List Expr} {t u : Text}
    (item : Reads g subject rule e pos t)
    (later : ItemsRead g subject rule false items (pos + t.length) u)
    : ItemsRead g subject rule first (e :: items) pos (t ++ u) := by
  have stop : pos + t.length + u.length = pos + ((t ++ u).length : Int) := by
    rw [List.length_append]
    omega
  have derived : Derives g subject (.items rule first (e :: items) pos
      (some ⟨pos + t.length + u.length, [] ++ []⟩)) := .items_next token item later
  rwa [List.append_nil, stop] at derived

theorem Reads.optional {body : Expr} {t : Text} (read : Reads g subject rule body pos t)
    (nonempty : t ≠ [])
    : Reads g subject rule (Json.optional body) pos t := by
  have moved : pos + t.length ≠ pos := by
    have := List.length_pos_iff.mpr nonempty
    omega
  exact .optional_read token read moved rfl

theorem Reads.left_out {body : Expr} (missed : Derives g subject (.expr rule body pos none))
    : Reads g subject rule (Json.optional body) pos [] := by
  have read := Derives.optional_missed token missed
  simpa [Reads, Json.optional] using read

/-- Digits are read as far as they go. -/
theorem reads_digits (digits : List Digit)
    (leaves : subject.Leaves pos (digits.map Subtype.val ++ rest))
    (ends : ∀ c ∈ rest.head?, c.isAsciiDigit = false)
    : Reads g subject rule (many (within '0' '9')) pos (digits.map Subtype.val) := by
  refine .class_many digit_compiles token (Nat.zero_le _) leaves (fun c member => ?_) ends
  obtain ⟨digit, -, rfl⟩ := List.mem_map.mp member
  exact digit.property

theorem Digits.read (digits : Digits) (leaves : subject.Leaves pos (digits.text ++ rest))
    (ends : ∀ c ∈ rest.head?, c.isAsciiDigit = false)
    : Reads g subject rule (atLeastOne (within '0' '9')) pos digits.text := by
  refine .class_many digit_compiles token (by simp [Digits.text]) leaves (fun c member => ?_) ends
  rcases List.mem_cons.mp member with rfl | later
  · exact digits.first.property
  · obtain ⟨digit, -, rfl⟩ := List.mem_map.mp later
    exact digit.property

theorem Whole.read (whole : Whole) (leaves : subject.Leaves pos (whole.text ++ rest))
    (ends : ∀ c ∈ rest.head?, c.isAsciiDigit = false)
    : Reads g subject rule
        (.choice [lit "0", .sequence [within '1' '9', many (within '0' '9')]]) pos whole.text := by
  cases whole with
  | zero => exact .choice (.choiceHere (.literal_read leaves))
  | positive first digits =>
      obtain ⟨c, digit, nonzero⟩ := first
      have missed : Derives g subject (.expr rule (lit "0") pos none) := by
        refine .literal_missed leaves ?_
        rintro ⟨more, same⟩
        exact nonzero (List.cons.inj same).1.symm
      have positive : isPositiveDigit c = true := by
        have other : c.value ≠ 0x30 := fun same =>
          nonzero (by obtain ⟨_, _⟩ := c; simpa [CodePoint.ofChar] using same)
        simp only [CodePoint.isAsciiDigit, Bool.and_eq_true, decide_eq_true_eq] at digit
        simp only [isPositiveDigit, Bool.and_eq_true, decide_eq_true_eq]
        omega
      have here : Reads g subject rule (within '1' '9') pos [c] :=
        .class_read positiveDigit_compiles leaves positive
      have later : Reads g subject rule (many (within '0' '9')) (pos + 1)
          (digits.map Subtype.val) := reads_digits token digits leaves.advance_one ends
      have both : ItemsRead g subject rule true [within '1' '9', many (within '0' '9')] pos
          ([c] ++ (digits.map Subtype.val ++ [])) := .next token here (.next token later .done)
      rw [List.append_nil] at both
      exact .choice (.choiceLater missed (.choiceHere (.sequence both)))

theorem Number.read_sign (n : Number) (leaves : subject.Leaves pos (n.signText ++ rest))
    (unsigned : ∀ c ∈ rest.head?, c ≠ '-')
    : Reads g subject rule (optional (lit "-")) pos n.signText := by
  cases negative : n.negative with
  | false =>
      simp only [Number.signText, negative, Bool.false_eq_true, if_false] at leaves ⊢
      refine .left_out token (.literal_missed leaves ?_)
      rintro ⟨more, rfl⟩
      exact unsigned '-' rfl rfl
  | true =>
      simp only [Number.signText, negative, if_true] at leaves ⊢
      exact .optional token (.literal_read leaves) (List.cons_ne_nil _ _)

theorem Number.read_fraction (n : Number) (leaves : subject.Leaves pos (n.fractionText ++ rest))
    (ends : ∀ c ∈ rest.head?, c.isAsciiDigit = false ∧ c ≠ '.')
    : Reads g subject rule (optional (.sequence [lit ".", atLeastOne (within '0' '9')])) pos
        n.fractionText := by
  cases fraction : n.fraction with
  | none =>
      simp only [Number.fractionText, fraction, Option.elim_none] at leaves ⊢
      refine .left_out token (.sequence (.items_missed token (.literal_missed leaves ?_)))
      rintro ⟨more, rfl⟩
      exact (ends '.' rfl).2 rfl
  | some digits =>
      simp only [Number.fractionText, fraction, Option.elim_some] at leaves ⊢
      have point : Reads g subject rule (lit ".") pos "." := .literal_read leaves
      have behind : Reads g subject rule (atLeastOne (within '0' '9')) (pos + 1) digits.text :=
        digits.read token leaves.advance_one fun c first => (ends c first).1
      have both : ItemsRead g subject rule true [lit ".", atLeastOne (within '0' '9')] pos
          ([CodePoint.ofChar '.'] ++ (digits.text ++ [])) :=
        .next token point (.next token behind .done)
      rw [List.append_nil] at both
      exact .optional token (.sequence both) (List.cons_ne_nil _ _)

theorem Exponent.read_sign (e : Exponent)
    (leaves : subject.Leaves pos (e.signText ++ e.digits.text ++ rest))
    : Reads g subject rule (optional (oneOf "+-")) pos e.signText := by
  have compiled := oneOf_compiles "+-" (List.cons_ne_nil _ _)
  cases sign : e.sign with
  | none =>
      simp only [Exponent.signText, sign, Option.elim_none] at leaves ⊢
      refine .left_out token (.class_missed compiled leaves fun c first => ?_)
      obtain rfl : e.digits.first.val = c := Option.some.inj first
      have digit := e.digits.first.property
      have plus : ¬ CodePoint.ofChar '+' = e.digits.first.val := fun same => by
        rw [← same] at digit
        cases digit
      have minus : ¬ CodePoint.ofChar '-' = e.digits.first.val := fun same => by
        rw [← same] at digit
        cases digit
      simp [Text.ofString, plus, minus]
  | some mark =>
      simp only [Exponent.signText, sign, Option.elim_some] at leaves ⊢
      have member : (Text.ofString "+-").any (· = mark.val) = true := by
        rcases mark.property with same | same <;> rw [same] <;> rfl
      have read : Reads g subject rule (oneOf "+-") pos [mark.val] :=
        .class_read compiled leaves member
      exact .optional token read (List.cons_ne_nil _ _)

theorem Number.read_exponent (n : Number) (leaves : subject.Leaves pos (n.exponentText ++ rest))
    (ends : ∀ c ∈ rest.head?, EndsNumber c)
    : Reads g subject rule (optional (.sequence
        [oneOf "eE", optional (oneOf "+-"), atLeastOne (within '0' '9')])) pos
        n.exponentText := by
  have compiled := oneOf_compiles "eE" (List.cons_ne_nil _ _)
  cases exponent : n.exponent with
  | none =>
      simp only [Number.exponentText, exponent, Option.elim_none] at leaves ⊢
      refine .left_out token (.sequence (.items_missed token
        (.class_missed compiled leaves fun c first => ?_)))
      obtain ⟨-, -, small, capital⟩ := ends c first
      simp [Text.ofString, Ne.symm small, Ne.symm capital]
  | some e =>
      simp only [Number.exponentText, exponent, Option.elim_some] at leaves ⊢
      have member : (Text.ofString "eE").any (· = e.mark.val) = true := by
        rcases e.mark.property with same | same <;> rw [same] <;> rfl
      have mark : Reads g subject rule (oneOf "eE") pos [e.mark.val] :=
        .class_read compiled leaves member
      have behind : subject.Leaves (pos + 1) (e.signText ++ e.digits.text ++ rest) :=
        leaves.advance_one
      have sign : Reads g subject rule (optional (oneOf "+-")) (pos + 1) e.signText :=
        e.read_sign token behind
      rw [List.append_assoc] at behind
      have digits : Reads g subject rule (atLeastOne (within '0' '9'))
          (pos + 1 + e.signText.length) e.digits.text :=
        e.digits.read token behind.advance fun c first => (ends c first).1
      have all : ItemsRead g subject rule true
          [oneOf "eE", optional (oneOf "+-"), atLeastOne (within '0' '9')] pos
          ([e.mark.val] ++ (e.signText ++ (e.digits.text ++ []))) :=
        .next token mark (.next token sign (.next token digits .done))
      rw [List.append_nil] at all
      exact .optional token (.sequence all) (List.cons_ne_nil _ _)

-----------------------------------------------------------------------------------------
-- Whole numbers
-----------------------------------------------------------------------------------------

omit token in
theorem Number.exponent_head (n : Number) (ends : ∀ c ∈ rest.head?, EndsNumber c)
    : ∀ c ∈ (n.exponentText ++ rest).head?, c.isAsciiDigit = false ∧ c ≠ '.' := by
  intro c first
  cases exponent : n.exponent with
  | none =>
      simp only [Number.exponentText, exponent, Option.elim_none, List.nil_append] at first
      exact ⟨(ends c first).1, (ends c first).2.1⟩
  | some e =>
      simp only [Number.exponentText, exponent, Option.elim_some] at first
      obtain rfl : e.mark.val = c := Option.some.inj first
      rcases e.mark.property with same | same <;> rw [same] <;> exact ⟨rfl, by decide⟩

omit token in
theorem Number.fraction_head (n : Number) (ends : ∀ c ∈ rest.head?, c.isAsciiDigit = false)
    : ∀ c ∈ (n.fractionText ++ rest).head?, c.isAsciiDigit = false := by
  intro c first
  cases fraction : n.fraction with
  | none =>
      simp only [Number.fractionText, fraction, Option.elim_none, List.nil_append] at first
      exact ends c first
  | some digits =>
      simp only [Number.fractionText, fraction, Option.elim_some] at first
      obtain rfl : CodePoint.ofChar '.' = c := Option.some.inj first
      rfl

omit token in
theorem Whole.head (whole : Whole) (t : Text)
    : ∀ c ∈ (whole.text ++ t).head?, c.isAsciiDigit = true := by
  intro c first
  cases whole with
  | zero =>
      obtain rfl : CodePoint.ofChar '0' = c := Option.some.inj first
      rfl
  | positive digit digits =>
      obtain rfl : digit.val = c := Option.some.inj first
      exact digit.property.1

/-- A number is read whole where nothing that could go on with it follows. -/
theorem Number.read (n : Number) (leaves : subject.Leaves pos (n.text ++ rest))
    (ends : ∀ c ∈ rest.head?, EndsNumber c)
    : Reads g subject rule numberBody pos n.text := by
  simp only [Number.text, List.append_assoc] at leaves ⊢
  have sign : Reads g subject rule (optional (lit "-")) pos n.signText := by
    refine n.read_sign token leaves fun c first same => ?_
    have digit := n.whole.head _ c first
    rw [same] at digit
    cases digit
  have leavesWhole := leaves.advance
  have behind := n.exponent_head ends
  have whole := n.whole.read (g := g) token leavesWhole
    (n.fraction_head fun c first => (behind c first).1)
  have leavesFraction := leavesWhole.advance
  have fraction := n.read_fraction (g := g) token leavesFraction behind
  have exponent := n.read_exponent (g := g) token leavesFraction.advance ends
  have all : ItemsRead g subject rule true _ pos
      (n.signText ++ (n.whole.text ++ (n.fractionText ++ (n.exponentText ++ [])))) :=
    .next token sign (.next token whole (.next token fraction (.next token exponent .done)))
  rw [List.append_nil] at all
  exact .sequence all

-----------------------------------------------------------------------------------------
-- What is read is a number
-----------------------------------------------------------------------------------------

variable {limit : Nat}

omit token in
/-- Code points that are all of a kind are a list of that kind. -/
theorem exists_map_val {p : CodePoint → Prop} {t : Text} (all : ∀ c ∈ t, p c)
    : ∃ items : List {c // p c}, items.map Subtype.val = t :=
  ⟨t.attachWith p all, by simp⟩

theorem consumes_digits
    : Consumes g subject limit rule (atLeastOne (within '0' '9'))
        (fun t _ => ∃ digits : Digits, t = digits.text) := by
  refine (consumes_class_many token digit_compiles).mono ?_
  rintro t more ⟨some, all, -⟩
  obtain ⟨digits, rfl⟩ := exists_map_val all
  cases digits with
  | nil => simp at some
  | cons first rest => exact ⟨⟨first, rest⟩, rfl⟩

theorem consumes_whole
    : Consumes g subject limit rule
        (.choice [lit "0", .sequence [within '1' '9', many (within '0' '9')]])
        (fun t _ => ∃ whole : Whole, t = whole.text) := by
  refine consumes_choice fun e member => ?_
  rcases List.mem_cons.mp member with rfl | member
  · exact (consumes_literal _).mono fun t more same => ⟨.zero, same⟩
  · obtain rfl := List.mem_singleton.mp member
    have digits : Consumes g subject limit rule (many (within '0' '9')) _ :=
      consumes_class_many token digit_compiles
    refine (consumes_sequence (itemsConsume_first (consumes_class positiveDigit_compiles)
      (itemsConsume_token token digits itemsConsume_nil))).mono ?_
    rintro t more ⟨_, _, rfl, ⟨c, rfl, positive⟩, t, _, rfl, ⟨-, all, -⟩, rfl⟩
    obtain ⟨digits, rfl⟩ := exists_map_val all
    have digit : c.isAsciiDigit = true ∧ c ≠ '0' := by
      simp only [isPositiveDigit, Bool.and_eq_true, decide_eq_true_eq] at positive
      refine ⟨?_, fun same => ?_⟩
      · simp only [CodePoint.isAsciiDigit, Bool.and_eq_true, decide_eq_true_eq]
        omega
      · rw [same] at positive
        exact absurd positive.1 (by decide)
    exact ⟨.positive ⟨c, digit⟩ digits, by simp [Whole.text]⟩

theorem consumes_exponent
    : Consumes g subject limit rule (.sequence
        [oneOf "eE", optional (oneOf "+-"), atLeastOne (within '0' '9')])
        (fun t _ => ∃ e : Exponent, t = e.text) := by
  have letters {chars : String} {c : CodePoint} {a b : Char} (two : (chars : Text) = [↑a, ↑b])
      (member : (chars : Text).any (· = c) = true) : c = a ∨ c = b := by
    rw [two, List.any_cons, List.any_cons, List.any_nil] at member
    simp only [Bool.or_false, Bool.or_eq_true, decide_eq_true_eq] at member
    exact member.imp Eq.symm Eq.symm
  have sign : Consumes g subject limit rule (optional (oneOf "+-")) _ :=
    consumes_optional token (consumes_class (oneOf_compiles "+-" (List.cons_ne_nil _ _)))
  refine (consumes_sequence (itemsConsume_first
    (consumes_class (oneOf_compiles "eE" (List.cons_ne_nil _ _)))
    (itemsConsume_token token sign
      (itemsConsume_token token (consumes_digits token) itemsConsume_nil)))).mono ?_
  rintro t more ⟨_, _, rfl, ⟨c, rfl, mark⟩, s, _, rfl, signed, _, _, rfl, ⟨digits, rfl⟩, rfl⟩
  rcases signed with rfl | ⟨d, rfl, sign⟩
  · exact ⟨⟨⟨c, letters rfl mark⟩, none, digits⟩, by simp [Exponent.text, Exponent.signText]⟩
  · exact ⟨⟨⟨c, letters rfl mark⟩, some ⟨d, letters rfl sign⟩, digits⟩,
      by simp [Exponent.text, Exponent.signText]⟩

/-- Whatever is read as a number is the text of one. -/
theorem consumes_number
    : Consumes g subject limit rule numberBody (fun t _ => ∃ n : Number, t = n.text) := by
  have fraction : Consumes g subject limit rule
      (.sequence [lit ".", atLeastOne (within '0' '9')]) _ :=
    consumes_sequence (itemsConsume_first (consumes_literal _)
      (itemsConsume_token token (consumes_digits token) itemsConsume_nil))
  refine (consumes_sequence (itemsConsume_first
    (consumes_optional token (consumes_literal _))
    (itemsConsume_token token (consumes_whole token)
      (itemsConsume_token token (consumes_optional token fraction)
        (itemsConsume_token token (consumes_optional token (consumes_exponent token))
          itemsConsume_nil))))).mono ?_
  rintro t more ⟨s, _, rfl, signed, _, _, rfl, ⟨whole, rfl⟩, f, _, rfl, fractional, x, _, rfl,
    exponential, rfl⟩
  obtain ⟨negative, sign⟩ : ∃ negative : Bool, s = if negative then Text.ofString "-" else [] := by
    rcases signed with rfl | rfl
    · exact ⟨false, rfl⟩
    · exact ⟨true, rfl⟩
  obtain ⟨fraction, rfl⟩ : ∃ fraction : Option Digits,
      f = fraction.elim [] fun digits => CodePoint.ofChar '.' :: digits.text := by
    rcases fractional with rfl | ⟨_, _, rfl, rfl, _, _, rfl, ⟨digits, rfl⟩, rfl⟩
    · exact ⟨none, rfl⟩
    · exact ⟨some digits, by simp [Text.ofString]⟩
  obtain ⟨exponent, rfl⟩ : ∃ exponent : Option Exponent, x = exponent.elim [] Exponent.text := by
    rcases exponential with rfl | ⟨e, rfl⟩
    · exact ⟨none, rfl⟩
    · exact ⟨some e, rfl⟩
  subst sign
  exact ⟨⟨negative, whole, fraction, exponent⟩, by
    simp [Number.text, Number.signText, Number.fractionText, Number.exponentText]⟩

end Token

end RuleGrammar.Json
