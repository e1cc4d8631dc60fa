import Mathlib.Data.List.TakeWhile
import RuleGrammar.Json.Actions
import RuleGrammar.Proofs.Json.Syntax

/-! Lexemes read back: numbers and escapes stand for their values when they are read as they are
written.
-/

namespace RuleGrammar

-----------------------------------------------------------------------------------------
-- Numerals
-----------------------------------------------------------------------------------------

/-- Whether reading a numeral leaves a code point as it is: white space is trimmed, digits of other
scripts are replaced, and underscores are dropped.
-/
def CodePoint.IsInk (c : CodePoint) : Prop :=
  c.isAscii = true ∧ c.isWhiteSpace = false ∧ c ≠ '_'

theorem CodePoint.isInk_of_isAsciiDigit {c : CodePoint} (digit : c.isAsciiDigit = true)
    : c.IsInk := by
  obtain ⟨n, bound⟩ := c
  simp only [isAsciiDigit, Bool.and_eq_true, decide_eq_true_eq] at digit
  refine ⟨by simp [isAscii]; omega, by simp [isWhiteSpace]; omega, fun same => ?_⟩
  have value : n = 0x5F := congrArg CodePoint.value same
  omega

/-- A digit is none of the code points that are not. -/
theorem CodePoint.ne_of_isAsciiDigit {c d : CodePoint} (digit : c.isAsciiDigit = true)
    (other : d.isAsciiDigit = false)
    : c ≠ d := by
  rintro rfl
  rw [digit] at other
  cases other

namespace Numeral

variable {t : Text}

theorem trim_eq_self (inked : ∀ c ∈ t, c.IsInk) : trim t = t := by
  have kept (u : Text) (same : ∀ c ∈ u, c ∈ t) : u.dropWhile CodePoint.isWhiteSpace = u := by
    cases u with
    | nil => rfl
    | cons c rest =>
        have ink := (inked c (same c List.mem_cons_self)).2.1
        rw [List.dropWhile_cons_of_neg (by simp [ink])]
  rw [trim, kept t fun _ member => member,
    kept t.reverse fun _ member => List.mem_reverse.mp member, List.reverse_reverse]

theorem withAsciiDigits_eq_self (inked : ∀ c ∈ t, c.IsInk) : withAsciiDigits t = t := by
  refine (List.map_congr_left fun c member => ?_).trans (List.map_id _)
  have ascii := (inked c member).1
  obtain ⟨n, bound⟩ := c
  rw [CodePoint.decimalDigit?, if_pos ascii]
  by_cases digit : CodePoint.isAsciiDigit ⟨n, bound⟩ = true
  · rw [if_pos digit]
    simp only [CodePoint.isAsciiDigit, Bool.and_eq_true, decide_eq_true_eq] at digit
    have small : n - 0x30 < 10 := by omega
    simp only [Text.digitChar, dif_pos small, id_eq, CodePoint.mk.injEq]
    omega
  · rw [if_neg digit]
    rfl

theorem dropSeparators_eq_self {isDigit : CodePoint → Bool} {afterDigit : Bool}
    (inked : ∀ c ∈ t, c.IsInk)
    : dropSeparators isDigit afterDigit t = some t := by
  induction t generalizing afterDigit with
  | nil => rfl
  | cons c rest ih =>
      obtain ⟨first, later⟩ := List.forall_mem_cons.mp inked
      rw [dropSeparators, if_neg first.2.2, ih later]
      rfl

theorem prepare_eq_self (inked : ∀ c ∈ t, c.IsInk) : prepare t = some t := by
  rw [prepare, trim_eq_self inked, withAsciiDigits_eq_self inked, dropSeparators_eq_self inked]

/-- A digit is no sign. -/
theorem splitSign_digit {c : CodePoint} (digit : c.isAsciiDigit = true)
    : splitSign (c :: t) = (false, c :: t) := by
  rw [splitSign, if_neg (CodePoint.ne_of_isAsciiDigit digit rfl),
    if_neg (CodePoint.ne_of_isAsciiDigit digit rfl)]

end Numeral

namespace Json

-----------------------------------------------------------------------------------------
-- Numbers
-----------------------------------------------------------------------------------------

theorem Digits.isAsciiDigit (digits : Digits) : ∀ c ∈ digits.text, c.isAsciiDigit = true := by
  intro c member
  rcases List.mem_cons.mp member with rfl | later
  · exact digits.first.property
  · obtain ⟨digit, -, rfl⟩ := List.mem_map.mp later
    exact digit.property

theorem Whole.exists_cons (whole : Whole)
    : ∃ c rest, whole.text = c :: rest ∧ c.isAsciiDigit = true := by
  cases whole with
  | zero => exact ⟨_, _, rfl, rfl⟩
  | positive first rest => exact ⟨_, _, rfl, first.property.1⟩

theorem Whole.isAsciiDigit (whole : Whole) : ∀ c ∈ whole.text, c.isAsciiDigit = true := by
  intro c member
  cases whole with
  | zero =>
      obtain rfl := List.mem_singleton.mp member
      rfl
  | positive first rest =>
      rcases List.mem_cons.mp member with rfl | later
      · exact first.property.1
      · obtain ⟨digit, -, rfl⟩ := List.mem_map.mp later
        exact digit.property

theorem Whole.isEmpty_eq (whole : Whole) : whole.text.isEmpty = false := by
  obtain ⟨c, rest, whole, -⟩ := whole.exists_cons
  rw [whole]
  rfl

/-- An exponent is read as its value. -/
theorem Exponent.readExponent_text (e : Exponent) : Double.readExponent? e.text = some e.value := by
  have mark : e.mark.val.asciiLower = CodePoint.ofChar 'e' := by
    rcases e.mark.property with same | same <;> rw [same] <;> rfl
  have digits : e.digits.text.all CodePoint.isAsciiDigit = true :=
    List.all_eq_true.mpr e.digits.isAsciiDigit
  have split : Numeral.splitSign (e.signText ++ e.digits.text)
      = (decide (e.signText = "-"), e.digits.text) := by
    cases signed : e.sign with
    | none =>
        have sign : e.signText = [] := by rw [signText, signed]; rfl
        rw [sign]
        exact Numeral.splitSign_digit e.digits.first.property
    | some mark =>
        have sign : e.signText = [mark.val] := by rw [signText, signed]; rfl
        rw [sign]
        rcases mark.property with same | same <;> rw [same] <;> rfl
  have filled : e.digits.text.isEmpty = false := rfl
  rw [text, Double.readExponent?, split]
  simp only [mark, filled, digits, value]
  simp

namespace Number

/-- The marks of numbers are read as they are. -/
theorem isInk_of_isMark {c : CodePoint} (mark : IsMark c) : c.IsInk := by
  rcases mark with digit | other
  · exact CodePoint.isInk_of_isAsciiDigit digit
  · have all
        : ∀ c ∈ Text.ofString "+-.eE",
            c.isAscii = true ∧ c.isWhiteSpace = false ∧ c ≠ '_' := by
      decide
    exact all c other

theorem prepare_text (n : Number) : Numeral.prepare n.text = some n.text :=
  Numeral.prepare_eq_self fun c member => isInk_of_isMark (n.isMark_text c member)

/-- A number without its sign. -/
def unsigned (n : Number) : Text :=
  n.whole.text ++ (n.fractionText ++ n.exponentText)

theorem splitSign_text (n : Number)
    : Numeral.splitSign n.text = (n.negative, n.unsigned) := by
  have whole : n.text = n.signText ++ n.unsigned := by simp [text, unsigned]
  rw [whole, signText]
  cases n.negative with
  | true => rfl
  | false =>
      obtain ⟨c, rest, first, digit⟩ := n.whole.exists_cons
      rw [unsigned, first]
      exact Numeral.splitSign_digit digit

/-- An exponent starts with neither a digit nor a point. -/
theorem exponentText_stops (n : Number)
    : ∀ c ∈ n.exponentText.head?, c.isAsciiDigit = false ∧ c ≠ '.' := by
  intro c member
  rw [exponentText] at member
  cases exponential : n.exponent with
  | none =>
      rw [exponential] at member
      cases member
  | some e =>
      rw [exponential] at member
      obtain rfl := Option.some.inj member
      rcases e.mark.property with same | same <;> rw [same] <;> exact ⟨rfl, by decide⟩

/-- The digits in front of something else are those that a text starts with. -/
theorem span_digits {digits rest : Text} (each : ∀ c ∈ digits, c.isAsciiDigit = true)
    (stops : ∀ c ∈ rest.head?, c.isAsciiDigit = false)
    : (digits ++ rest).takeWhile CodePoint.isAsciiDigit = digits
      ∧ (digits ++ rest).dropWhile CodePoint.isAsciiDigit = rest := by
  rw [List.takeWhile_append_of_pos each, List.dropWhile_append_of_pos each]
  cases rest with
  | nil => simp
  | cons c rest =>
      have stop := stops c rfl
      simp [stop]

theorem readExponent_text (n : Number)
    : Double.readExponent? n.exponentText = some (n.exponent.elim 0 Exponent.value) := by
  rw [exponentText]
  cases n.exponent with
  | none => rfl
  | some e => exact e.readExponent_text

/-- A number without its sign is read as the double nearest to its decimal value. -/
theorem readUnsigned_text (n : Number)
    : Double.readUnsigned? n.negative n.unsigned
      = some (.ofDecimal n.negative (Numeral.valueOf (n.whole.text ++ n.fractionDigits))
          (n.exponent.elim 0 Exponent.value - n.fractionDigits.length)) := by
  have whole : n.whole.text.isEmpty = false := n.whole.isEmpty_eq
  have stops c (first : c ∈ n.exponentText.head?) := (n.exponentText_stops c first).1
  cases fractional : n.fraction with
  | none =>
      have digits : n.fractionDigits = [] := by rw [fractionDigits, fractional]; rfl
      have text : n.fractionText = [] := by rw [fractionText, fractional]; rfl
      obtain ⟨taken, dropped⟩ := span_digits n.whole.isAsciiDigit stops
      rw [Double.readUnsigned?, unsigned, text, List.nil_append, taken, dropped, digits]
      cases exponential : n.exponentText with
      | nil =>
          have read := n.readExponent_text
          rw [exponential] at read
          simp [whole, read]
      | cons c rest =>
          have noPoint : c ≠ '.' := (n.exponentText_stops c (by rw [exponential]; rfl)).2
          have read := n.readExponent_text
          rw [exponential] at read
          simp [whole, noPoint, read]
  | some fraction =>
      have digits : n.fractionDigits = fraction.text := by rw [fractionDigits, fractional]; rfl
      have text : n.fractionText = CodePoint.ofChar '.' :: fraction.text := by
        rw [fractionText, fractional]; rfl
      have point : ∀ c ∈ (n.fractionText ++ n.exponentText).head?, c.isAsciiDigit = false := by
        intro c member
        rw [text] at member
        obtain rfl := Option.some.inj member
        rfl
      obtain ⟨taken, dropped⟩ := span_digits n.whole.isAsciiDigit point
      obtain ⟨takenBehind, droppedBehind⟩ :=
        span_digits fraction.isAsciiDigit stops
      rw [Double.readUnsigned?, unsigned, taken, dropped, digits, text, List.cons_append]
      simp [whole, takenBehind, droppedBehind, n.readExponent_text]

/-- No word is written with a digit first. -/
theorem asciiLower_ne (n : Number) {word : Text} {c : CodePoint}
    (first : word.head? = some c) (letter : c.isAsciiDigit = false)
    : Text.asciiLower n.unsigned ≠ word := by
  obtain ⟨d, rest, whole, digit⟩ := n.whole.exists_cons
  have small : d.asciiLower = d := by
    refine dif_neg fun upper => ?_
    simp only [CodePoint.isAsciiDigit, CodePoint.isAsciiUpper, Bool.and_eq_true,
      decide_eq_true_eq] at digit upper
    omega
  rintro rfl
  rw [unsigned, whole] at first
  obtain rfl : d.asciiLower = c := Option.some.inj first
  rw [small, digit] at letter
  cases letter

/-- A number is read as the double nearest to its decimal value. -/
theorem read_text (n : Number)
    : Double.read? n.text
      = some (.ofDecimal n.negative (Numeral.valueOf (n.whole.text ++ n.fractionDigits))
          (n.exponent.elim 0 Exponent.value - n.fractionDigits.length)) := by
  have inf : Text.asciiLower n.unsigned ≠ Text.ofString "inf" := n.asciiLower_ne rfl rfl
  have infinity : Text.asciiLower n.unsigned ≠ Text.ofString "infinity" := n.asciiLower_ne rfl rfl
  have nan : Text.asciiLower n.unsigned ≠ Text.ofString "nan" := n.asciiLower_ne rfl rfl
  rw [← readUnsigned_text, Double.read?, prepare_text]
  simp only [Option.bind_eq_bind, Option.bind_some, splitSign_text, inf, infinity, nan,
    decide_false, Bool.or_self, Bool.false_eq_true, if_false]

theorem isInteger_iff (n : Number)
    : n.isInteger = true ↔ n.fraction = none ∧ n.exponent = none := by
  simp [isInteger]

theorem unsigned_of_isInteger {n : Number} (integer : n.isInteger = true)
    : n.unsigned = n.whole.text := by
  obtain ⟨noFraction, noExponent⟩ := n.isInteger_iff.mp integer
  rw [unsigned, fractionText, exponentText, noFraction, noExponent]
  simp

/-- A number is written with a point or an exponent unless it is an integer. -/
theorem isFraction_text (n : Number) : isFraction n.text = !n.isInteger := by
  cases integer : n.isInteger with
  | true =>
      obtain ⟨noFraction, noExponent⟩ := n.isInteger_iff.mp integer
      refine List.any_eq_false.mpr fun c member => ?_
      simp only [text, fractionText, exponentText, noFraction, noExponent, Option.elim_none,
        List.append_nil, List.mem_append] at member
      rcases member with sign | whole
      · have minus : c = CodePoint.ofChar '-' := by
          rw [signText] at sign
          split at sign
          · exact List.mem_singleton.mp sign
          · cases sign
        rw [minus]
        decide
      · have digit := n.whole.isAsciiDigit c whole
        have other (mark : Char) (none : CodePoint.isAsciiDigit mark = false) :=
          CodePoint.ne_of_isAsciiDigit digit none
        simp [other '.' rfl, other 'e' rfl, other 'E' rfl]
  | false =>
      refine List.any_eq_true.mpr ?_
      cases fractional : n.fraction with
      | some digits =>
          refine ⟨CodePoint.ofChar '.', ?_, by simp⟩
          simp [text, fractionText, fractional]
      | none =>
          cases exponential : n.exponent with
          | some e =>
              refine ⟨e.mark.val, ?_, ?_⟩
              · simp [text, exponentText, exponential, Exponent.text]
              · rcases e.mark.property with same | same <;> simp [same]
          | none => simp [isInteger, fractional, exponential] at integer

/-- An integer that is short enough is read exactly. -/
theorem readInt_text {n : Number} (integer : n.isInteger = true) (readable : n.IsReadable)
    : Numeral.readInt? n.text
      = some (if n.negative then -(Numeral.valueOf n.whole.text : Int)
          else Numeral.valueOf n.whole.text) := by
  have whole : n.whole.text.isEmpty = false := n.whole.isEmpty_eq
  have digits : n.whole.text.all CodePoint.isAsciiDigit = true :=
    List.all_eq_true.mpr n.whole.isAsciiDigit
  have short : ¬ Numeral.digitLimit < n.whole.text.length := Nat.not_lt.mpr (readable integer)
  rw [Numeral.readInt?, prepare_text]
  simp only [Option.bind_eq_bind, Option.bind_some, splitSign_text,
    unsigned_of_isInteger integer, whole, digits, short, Bool.not_true, Bool.or_self, decide_false,
    Bool.false_eq_true, if_false]
  rfl

/-- A number is read as its value. -/
theorem numberValue_text (n : Number) (readable : n.IsReadable)
    : numberValue n.text = some n.value := by
  rw [numberValue, isFraction_text, value]
  cases integer : n.isInteger with
  | true =>
      rw [readInt_text integer readable]
      rfl
  | false =>
      rw [read_text]
      rfl

end Number

-----------------------------------------------------------------------------------------
-- Escapes
-----------------------------------------------------------------------------------------

namespace HexDigit

theorem range (d : HexDigit)
    : 0x30 ≤ d.val.value ∧ d.val.value ≤ 0x39
      ∨ 0x61 ≤ d.val.value ∧ d.val.value ≤ 0x66
      ∨ 0x41 ≤ d.val.value ∧ d.val.value ≤ 0x46 := by
  have isDigit := d.property
  simp only [CodePoint.hexDigit?, CodePoint.isAsciiDigit, Bool.and_eq_true,
    decide_eq_true_eq] at isDigit
  by_contra outside
  obtain ⟨noDigit, noSmall, noCapital⟩ := not_or.mp outside |>.imp_right not_or.mp
  rw [if_neg noDigit, if_neg noSmall, if_neg noCapital] at isDigit
  cases isDigit

theorem isInk (d : HexDigit) : d.val.IsInk := by
  have range := d.range
  refine ⟨by simp [CodePoint.isAscii]; omega, by simp [CodePoint.isWhiteSpace]; omega,
    fun same => ?_⟩
  have value : d.val.value = 0x5F := congrArg CodePoint.value same
  omega

theorem hexDigit?_eq (d : HexDigit) : d.val.hexDigit? = some d.value :=
  (Option.some_get d.property).symm

end HexDigit

/-- Four hexadecimal digits are read as the number that they write. -/
theorem readHex_digits (a b c d : HexDigit)
    : Numeral.readHex? [a.val, b.val, c.val, d.val]
      = some (((a.value * 16 + b.value) * 16 + c.value) * 16 + d.value : Nat) := by
  have inked : ∀ e ∈ [a.val, b.val, c.val, d.val], e.IsInk := by simp [HexDigit.isInk]
  have range := a.range
  have minus : a.val ≠ '-' := fun same => by
    have value : a.val.value = 0x2D := congrArg CodePoint.value same
    omega
  have plus : a.val ≠ '+' := fun same => by
    have value : a.val.value = 0x2B := congrArg CodePoint.value same
    omega
  have noMark : b.val.asciiLower ≠ 'x' := fun same => by
    have range := b.range
    rw [CodePoint.asciiLower] at same
    split at same
    · have value : b.val.value + 0x20 = 0x78 := congrArg CodePoint.value same
      omega
    · have value : b.val.value = 0x78 := congrArg CodePoint.value same
      omega
  have split : Numeral.splitSign [a.val, b.val, c.val, d.val]
      = (false, [a.val, b.val, c.val, d.val]) := by
    rw [Numeral.splitSign, if_neg minus, if_neg plus]
  have unmarked : Numeral.dropHexMark [a.val, b.val, c.val, d.val]
      = [a.val, b.val, c.val, d.val] := by
    rw [Numeral.dropHexMark, if_neg (by simp [noMark])]
  unfold Numeral.readHex?
  rw [Numeral.trim_eq_self inked, Numeral.withAsciiDigits_eq_self inked, split]
  simp only [unmarked, Numeral.dropSeparators_eq_self inked]
  simp [HexDigit.hexDigit?_eq]

/-- An escape without its backslash is read as its value. -/
theorem Escape.escapeValue_text (e : Escape) : escapeValue (e.text.drop 1) = .ok [e.value] := by
  cases e with
  | short escape => cases escape <;> rfl
  | hex a b c d =>
      let n := ((a.value * 16 + b.value) * 16 + c.value) * 16 + d.value
      have small : n < 0x10000 := by
        have := a.value_lt
        have := b.value_lt
        have := c.value_lt
        have := d.value_lt
        omega
      have read : Numeral.readHex? [a.val, b.val, c.val, d.val] = some (n : Int) :=
        readHex_digits a b c d
      have point : pointOf n = .ok (Escape.hex a b c d).value := by
        have inRange : ¬ (decide ((n : Int) < -0x80000000) || decide (0x7fffffff < (n : Int)))
            = true := by simp; omega
        have nonneg : ¬ (n : Int) < 0 := by omega
        have isPoint : CodePoint.ofNat? n = some (Escape.hex a b c d).value :=
          dif_pos (by omega)
        rw [pointOf, if_neg inRange, if_neg nonneg, Int.toNat_natCast, isPoint]
        rfl
      have drop : (Escape.hex a b c d).text.drop 1
          = CodePoint.ofChar 'u' :: [a.val, b.val, c.val, d.val] := rfl
      rw [drop, escapeValue, if_pos rfl, read]
      simp only [point]
      rfl

end Json

end RuleGrammar
