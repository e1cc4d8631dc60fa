import RuleGrammar.Unicode.Blank
import RuleGrammar.Unicode.Identifier

/-! The categories of blank code points, read off the table. None of them starts an identifier. -/

namespace RuleGrammar

namespace Unicode

/-- The blank code points past ASCII. -/
def farBlanks : List Nat :=
  [0x85, 0xA0, 0x1680, 0x2000, 0x2001, 0x2002, 0x2003, 0x2004, 0x2005, 0x2006, 0x2007, 0x2008,
    0x2009, 0x200A, 0x2028, 0x2029, 0x202F, 0x205F, 0x3000]

/-- A literal is spelled out by unification, where evaluation would have to decode it. -/
theorem toList_spelled {s : String} {letters : List Char} (spelled : s = String.ofList letters)
    : s.toList = letters := by
  rw [spelled, String.toList_ofList]

/-- The blank code points lie in runs of controls and of separators. -/
theorem find?_categoryRuns_farBlanks
    : ∀ n ∈ farBlanks,
        (categoryRuns.find? fun run => decide (n < run.1)).any
          (fun run => decide (run.2 ∈ [Category.cc, .zs, .zl, .zp])) = true := by
  delta categoryRuns categoryTable
  rw [String.toList_join]
  simp only [List.flatMap_cons, List.flatMap_nil]
  repeat rw [toList_spelled rfl]
  decide +kernel

end Unicode

namespace CodePoint

variable {c : CodePoint}

theorem mem_farBlanks (far : c.isAscii = false) (blank : c.isBlank = true)
    : c.value ∈ Unicode.farBlanks := by
  simp only [isAscii, decide_eq_false_iff_not] at far
  simp only [isBlank, isWhiteSpace, Bool.or_eq_true, Bool.and_eq_true, decide_eq_true_eq] at blank
  simp only [Unicode.farBlanks, List.mem_cons, List.not_mem_nil]
  omega

/-- Past ASCII blank code points are controls and separators. -/
theorem category_of_isBlank (far : c.isAscii = false) (blank : c.isBlank = true)
    : c.category ∈ [Unicode.Category.cc, .zs, .zl, .zp] := by
  have found := Unicode.find?_categoryRuns_farBlanks c.value (mem_farBlanks far blank)
  obtain ⟨run, sought, listed⟩ := (Option.any_eq_true _ _).mp found
  simpa [category, far, sought] using listed

theorem isLetterLike_of_isBlank (far : c.isAscii = false) (blank : c.isBlank = true)
    : c.isLetterLike = false := by
  have listed := category_of_isBlank far blank
  simp only [List.mem_cons, List.not_mem_nil, or_false] at listed
  unfold isLetterLike
  rcases listed with same | same | same | same <;> rw [same]

/-- No blank code point starts an identifier. -/
theorem isBlank_of_isIdentifierStart (starts : c.isIdentifierStart = true)
    : c.isBlank = false := by
  refine Bool.eq_false_iff.mpr fun blank => ?_
  unfold isIdentifierStart at starts
  cases far : c.isAscii with
  | true =>
      simp only [far, if_true, isAsciiLetter, isAsciiUpper, isAsciiLower, Bool.or_eq_true,
        Bool.and_eq_true, decide_eq_true_eq] at starts
      simp only [isBlank, isWhiteSpace, Bool.or_eq_true, Bool.and_eq_true,
        decide_eq_true_eq] at blank
      omega
  | false =>
      have listed := mem_farBlanks far blank
      simp only [Unicode.farBlanks, List.mem_cons, List.not_mem_nil, or_false] at listed
      simp only [far, isLetterLike_of_isBlank far blank, isOtherStart, Bool.false_and,
        Bool.or_false, Bool.or_eq_true, decide_eq_true_eq, Bool.false_eq_true, if_false] at starts
      omega

end CodePoint

end RuleGrammar
