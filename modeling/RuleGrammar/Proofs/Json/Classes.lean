import RuleGrammar.Json.Grammar
import RuleGrammar.Proofs.Json.Syntax

/-! The character classes of the JSON grammar as predicates on code points. -/

namespace RuleGrammar

namespace CharClass

theorem rangeMembers_eq {ranges : List (CodePoint × CodePoint)}
    (forward : ∀ range ∈ ranges, range.1.value ≤ range.2.value) (offset : Nat)
    : rangeMembers offset ranges = .ok (ranges.map fun range => .range range.1 range.2) := by
  induction ranges generalizing offset with
  | nil => rfl
  | cons range rest ih =>
      obtain ⟨here, later⟩ := List.forall_mem_cons.mp forward
      have member : rangeMember (offset + (patternRange range).length) range.1 range.2
          = .ok (.range range.1 range.2) := if_neg (Nat.not_lt.mpr here)
      simp only [rangeMembers, member, ih later, bind, Except.bind, pure, Except.pure,
        List.map_cons]

theorem filterMap_ranges (ranges : List (CodePoint × CodePoint))
    : (ranges.map fun range => Member.range range.1 range.2).filterMap Member.condition? = [] := by
  simp [List.filterMap_eq_nil_iff, Member.condition?]

theorem filterMap_points (singles : Text)
    : (singles.map Member.point).filterMap Member.condition? = [] := by
  simp [List.filterMap_eq_nil_iff, Member.condition?]

/-- A class of ranges and single code points holds what lies in one of them. -/
theorem compile_of_listed {cls : CharClass} (noEscapes : cls.escapes = [])
    (noProps : cls.props = [])
    (forward : ∀ range ∈ cls.ranges, range.1.value ≤ range.2.value)
    (listed : cls.isEmpty = false)
    : cls.compile
      = .ok fun c =>
          ((cls.ranges.any fun range =>
              decide (range.1.value ≤ c.value) && decide (c.value ≤ range.2.value))
            || cls.singles.any (· = c)) != cls.negated := by
  have members : cls.members
      = .ok (cls.ranges.map (fun range => .range range.1 range.2)
          ++ cls.singles.map Member.point) := by
    simp only [CharClass.members, rangeMembers_eq forward, noEscapes, noProps, propsMembers,
      bind, Except.bind, pure, Except.pure, List.flatMap_nil, List.append_nil]
  have unopposed : areOpposed (cls.ranges.map (fun range => Member.range range.1 range.2)
      ++ cls.singles.map Member.point) = false := by
    simp only [areOpposed, List.filterMap_append, filterMap_ranges, filterMap_points,
      List.append_nil, List.any_nil]
  simp only [compile, members, bind, Except.bind, listed, unopposed, Bool.or_self,
    Bool.false_eq_true, if_false, pure, Except.pure, List.any_append, List.any_map]
  rfl

end CharClass

namespace Json

theorem space_compiles
    : CharClass.compile { escapes := [.space] } = .ok CodePoint.isWhiteSpace := by
  have compiled : CharClass.compile { escapes := [.space] } = .ok _ := rfl
  rw [compiled]
  congr 1
  funext c
  simp [CharClass.escapeMembers, CharClass.Member.contains, CharClass.escapeCondition,
    Unicode.Condition.holds]

theorem digit_compiles
    : CharClass.compile { ranges := [('0', '9')] } = .ok CodePoint.isAsciiDigit := by
  rw [CharClass.compile_of_listed rfl rfl (by decide) rfl]
  congr 1
  funext c
  simp [CodePoint.isAsciiDigit, CodePoint.ofChar]

/-- Whether a code point is one of the digits from one on. -/
def isPositiveDigit (c : CodePoint) : Bool :=
  0x31 ≤ c.value && c.value ≤ 0x39

theorem positiveDigit_compiles
    : CharClass.compile { ranges := [('1', '9')] } = .ok isPositiveDigit := by
  rw [CharClass.compile_of_listed rfl rfl (by decide) rfl]
  congr 1
  funext c
  simp [isPositiveDigit, CodePoint.ofChar]

theorem plain_compiles
    : CharClass.compile
        { negated := true, ranges := [('\x00', '\x1f')], singles := "\"\\" }
      = .ok isPlain := by
  rw [CharClass.compile_of_listed rfl rfl (by decide) rfl]
  congr 1
  funext c
  have first : (CodePoint.ofChar '\x00').value = 0 := rfl
  have last : (CodePoint.ofChar '\x1f').value = 31 := rfl
  have marks : Text.ofString "\"\\" = [CodePoint.ofChar '"', CodePoint.ofChar '\\'] := rfl
  rw [Bool.eq_iff_iff]
  simp only [isPlain, marks, first, last, List.any_cons, List.any_nil, bne_iff_ne,
    Bool.and_eq_true, Bool.or_eq_true, decide_eq_true_eq, ne_eq]
  grind

theorem line_compiles
    : CharClass.compile { negated := true, singles := "\n" }
      = .ok fun c => c != CodePoint.ofChar '\n' := by
  rw [CharClass.compile_of_listed rfl rfl (by decide) rfl]
  congr 1
  funext c
  rw [Bool.eq_iff_iff]
  simp [Text.ofString, ne_comm]

/-- A class of single code points holds these. -/
theorem oneOf_compiles (chars : String) (listed : (chars : Text) ≠ [])
    : CharClass.compile { singles := chars }
      = .ok fun c => (chars : Text).any (· = c) := by
  have filled : CharClass.isEmpty { singles := chars } = false := by
    simp [CharClass.isEmpty, listed]
  rw [CharClass.compile_of_listed rfl rfl (by simp) filled]
  congr 1
  funext c
  simp

theorem xdigit_compiles
    : CharClass.compile { ranges := [('0', '9'), ('A', 'F'), ('a', 'f')] }
      = .ok fun c => c.hexDigit?.isSome := by
  rw [CharClass.compile_of_listed rfl rfl (by decide) rfl]
  congr 1
  funext c
  simp only [CodePoint.hexDigit?, CodePoint.isAsciiDigit, CodePoint.ofChar]
  grind

end Json

end RuleGrammar
