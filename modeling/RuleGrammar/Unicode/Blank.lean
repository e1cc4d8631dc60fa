import RuleGrammar.Unicode.Category

/-! Blank code points. White space is what `\s` stands for; notation also skips the four
information separators. -/

namespace RuleGrammar.CodePoint

/-- The twenty-five code points with the property White_Space. -/
def isWhiteSpace (c : CodePoint) : Bool :=
  let n := c.value
  (0x09 ≤ n && n ≤ 0x0D) || n = 0x20 || n = 0x85 || n = 0xA0 || n = 0x1680
    || (0x2000 ≤ n && n ≤ 0x200A) || n = 0x2028 || n = 0x2029 || n = 0x202F || n = 0x205F
    || n = 0x3000

/-- White space and the four information separators below the space. -/
def isBlank (c : CodePoint) : Bool :=
  c.isWhiteSpace || (0x1C ≤ c.value && c.value ≤ 0x1F)

/-- A tab or a space separator. -/
def isHorizontalSpace (c : CodePoint) : Bool :=
  c.value = 0x09 || c.category = .zs

end RuleGrammar.CodePoint
