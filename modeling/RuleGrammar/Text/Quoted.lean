import RuleGrammar.Unicode.Identifier

/-! The quoted form of a text. Single quotes enclose it, double ones when that saves escapes,
and whatever cannot be shown is written as an escape of the shortest width that holds it. -/

namespace RuleGrammar.Text

/-- The quote that encloses a text: double when it holds single quotes and no double ones. -/
def quoteMark (t : Text) : CodePoint :=
  if t.contains '\'' && !t.contains '"' then '"' else '\''

/-- One code point inside quotes of the given kind. -/
def quotedPoint (mark c : CodePoint) : Text :=
  if c = mark || c = '\\' then [CodePoint.ofChar '\\', c]
  else if c = '\n' then "\\n"
  else if c = '\r' then "\\r"
  else if c = '\t' then "\\t"
  else if c.isPrintable then [c]
  else if c.value < 0x100 then "\\x" ++ padZeros 2 (ofNatBase 16 c.value)
  else if c.value < 0x10000 then "\\u" ++ padZeros 4 (ofNatBase 16 c.value)
  else "\\U" ++ padZeros 8 (ofNatBase 16 c.value)

/-- A text in quotes. -/
def quoted (t : Text) : Text :=
  let mark := quoteMark t
  [mark] ++ t.flatMap (quotedPoint mark) ++ [mark]

end RuleGrammar.Text
