import RuleGrammar.Unicode.Category

/-! Code points of identifiers and of words. ASCII is decided by comparison; beyond it the
general category decides, with the exceptions that the standard lists. -/

namespace RuleGrammar.CodePoint

/-- Letters of any case and letter numbers. -/
def isLetterLike (c : CodePoint) : Bool :=
  match c.category with
  | .lu | .ll | .lt | .lm | .lo | .nl => true
  | _ => false

/-- Code points that no compatible normal form keeps inside an identifier. -/
def changesIdentifier (c : CodePoint) : Bool :=
  let n := c.value
  n = 0x37A || n = 0x2E2F || (0xFC5E ≤ n && n ≤ 0xFC63) || n = 0xFDFA || n = 0xFDFB
    || n = 0xFE70 || n = 0xFE72 || n = 0xFE74 || n = 0xFE76 || n = 0xFE78 || n = 0xFE7A
    || n = 0xFE7C || n = 0xFE7E

/-- Code points that continue an identifier although their normal form may not start one. -/
def onlyContinues (c : CodePoint) : Bool :=
  c.value = 0xE33 || c.value = 0xEB3 || c.value = 0xFF9E || c.value = 0xFF9F

/-- The exceptions kept from older versions of the standard that may start an identifier. -/
def isOtherStart (c : CodePoint) : Bool :=
  let n := c.value
  n = 0x1885 || n = 0x1886 || n = 0x2118 || n = 0x212E

/-- The property XID_Start. -/
def isIdentifierStart (c : CodePoint) : Bool :=
  if c.isAscii then c.isAsciiLetter
  else c.isOtherStart || (c.isLetterLike && !c.changesIdentifier && !c.onlyContinues)

/-- The property XID_Continue. -/
def isIdentifierPart (c : CodePoint) : Bool :=
  if c.isAscii then c.isAsciiLetter || c.isAsciiDigit || c.value = 0x5F
  else
    let n := c.value
    n = 0xB7 || n = 0x387 || (0x1369 ≤ n && n ≤ 0x1371) || n = 0x19DA || n = 0x200C
      || n = 0x200D || n = 0x30FB || n = 0xFF65 || c.isOtherStart
      || (!c.changesIdentifier
        && match c.category with
          | .lu | .ll | .lt | .lm | .lo | .nl | .mn | .mc | .nd | .pc => true
          | _ => false)

/-- Word code points: letters, marks, decimal digits, connectors, circled letters and the two
joiners. -/
def isWord (c : CodePoint) : Bool :=
  if c.isAscii then c.isAsciiLetter || c.isAsciiDigit || c.value = 0x5F
  else
    let n := c.value
    n = 0x200C || n = 0x200D || (0x24B6 ≤ n && n ≤ 0x24E9) || (0x1F130 ≤ n && n ≤ 0x1F149)
      || (0x1F150 ≤ n && n ≤ 0x1F169) || (0x1F170 ≤ n && n ≤ 0x1F189)
      || match c.category with
        | .lu | .ll | .lt | .lm | .lo | .nl | .mn | .mc | .me | .nd | .pc => true
        | _ => false

/-- Decimal digits of any script. -/
def isDecimalDigit (c : CodePoint) : Bool :=
  if c.isAscii then c.isAsciiDigit else c.category = .nd

/-- The value of a decimal digit. The digits of a script stand in series of ten, so past ASCII
the distance from the start of the run of digits counts modulo ten. -/
def decimalDigit? (c : CodePoint) : Option Nat :=
  if c.isAscii then
    if c.isAsciiDigit then some (c.value - 0x30) else none
  else if c.category = .nd then
    some ((c.value - Unicode.runStart c.value 0 Unicode.categoryRuns) % 10)
  else none

/-- Code points that a quoted text shows as they are. -/
def isPrintable (c : CodePoint) : Bool :=
  if c.isAscii then 0x20 ≤ c.value && c.value < 0x7F
  else
    match c.category with
    | .cc | .cf | .cs | .co | .cn | .zl | .zp | .zs => false
    | _ => true

end RuleGrammar.CodePoint
