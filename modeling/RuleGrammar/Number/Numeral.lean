import RuleGrammar.Unicode.Blank
import RuleGrammar.Unicode.Identifier

/-! Numerals. Decimal digits of any script count, single underscores may stand between digits,
and white space around a numeral does not matter. -/

namespace RuleGrammar.Numeral

/-- The most digits that an integer may be written with. -/
def digitLimit : Nat := 4300

/-- The number that ASCII digits write. -/
def valueOf (digits : Text) : Nat :=
  digits.foldl (fun n c => n * 10 + (c.value - 0x30)) 0

/-- A text with the digits of other scripts replaced by those of ASCII. -/
def withAsciiDigits (t : Text) : Text :=
  t.map fun c => match c.decimalDigit? with
    | some d => Text.digitChar d
    | none => c

/-- A text without white space at its ends. -/
def trim (t : Text) : Text :=
  ((t.dropWhile CodePoint.isWhiteSpace).reverse.dropWhile CodePoint.isWhiteSpace).reverse

/-- A text without its underscores, each of which has to stand between two digits. -/
def dropSeparators (isDigit : CodePoint → Bool) (afterDigit : Bool) : Text → Option Text
  | [] => some []
  | c :: rest =>
      if c = CodePoint.ofChar '_' then
        if afterDigit && (rest.head?.map isDigit).getD false then
          dropSeparators isDigit false rest
        else none
      else (dropSeparators isDigit (isDigit c) rest).map (c :: ·)

/-- A numeral prepared for reading. -/
def prepare (t : Text) : Option Text :=
  dropSeparators CodePoint.isAsciiDigit false (withAsciiDigits (trim t))

/-- Whether a text starts with a minus sign, and the text without its sign. -/
def splitSign : Text → Bool × Text
  | [] => (false, [])
  | c :: rest =>
      if c = CodePoint.ofChar '-' then (true, rest)
      else if c = CodePoint.ofChar '+' then (false, rest)
      else (false, c :: rest)

/-- The integer that a text writes, in no more digits than the limit. -/
def readInt? (t : Text) : Option Int := do
  let (negative, digits) := splitSign (← prepare t)
  if digits.isEmpty || !digits.all CodePoint.isAsciiDigit || digitLimit < digits.length then none
  else
    let n : Int := valueOf digits
    return if negative then -n else n

/-! ### Hexadecimal numerals -/

/-- A numeral without the mark that it is hexadecimal, after which an underscore may stand. -/
def dropHexMark : Text → Text
  | zero :: mark :: rest =>
      if zero = CodePoint.ofChar '0' && mark.asciiLower = CodePoint.ofChar 'x' then
        if rest.head? = some (CodePoint.ofChar '_') then rest.tail else rest
      else zero :: mark :: rest
  | t => t

/-- The integer that a text writes in base sixteen, in any number of digits. -/
def readHex? (t : Text) : Option Int := do
  let (negative, body) := splitSign (withAsciiDigits (trim t))
  let digits ← dropSeparators (·.hexDigit?.isSome) false (dropHexMark body)
  if digits.isEmpty then none
  else
    let n : Nat ← digits.foldlM (fun n c => c.hexDigit?.map (n * 16 + ·)) 0
    return if negative then -n else n

end RuleGrammar.Numeral
