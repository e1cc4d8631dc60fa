import RuleGrammar.Number.Numeral

/-! Binary floating-point numbers of double precision, as exact values. A number is rounded to
the nearest double, and to the one with the even significand when two are equally near. -/

namespace RuleGrammar

/-- A double: a significand times a power of two, an infinity, or no number. The significand has
fifty-three bits, unless the exponent is the least one. -/
inductive Double
  | finite (negative : Bool) (significand : Nat) (exponent : Int)
  | infinite (negative : Bool)
  | notANumber (negative : Bool)
deriving DecidableEq

namespace Double

/-- The exponent of the numbers nearest to zero. -/
def leastExponent : Int := -1074

/-- The exponent of the greatest numbers. -/
def greatestExponent : Int := 971

def twoTo (power : Nat) : Nat :=
  Nat.pow 2 power

def tenTo (power : Nat) : Nat :=
  Nat.pow 10 power

/-- A significand one bit too long. -/
def significandLimit : Nat := twoTo 53

def zero (negative : Bool) : Double :=
  finite negative 0 leastExponent

/-- The quotient rounded to the nearest integer, a half to the even one. -/
def roundDiv (num den : Nat) : Nat :=
  let q := num / den
  let r := num % den
  if 2 * r < den then q
  else if den < 2 * r then q + 1
  else q + q % 2

/-- A quotient divided by a power of two, as a quotient. -/
def scale (num den : Nat) (exponent : Int) : Nat × Nat :=
  if exponent < 0 then (num * twoTo (-exponent).toNat, den) else (num, den * twoTo exponent.toNat)

/-- The exponent at which a positive quotient has a significand of fifty-three bits, as far as
exponents reach down. The lengths of both parts fix it up to one. -/
def exponentOf (num den : Nat) : Int :=
  let guess : Int := (num.log2 : Int) - den.log2 - 53
  let (n, d) := scale num den guess
  max leastExponent (if n / d < significandLimit then guess else guess + 1)

/-- The double nearest to a quotient of natural numbers. -/
def ofQuotient (negative : Bool) (num den : Nat) : Double :=
  if num = 0 then zero negative
  else
    let exponent := exponentOf num den
    let (n, d) := scale num den exponent
    let significand := roundDiv n d
    let (significand, exponent) :=
      if significand = significandLimit then (significand / 2, exponent + 1)
      else (significand, exponent)
    if greatestExponent < exponent then infinite negative
    else finite negative significand exponent

/-- The double nearest to a natural number times a power of ten. Powers that lead far beyond
the range of doubles are not computed. -/
def ofDecimal (negative : Bool) (n : Nat) (power : Int) : Double :=
  if n = 0 then zero negative
  else if 400 < power then infinite negative
  else if power < -(n.log2 + 400 : Int) then zero negative
  else if power < 0 then ofQuotient negative n (tenTo (-power).toNat)
  else ofQuotient negative (n * tenTo power.toNat) 1

/-- The double nearest to an integer, unless it is beyond all of them. -/
def ofInt? (n : Int) : Option Double :=
  match ofQuotient (n < 0) n.natAbs 1 with
  | infinite _ => none
  | d => some d

/-- The value of a finite double in units of a power of two that is not above its own. -/
def unitsOf (negative : Bool) (significand : Nat) (exponent unit : Int) : Int :=
  let units : Int := (significand * twoTo (exponent - unit).toNat : Nat)
  if negative then -units else units

/-- The double nearest to a sum. -/
def add : Double → Double → Double
  | notANumber s, _ => notANumber s
  | _, notANumber s => notANumber s
  | infinite s, infinite t => if s = t then infinite s else notANumber true
  | infinite s, finite _ _ _ => infinite s
  | finite _ _ _, infinite s => infinite s
  | finite s m e, finite t n f =>
      let unit := min e f
      let sum := unitsOf s m e unit + unitsOf t n f unit
      if sum = 0 then zero (s && t)
      else if unit < 0 then ofQuotient (sum < 0) sum.natAbs (twoTo (-unit).toNat)
      else ofQuotient (sum < 0) (sum.natAbs * twoTo unit.toNat) 1

/-! ### Comparing -/

/-- Whether a double is an integer. -/
def isInt (d : Double) (n : Int) : Bool :=
  match d with
  | finite negative significand exponent =>
      let (num, den) := scale significand 1 (-exponent)
      (if negative then -(num : Int) else num) = n * den
  | _ => false

/-- Whether two doubles are the same number. The two zeros are, and what is no number is not the
same as anything. -/
def isSame : Double → Double → Bool
  | finite s m e, finite t n f => m = n && ((e = f && s = t) || m = 0)
  | infinite s, infinite t => s = t
  | _, _ => false

/-! ### Writing bits -/

/-- The first of the sixty-four bits, which is set for a negative number. -/
def signBit (negative : Bool) : Nat :=
  if negative then twoTo 63 else 0

/-- The sixty-four bits of a double as a number: the sign, eleven bits that count exponents, and
the significand without its first bit, which only the numbers nearest to zero lack. -/
def bits : Double → Nat
  | finite negative significand exponent =>
      if significand < twoTo 52 then signBit negative + significand
      else signBit negative + (exponent + 1075).toNat * twoTo 52 + (significand - twoTo 52)
  | infinite negative => signBit negative + 2047 * twoTo 52
  | notANumber negative => signBit negative + 2047 * twoTo 52 + twoTo 51

/-- The bits of a double in sixteen hexadecimal digits. -/
def hex (d : Double) : Text :=
  Text.padZeros 16 (Text.ofNatBase 16 d.bits)

/-! ### Reading -/

/-- The exponent that ends a numeral: a mark, a sign and digits, or nothing. -/
def readExponent? : Text → Option Int
  | [] => some 0
  | mark :: rest =>
      let (negative, digits) := Numeral.splitSign rest
      if mark.asciiLower ≠ CodePoint.ofChar 'e' || digits.isEmpty
          || !digits.all CodePoint.isAsciiDigit then none
      else
        let n : Int := Numeral.valueOf digits
        some (if negative then -n else n)

/-- A numeral without sign: digits with at most one point among them, and an exponent. -/
def readUnsigned? (negative : Bool) (t : Text) : Option Double := do
  let whole := t.takeWhile CodePoint.isAsciiDigit
  let afterWhole := t.dropWhile CodePoint.isAsciiDigit
  let (fraction, rest) := match afterWhole with
    | [] => ([], [])
    | c :: more =>
        if c = CodePoint.ofChar '.' then
          (more.takeWhile CodePoint.isAsciiDigit, more.dropWhile CodePoint.isAsciiDigit)
        else ([], c :: more)
  if whole.isEmpty && fraction.isEmpty then none
  else
    let exponent ← readExponent? rest
    return ofDecimal negative (Numeral.valueOf (whole ++ fraction)) (exponent - fraction.length)

/-- The double that a text writes: a numeral, or one of the words for what is no number. -/
def read? (t : Text) : Option Double := do
  let (negative, body) := Numeral.splitSign (← Numeral.prepare t)
  let word := Text.asciiLower body
  if word = Text.ofString "inf" || word = Text.ofString "infinity" then
    return infinite negative
  else if word = Text.ofString "nan" then return notANumber negative
  else readUnsigned? negative body

end Double

end RuleGrammar
