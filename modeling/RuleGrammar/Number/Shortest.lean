import RuleGrammar.Number.Double

/-! The shortest decimal numerals of doubles: of all numerals that read back as the double, one
with the fewest digits, and of those the nearest. -/

namespace RuleGrammar.Double

/-- A decimal numeral: its digits as a number, and the power of ten that the last one counts. -/
structure Decimal where
  digits : Nat
  power : Int
deriving DecidableEq

/-- The floor of a quotient divided by a power of ten, and whether the next number is nearer,
given which of two equally near numbers is taken. -/
def decimalFloor (num den : Nat) (power : Int) : Nat × Bool :=
  let (n, d) :=
    if power < 0 then (num * tenTo (-power).toNat, den) else (num, den * tenTo power.toNat)
  (n / d, d < 2 * (n % d) || (d = 2 * (n % d) && (n / d) % 2 = 1))

/-- A finite positive double as a quotient. -/
def quotient (significand : Nat) (exponent : Int) : Nat × Nat :=
  if exponent < 0 then (significand, twoTo (-exponent).toNat)
  else (significand * twoTo exponent.toNat, 1)

/-- Whether a decimal reads back as the double. -/
def readsBack (significand : Nat) (exponent : Int) (decimal : Decimal) : Bool :=
  ofDecimal false decimal.digits decimal.power = finite false significand exponent

/-- The nearer of the two neighbours of a double on a decimal grid that reads back, or the other
one if only that does. -/
def onGrid? (significand : Nat) (exponent power : Int) : Option Decimal :=
  let (num, den) := quotient significand exponent
  let (floor, upper) := decimalFloor num den power
  let near : Decimal := ⟨if upper then floor + 1 else floor, power⟩
  let far : Decimal := ⟨if upper then floor else floor + 1, power⟩
  if readsBack significand exponent near then some near
  else if readsBack significand exponent far then some far
  else none

/-- The number of decimal digits before the point, for a number at least one; for a smaller one
minus the number of zeros after it. -/
def pointPosition (num den : Nat) : Int :=
  if den ≤ num then (Text.ofNat (num / den)).length
  else
    let zeros := (Text.ofNat (den / num)).length - 1
    if num * tenTo zeros < den then -(zeros : Int) else 1 - zeros

/-- The first grid on which a neighbour reads back, from the given number of digits on. -/
def searchGrid (significand : Nat) (exponent point : Int) : Nat → Nat → Decimal
  | 0, digits => ⟨digits, 0⟩
  | tries + 1, digits =>
      match onGrid? significand exponent (point - digits) with
      | some decimal => decimal
      | none => searchGrid significand exponent point tries (digits + 1)

/-- The shortest decimal of a finite positive double; seventeen digits are always enough. -/
def shortest (significand : Nat) (exponent : Int) : Decimal :=
  let (num, den) := quotient significand exponent
  searchGrid significand exponent (pointPosition num den) 17 1

/-- Digits with a point after the first one, if there are more. -/
def pointed : Text → Text
  | [] => []
  | [d] => [d]
  | d :: rest => d :: CodePoint.ofChar '.' :: rest

/-- A decimal in writing. The digits stand around a point as long as it falls within sixteen
digits or four zeros; otherwise an exponent of two digits or more follows. -/
def Decimal.render (decimal : Decimal) : Text :=
  let digits := Text.ofNat decimal.digits
  let kept := (digits.reverse.dropWhile (· = CodePoint.ofChar '0')).reverse
  let point := decimal.power + digits.length
  if 16 < point || point ≤ -4 then
    let exponent := point - 1
    pointed kept ++ "e" ++ (if exponent < 0 then "-" else "+")
      ++ Text.padZeros 2 (Text.ofNat exponent.natAbs)
  else if point ≤ 0 then
    "0." ++ List.replicate (-point).toNat (CodePoint.ofChar '0') ++ kept
  else if kept.length ≤ point.toNat then
    kept ++ List.replicate (point.toNat - kept.length) (CodePoint.ofChar '0') ++ ".0"
  else kept.take point.toNat ++ "." ++ kept.drop point.toNat

/-- A double in writing. -/
def render : Double → Text
  | finite negative significand exponent =>
      (if negative then "-" else "")
        ++ (if significand = 0 then ("0.0" : Text) else (shortest significand exponent).render)
  | infinite negative => if negative then "-inf" else "inf"
  | notANumber _ => "nan"

end RuleGrammar.Double
