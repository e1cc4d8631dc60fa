import RuleGrammar.Number.Double

/-! Doubles as quotients with small terms. A continued fraction is followed until what is left of
the double is hardly anything, so that a double that was written as a quotient gives its terms
back. -/

namespace RuleGrammar.Double

/-- What counts as hardly anything: the double nearest to a ten-thousandth, exactly. -/
def tolerance : Nat × Nat :=
  (7378697629483821, twoTo 66)

/-- Whether a quotient is below the tolerance. -/
def isNegligible (num den : Nat) : Bool :=
  decide (num * tolerance.2 < tolerance.1 * den)

/-- The two terms of a quotient near a finite double, or none if the steps do not suffice. Each
step splits off the whole part and goes on with the reciprocal of what is left. -/
def ratio? (steps : Nat) (negative : Bool) (significand : Nat) (exponent : Int)
    : Option (Int × Int) :=
  match steps with
  | 0 => none
  | steps + 1 =>
      let (num, den) := scale significand 1 (-exponent)
      let whole : Int := if negative then -(num / den : Nat) else (num / den : Nat)
      let left := num % den
      if isNegligible left den then some (whole, 1)
      else
        match ofQuotient negative den left with
        | finite sign m e => do
            let (above, below) ← ratio? steps sign m e
            return (whole * above + below, above)
        | _ => none

end RuleGrammar.Double
