import RuleGrammar.Number.Ratio
import RuleGrammar.Unicode.Property

/-! Properties as they are asked for. A name stands alone or after the name of its property and a
colon or an equals sign; a circumflex in front turns it around. A name that stands alone is
looked up among the general categories, the scripts and the blocks, then among the properties,
and last with a prefix taken off. Case, hyphens, underscores and blanks do not count, and a
number may be written in any way. -/

namespace RuleGrammar.Unicode

/-- Why a name stands for no property: there is none, it has no such value, or the name is that
of an infinite number. -/
inductive LookupFault
  | unknownProperty
  | unknownValue
  | infinite
deriving DecidableEq

/-! ### Names -/

/-- The terms of the quotient that a numeral comes close to. -/
def termsOf? (numeral : Text) : Except LookupFault (Option (Int × Int)) :=
  match Double.read? numeral with
  | some (.infinite _) => throw .infinite
  | some (.finite negative significand exponent) =>
      return Double.ratio? 1000 negative significand exponent
  | _ => return none

/-- The terms of a number, which is written as a numeral or as two with a slash between. -/
def quotientOf? (number : Text) : Except LookupFault (Option (Int × Int)) := do
  match number.splitOn (CodePoint.ofChar '/') with
  | [numeral] => termsOf? numeral
  | [above, below] =>
      match ← termsOf? above with
      | none => return none
      | some (a, b) =>
          match ← termsOf? below with
          | none => return none
          | some (c, d) => return some (a * d, b * c)
  | _ => return none

/-- A number in the one spelling that names use: as a quotient, unless it is a whole number. -/
def numberName? (name : Text) : Except LookupFault (Option Text) := do
  let isNegative := name.head? = some (CodePoint.ofChar '-')
  let sign : Text := if isNegative then "-" else []
  match ← quotientOf? (if isNegative then name.tail else name) with
  | none => return none
  | some (whole, 1) => return some (sign ++ Text.ofInt whole)
  | some (above, below) => return some (sign ++ Text.ofInt above ++ "/" ++ Text.ofInt below)

/-- A name in the spelling that tables use. -/
def standardName (name : Text) : Except LookupFault Text := do
  match ← numberName? name with
  | some number => return number
  | none =>
      return Text.asciiUpper
        (name.filter fun c => c.value ≠ 0x5F && c.value ≠ 0x2D && c.value ≠ 0x20)

/-- What a property is asked for by. -/
structure PropertyName where
  negated : Bool
  qualifier : Option Text
  name : Text
deriving DecidableEq

namespace PropertyName

/-- The code points that names are made of. -/
def isPart (c : CodePoint) : Bool :=
  c.isAsciiLetter || c.isAsciiDigit
    || [' ', '&', '_', '-', '.'].any fun mark => c = CodePoint.ofChar mark

/-- A text without blanks at its ends. -/
def trim (t : Text) : Text :=
  let isSpace (c : CodePoint) := decide (c = CodePoint.ofChar ' ')
  ((t.dropWhile isSpace).reverse.dropWhile isSpace).reverse

/-- The name of a value after that of its property. A slash may stand in it. -/
def readQualified (negated : Bool) (qualifier value : Text) : Option PropertyName :=
  let name := trim value
  if name.isEmpty || !value.all (fun c => isPart c || c = CodePoint.ofChar '/') then none
  else some ⟨negated, if qualifier.isEmpty then none else some qualifier, name⟩

/-- Reads what a property is asked for by, unless it is no name at all. -/
def read? (t : Text) : Option PropertyName :=
  let negated := t.head? = some (CodePoint.ofChar '^')
  let t := if negated then t.tail else t
  match t.dropWhile isPart with
  | [] => some ⟨negated, none, t⟩
  | c :: value =>
      if c = CodePoint.ofChar ':' || c = CodePoint.ofChar '=' then
        readQualified negated (t.takeWhile isPart) value
      else none

end PropertyName

/-! ### Conditions -/

/-- A value of a property that a code point has to have, or must not have. -/
structure Condition where
  property : Text
  value : Text
  contains : CodePoint → Bool
  positive : Bool := true

namespace Condition

def holds (condition : Condition) (c : CodePoint) : Bool :=
  condition.contains c == condition.positive

/-- Whether one of two conditions asks for what the other rules out. -/
def opposes (a b : Condition) : Bool :=
  a.property = b.property && a.value = b.value && a.positive != b.positive

/-- The condition turned around, if so wanted. -/
def negateIf (negated : Bool) (condition : Condition) : Condition :=
  { condition with positive := condition.positive != negated }

/-- The condition that a property takes a value. -/
def takes (property : Property) (value : PropertyValue) : Condition where
  property := property.names.headD []
  value := value.names.headD []
  contains := value.contains

/-- The condition that a property takes the value of a name. -/
def ofValue? (property : Property) (name : Text) : Option Condition :=
  (property.value? name).map (takes property)

/-- The condition that a yes-or-no property holds. -/
def ofYes? (property : Property) : Option Condition :=
  ofValue? property "YES"

/-- The condition that a property holds, or takes another value than the default one. -/
def ofProperty (property : Property) : Condition :=
  (if property.isYesNo then ofYes? property else none).getD
    ((takes property property.fallback).negateIf true)

/-- The rest of a name after two code points, when it starts with them. -/
def withoutPrefix (mark : String) (name : Text) : Option Text :=
  if Text.ofString mark = name.take 2 then some (name.drop 2) else none

/-- The condition of a name that stands alone. -/
def ofName? (name : Text) : Option Condition :=
  (ofValue? generalCategory name)
    |>.or (ofValue? script name)
    |>.or (ofValue? block name)
    |>.or ((property? name).map ofProperty)
    |>.or (((withoutPrefix "IS" name).bind property?).bind ofYes?)
    |>.or ((withoutPrefix "IS" name).bind (ofValue? script))
    |>.or ((withoutPrefix "IN" name).bind (ofValue? block))

/-- The condition of a value of a named property. That a category is assigned is asked for as
the opposite of its being unassigned. -/
def ofQualified (qualifier name : Text) : Except LookupFault Condition :=
  match property? qualifier with
  | none => throw .unknownProperty
  | some property =>
      let isAssigned := qualifier = "GENERALCATEGORY" && name = "ASSIGNED"
      match ofValue? property (if isAssigned then "UNASSIGNED" else name) with
      | none => throw .unknownValue
      | some condition => return condition.negateIf isAssigned

/-- The condition that is asked for. -/
def find (asked : PropertyName) : Except LookupFault Condition := do
  let condition ← match asked.qualifier with
    | none =>
        match ofName? (← standardName asked.name) with
        | some condition => pure condition
        | none => throw .unknownProperty
    | some qualifier => do
        let qualifier ← standardName qualifier
        ofQualified qualifier (← standardName asked.name)
  return condition.negateIf asked.negated

end Condition

end RuleGrammar.Unicode
