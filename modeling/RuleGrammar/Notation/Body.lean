import RuleGrammar.Notation.Cursor

/-! The bodies of rules in notation. From the loosest to the tightest binding a body is an
ordered choice, a longest choice, a sequence, a quantified atom, an atom. Each level is a reader
that takes the reader of atoms as an argument, and atoms nest to a depth that the text bounds. -/

namespace RuleGrammar

/-- The class of what either of two classes lists; the first decides on negation. -/
def CharClass.union (a b : CharClass) : CharClass :=
  { a with
    ranges := a.ranges ++ b.ranges
    singles := a.singles ++ b.singles
    escapes := a.escapes ++ b.escapes
    props := a.props ++ b.props }

namespace Notation

open Reader

/-! ### Literals and classes -/

/-- The rest of a quoted literal, up to its closing mark. -/
def literalRest (mark : CodePoint) : Nat → Reader Text
  | 0 => fail .unterminatedString
  | round + 1 => do
      match ← peek with
      | none => fail .unterminatedString
      | some c =>
          bump 1
          if c = mark then return []
          else if c = CodePoint.ofChar '\\' then
            let c ← escape
            return c :: (← literalRest mark round)
          else
            return c :: (← literalRest mark round)

/-- An item of a class: a code point or a backslash class. -/
inductive ClassItem
  | point (c : CodePoint)
  | escape (e : ClassEscape)

def classItem : Reader ClassItem := do
  match ← peek with
  | none => fail .unterminatedClass
  | some c =>
      bump 1
      if c = CodePoint.ofChar '\\' then
        match (← peek).bind ClassEscape.ofLetter? with
        | some e =>
            bump 1
            return .escape e
        | none => return .point (← Reader.escape)
      else
        return .point c

/-- A range between two code points, the smaller one first. -/
def orderedRange (a b : CodePoint) : CodePoint × CodePoint :=
  if b.value < a.value then (b, a) else (a, b)

/-- The items of a bracketed class up to its closing bracket, added to those already read. -/
def classItems : Nat → CharClass → Reader CharClass
  | 0, _ => fail .unterminatedClass
  | round + 1, cls => do
      skipBlank
      match ← peek with
      | none => fail .unterminatedClass
      | some c =>
          if c = CodePoint.ofChar ']' then
            bump 1
            return cls
          else
            match ← classItem with
            | .escape e => classItems round { cls with escapes := cls.escapes ++ [e] }
            | .point a =>
                if ← tryEat ".." then
                  skipBlank
                  match ← classItem with
                  | .escape _ => fail .escapeEndsRange
                  | .point b =>
                      classItems round { cls with ranges := cls.ranges ++ [orderedRange a b] }
                else
                  classItems round { cls with singles := cls.singles ++ [a] }

/-- The code points of a property name. -/
def isPropertyPart (c : CodePoint) : Bool :=
  c.isAsciiLetter || c.isAsciiDigit || c = CodePoint.ofChar '_'

/-- A property name right at the cursor, which starts with no digit. -/
def propertyName : Reader Name := do
  match ← peek with
  | some c =>
      if isPropertyPart c && !c.isAsciiDigit then span isPropertyPart
      else fail .expectedProperty
  | none => fail .expectedProperty

/-- A bracketed class or a property. -/
def classTerm : Reader CharClass := do
  if ← tryEat "[" then classItems (← rounds) {}
  else if ← tryEat ":" then return { props := [← propertyName] }
  else fail .expectedClass

/-- Further terms of a class, each after a plus sign, joined to those already read. -/
def classTerms : Nat → CharClass → Reader CharClass
  | 0, cls => return cls
  | round + 1, cls => do
      if ← tryEat "+" then
        classTerms round (cls.union (← classTerm))
      else
        return cls

/-- A class expression up to its closing angle bracket. -/
def classExpr : Reader Expr := do
  let negated ← tryEat "-"
  let _ ← tryEat "+"
  let first ← classTerm
  let cls ← classTerms (← rounds) first
  eat ">"
  return .charClass { cls with negated }

/-! ### Levels of binding -/

/-- The bounds after a double star. -/
def count : Reader (Nat × Option Nat) := do
  skipBlank
  let least ← numeral .expectedCount
  if ← starts ".." then
    bump 2
    if ← starts "*" then
      bump 1
      return (least, none)
    else
      let most ← numeral .expectedUpperBound
      if most < least then fail (.emptyCount least most)
      else return (least, some most)
  else
    return (least, some least)

/-- The bounds of a quantifier, if one comes next. -/
def quantifier : Reader (Option (Nat × Option Nat)) := do
  if ← tryEat "**" then return some (← count)
  else if ← tryEat "?" then return some (0, some 1)
  else if ← tryEat "*" then return some (0, none)
  else if ← tryEat "+" then return some (1, none)
  else return none

/-- An atom with its quantifier and separator. -/
def quantified (atom : Reader Expr) : Reader Expr := do
  let body ← atom
  match ← quantifier with
  | none => return body
  | some (least, most) =>
      if ← tryEat "%%" then return .repetition body least most (some (← atom)) true
      else if ← tryEat "%" then return .repetition body least most (some (← atom)) false
      else return .repetition body least most none false

/-- The code points before which a sequence ends. -/
def endsSequence (c : CodePoint) : Bool :=
  c = CodePoint.ofChar '|' || c = CodePoint.ofChar ']' || c = CodePoint.ofChar ')'
    || c = CodePoint.ofChar '}' || c = CodePoint.ofChar '>'

/-- The items of a sequence, the last one first. A tilde makes the item before it the opener of
a goal. -/
def sequenceItems (atom : Reader Expr) : Nat → List Expr → Reader (List Expr)
  | 0, items => return items
  | round + 1, items => do
      skipBlank
      match ← peek with
      | none => return items
      | some c =>
          if endsSequence c then return items
          else if c = CodePoint.ofChar '~' then
            bump 1
            match items with
            | [] => fail .goalWithoutOpener
            | opener :: earlier =>
                let closer ← quantified atom
                let body ← quantified atom
                sequenceItems atom round (.goal opener closer body :: earlier)
          else
            let item ← quantified atom
            sequenceItems atom round (item :: items)

/-- A single item stands for itself, any other number of items for a sequence. -/
def sequenceOf : List Expr → Expr
  | [item] => item
  | items => .sequence items

def sequence (atom : Reader Expr) : Reader Expr := do
  let items ← sequenceItems atom (← rounds) []
  return sequenceOf items.reverse

/-- Further alternatives, each after a mark. -/
def furtherAlternatives (mark : Reader Bool) (alternative : Reader Expr)
    : Nat → Reader (List Expr)
  | 0 => return []
  | round + 1 => do
      if ← mark then
        let next ← alternative
        return next :: (← furtherAlternatives mark alternative round)
      else
        return []

/-- Alternatives with marks between them. The first one may have a mark before it too. -/
def alternatives (mark : Reader Bool) (alternative : Reader Expr) : Reader (List Expr) := do
  let _ ← mark
  let first ← alternative
  return first :: (← furtherAlternatives mark alternative (← rounds))

/-- A single alternative stands for itself. -/
def longestOf : List Expr → Expr
  | [alternative] => alternative
  | alternatives => .longest alternatives

def longest (atom : Reader Expr) : Reader Expr := do
  return longestOf (← alternatives (tryEat "||") (sequence atom))

/-- Reads a single bar, if one comes next. -/
def tryBar : Reader Bool := do
  skipBlank
  if (← starts "|") && !(← starts "||") then
    bump 1
    return true
  else
    return false

/-- A single alternative stands for itself. -/
def choiceOf : List Expr → Expr
  | [alternative] => alternative
  | alternatives => .choice alternatives

def choice (atom : Reader Expr) : Reader Expr := do
  return choiceOf (← alternatives tryBar (longest atom))

/-! ### Atoms -/

/-- What a capital or small letter after a backslash stands for in a body. -/
def bodyClass? (c : CodePoint) : Option CharClass :=
  if c = CodePoint.ofChar 'N' then some { negated := true, singles := "\n" }
  else
    match ClassEscape.ofLetter? c with
    | some e => some { escapes := [e] }
    | none =>
        if c.isAsciiUpper then
          (ClassEscape.ofLetter? c.asciiLower).map fun e => { negated := true, escapes := [e] }
        else none

/-- An atom that a backslash starts. -/
def backslashAtom : Reader Expr := do
  match (← peek).bind bodyClass? with
  | some cls =>
      bump 1
      return .charClass cls
  | none => return .literal [← escape]

/-- A lookahead at an expression, up to the closing angle bracket. -/
def lookaheadRest (atom : Reader Expr) (negated : Bool) : Reader Expr := do
  let body ← choice atom
  eat ">"
  return .lookahead body negated

/-- A lookahead after its sign: at an expression, or at a rule. -/
def signedLookahead (atom : Reader Expr) (negated : Bool) : Reader Expr := do
  if ← keyword "before" then lookaheadRest atom negated
  else
    let name ← identifier
    eat ">"
    return .lookahead (.reference name none) negated

/-- What a name begins inside angle brackets. -/
def namedAssertion (atom : Reader Expr) : Reader Expr := do
  let name ← identifier
  if name = Text.ofString "before" then lookaheadRest atom false
  else if name = Text.ofString "sym" then
    if ← tryEat ">" then return .sym else aliased name
  else aliased name
where
  /-- A call of the rule of that name, or of another one captured under it. -/
  aliased (name : Name) : Reader Expr := do
    if ← tryEat "=" then
      let _ ← tryEat "."
      let target ← identifier
      eat ">"
      return .reference target (some name)
    else
      eat ">"
      return .reference name (some name)

/-- What follows an opening angle bracket. -/
def assertion (atom : Reader Expr) : Reader Expr := do
  skipBlank
  let c ← peek
  if c = some '[' || c = some '-' || c = some '+' || c = some ':' then classExpr
  else if c = some '!' || c = some '?' then
    bump 1
    signedLookahead atom (c = some '!')
  else if ← tryEat "." then
    let name ← identifier
    eat ">"
    return .reference name none
  else namedAssertion atom

/-- What follows a dollar sign and an opening angle bracket: a name, and an atom captured under
it. A call takes the name itself. -/
def namedCapture (atom : Reader Expr) : Reader Expr := do
  let name ← identifier
  eat ">"
  eat "="
  match ← atom with
  | .reference target _ => return .reference target (some name)
  | body => return .capture body (some name)

/-- A bare word, or the complaint about anything else. -/
def wordAtom (c : CodePoint) : Reader Expr := do
  let word ← span CodePoint.isWord
  if word.isEmpty then fail (.punctuation c)
  else return .literal word

/-- An atom whose nested atoms are read by the given reader. -/
def atomOver (atom : Reader Expr) : Reader Expr := do
  skipBlank
  match ← peek with
  | none => fail .endOfGrammar
  | some c =>
      if c = '\'' || c = '"' then
        bump 1
        return .literal (← literalRest c (← rounds))
      else if c = '[' then
        bump 1
        let body ← choice atom
        eat "]"
        return body
      else if c = '(' then
        bump 1
        let body ← choice atom
        eat ")"
        return .capture body none
      else if ← starts "$<" then
        bump 2
        namedCapture atom
      else if c = '$' then
        bump 1
        return .anchor .inputEnd
      else if c = '^' then
        bump 1
        return .anchor .inputStart
      else if c = '.' then
        bump 1
        return .anyChar
      else if c = '\\' then
        bump 1
        backslashAtom
      else if c = '<' then
        bump 1
        assertion atom
      else wordAtom c

/-- Atoms nested to a depth. Each level reads at least one code point, so a depth above the
length of the text is never used up. -/
def atomTo : Nat → Reader Expr
  | 0 => fail .endOfGrammar
  | depth + 1 => atomOver (atomTo depth)

/-- The body of a rule. -/
def body : Reader Expr := do
  choice (atomTo (← rounds))

end Notation

end RuleGrammar
