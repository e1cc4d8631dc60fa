import RuleGrammar.Unicode.Lookup

/-! Character classes: sets of code points given by ranges, single code points, backslash
classes and properties, possibly negated. A class has a pattern, the text that shows it in
reports, and can be faulty, when a range runs backwards or a property does not exist. -/

namespace RuleGrammar

/-- The classes that a backslash and a letter stand for inside a class. -/
inductive ClassEscape
  | digit
  | word
  | space
  | horizontal
deriving DecidableEq

namespace ClassEscape

def ofLetter? (c : CodePoint) : Option ClassEscape :=
  if c = 'd' then some .digit
  else if c = 'w' then some .word
  else if c = 's' then some .space
  else if c = 'h' then some .horizontal
  else none

def letter : ClassEscape → CodePoint
  | digit => 'd'
  | word => 'w'
  | space => 's'
  | horizontal => 'h'

/-- Horizontal space has no letter in patterns and is spelled out. -/
def pattern : ClassEscape → Text
  | horizontal => "\\t\\p\x7bZs\x7d"
  | escape => [CodePoint.ofChar '\\', escape.letter]

end ClassEscape

/-- A set of code points. Ranges include both ends. -/
structure CharClass where
  negated : Bool := false
  ranges : List (CodePoint × CodePoint) := []
  singles : Text := []
  escapes : List ClassEscape := []
  props : List Text := []
deriving DecidableEq

namespace CharClass

/-- The code points that have a meaning of their own in patterns. -/
def isPatternMark (c : CodePoint) : Bool :=
  c = '\\' || c = ']' || c = '^' || c = '-' || c = '['

/-- One code point in a pattern. -/
def patternPoint (c : CodePoint) : Text :=
  if isPatternMark c then [CodePoint.ofChar '\\', c]
  else if c.value < 0x20 || c.value = 0x7F then
    "\\x" ++ Text.padZeros 2 (Text.ofNatBase 16 c.value)
  else [c]

/-- A range in a pattern. -/
def patternRange (range : CodePoint × CodePoint) : Text :=
  patternPoint range.1 ++ "-" ++ patternPoint range.2

/-- A property in a pattern. -/
def patternProp (name : Text) : Text :=
  "\\p\x7b" ++ name ++ "\x7d"

/-- The items of a pattern in their order: ranges, singles, backslash classes, properties. -/
def patternItems (cls : CharClass) : List Text :=
  cls.ranges.map patternRange ++ cls.singles.map patternPoint
    ++ cls.escapes.map ClassEscape.pattern ++ cls.props.map patternProp

/-- Whether the class lists nothing at all. -/
def isEmpty (cls : CharClass) : Bool :=
  cls.ranges.isEmpty && cls.singles.isEmpty && cls.escapes.isEmpty && cls.props.isEmpty

/-- The text of a class. One without items is written with white space and its complement. -/
def pattern (cls : CharClass) : Text :=
  if cls.isEmpty then (if cls.negated then "[\\s\\S]" else "[^\\s\\S]")
  else "[" ++ (if cls.negated then "^" else "") ++ cls.patternItems.flatten ++ "]"

/-! ### Members -/

/-- A part of a class that code points are compared with. -/
inductive Member
  | point (c : CodePoint)
  | range (lo hi : CodePoint)
  | condition (asked : Unicode.Condition)

namespace Member

def contains : Member → CodePoint → Bool
  | point a, c => a = c
  | range lo hi, c => decide (lo.value ≤ c.value) && decide (c.value ≤ hi.value)
  | condition asked, c => asked.holds c

def condition? : Member → Option Unicode.Condition
  | condition asked => some asked
  | _ => none

end Member

/-- The condition that a backslash class stands for. -/
def escapeCondition : ClassEscape → Unicode.Condition
  | .digit => { property := "GC", value := "ND", contains := CodePoint.isDecimalDigit }
  | .word => { property := "WORD", value := "Y", contains := CodePoint.isWord }
  | .space => { property := "WSPACE", value := "Y", contains := CodePoint.isWhiteSpace }
  | .horizontal => { property := "GC", value := "ZS", contains := fun c => c.category = .zs }

/-- The members that a backslash class stands for. -/
def escapeMembers (escape : ClassEscape) : List Member :=
  let condition := Member.condition (escapeCondition escape)
  match escape with
  | .horizontal => [.point '\t', condition]
  | _ => [condition]

/-- Why a class cannot be used. The offset counts the code points of the pattern up to the end
of the faulty item's part that shows the fault. -/
inductive Fault
  | backwardRange (offset : Nat)
  | unknownProperty (offset : Nat)
  | unknownValue (offset : Nat)
  | infinite
deriving DecidableEq

namespace Fault

def message : Fault → Text
  | backwardRange offset => "bad character range at position " ++ Text.ofNat offset
  | unknownProperty offset => "unknown property at position " ++ Text.ofNat offset
  | unknownValue offset => "unknown property value at position " ++ Text.ofNat offset
  | infinite => "infinite number"

/-- The fault of a property whose place in the pattern ends at an offset. -/
def ofLookup (offset : Nat) : Unicode.LookupFault → Fault
  | .unknownProperty => unknownProperty offset
  | .unknownValue => unknownValue offset
  | .infinite => infinite

end Fault

/-- A range that must not run backwards. -/
def rangeMember (stop : Nat) (lo hi : CodePoint) : Except Fault Member :=
  if hi.value < lo.value then throw (.backwardRange stop) else return .range lo hi

/-- The members of the ranges, whose pattern starts at `offset`. -/
def rangeMembers (offset : Nat) : List (CodePoint × CodePoint) → Except Fault (List Member)
  | [] => return []
  | range :: rest => do
      let stop := offset + (patternRange range).length
      let member ← rangeMember stop range.1 range.2
      return member :: (← rangeMembers stop rest)

/-- The members of a text in a pattern: its code points, or a range where a hyphen stands
between two of them. -/
def plainMembers (offset : Nat) : Text → Except Fault (List Member)
  | [] => return []
  | lo :: mark :: hi :: rest =>
      if mark = '-' then do
        let member ← rangeMember (offset + 3) lo hi
        return member :: (← plainMembers (offset + 3) rest)
      else do
        return .point lo :: (← plainMembers (offset + 1) (mark :: hi :: rest))
  | c :: rest => do
      return .point c :: (← plainMembers (offset + 1) rest)

/-- The members that a property gives, whose pattern starts at `offset`. The name ends at the
first closing brace. If it is none, the pattern is taken as it is written, without its
backslash. -/
def propMembers (offset : Nat) (prop : Text) : Except Fault (List Member) := do
  let closing := CodePoint.ofChar '\x7d'
  let spelled := prop.takeWhile (· ≠ closing)
  match Unicode.PropertyName.read? spelled with
  | some asked =>
      let stop := offset + (patternProp spelled).length
      let more := prop.drop (spelled.length + 1)
      match Unicode.Condition.find asked with
      | .error fault => throw (.ofLookup stop fault)
      | .ok condition =>
          if spelled = prop then return [.condition condition]
          else return .condition condition :: (← plainMembers stop (more ++ [closing]))
  | none => plainMembers (offset + 1) (patternProp prop).tail

/-- The members of properties one after the other. -/
def propsMembers (offset : Nat) : List Text → Except Fault (List Member)
  | [] => return []
  | prop :: rest => do
      let members ← propMembers offset prop
      return members ++ (← propsMembers (offset + (patternProp prop).length) rest)

/-- The members of a class, or its first fault as its pattern is read from the left. -/
def members (cls : CharClass) : Except Fault (List Member) := do
  let opening := if cls.negated then 2 else 1
  let ranges ← rangeMembers opening cls.ranges
  let props ← propsMembers (opening
    + (cls.ranges.map patternRange ++ cls.singles.map patternPoint
      ++ cls.escapes.map ClassEscape.pattern).flatten.length) cls.props
  return ranges ++ cls.singles.map Member.point ++ cls.escapes.flatMap escapeMembers ++ props

/-- Whether members ask for a property and rule it out. -/
def areOpposed (members : List Member) : Bool :=
  let conditions := members.filterMap Member.condition?
  conditions.any fun a => conditions.any a.opposes

/-- The code points of a class, unless it is faulty. A class that asks for a property and rules
it out is taken for everything even under negation, and so is a class without items, whose
pattern does just that. -/
def compile (cls : CharClass) : Except Fault (CodePoint → Bool) := do
  let members ← cls.members
  if cls.isEmpty || areOpposed members then return fun _ => true
  else return fun c => members.any (·.contains c) != cls.negated

/-- Whether the class holds a code point. A faulty class holds none. -/
def contains (cls : CharClass) (c : CodePoint) : Bool :=
  match cls.compile with
  | .ok holds => holds c
  | .error _ => false

/-- The fault of a class that has one. -/
def fault? (cls : CharClass) : Option Fault :=
  match cls.compile with
  | .ok _ => none
  | .error fault => some fault

end CharClass

end RuleGrammar
