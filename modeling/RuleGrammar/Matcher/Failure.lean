import RuleGrammar.Matcher.Furthest
import RuleGrammar.Text.Place

/-! Failures of a match as they are reported: where, in which rule, and what was expected. -/

namespace RuleGrammar

/-- A text that does not match. -/
structure Failure where
  position : Int
  rule : Name
  expected : List Text := []
  goal : Option Text := none
deriving DecidableEq

namespace Failure

/-- The failure that a record amounts to, for a match of a rule from an offset. If nothing was
recorded, the rule itself is what was expected there. -/
def ofFurthest (start : Name) (pos : Int) (f : Furthest) : Failure :=
  if f.position < 0 then
    { position := pos, rule := start, expected := ["<" ++ start ++ ">"] }
  else
    { position := f.position
      rule := match f.rule with
        | some rule => if rule.isEmpty then start else rule
        | none => start
      expected := f.expected
      goal := f.goal }

/-- What was missing. -/
def what (f : Failure) : Text :=
  match f.goal with
  | some goal => "couldn't find final " ++ goal
  | none =>
      if f.expected.isEmpty then "no match"
      else "expected " ++ Text.joinWith " or " f.expected

/-- The report of a failure in one line. -/
def message (subject : Subject) (f : Failure) : Text :=
  let place := subject.place f.position
  "Parse failed at " ++ Text.ofNat place.line ++ ":" ++ Text.ofInt place.column
    ++ (if f.rule.isEmpty then ([] : Text) else " in <" ++ f.rule ++ ">")
    ++ ": " ++ f.what

/-- The report with the line of the subject and a caret under the place. -/
def report (subject : Subject) (f : Failure) : Text :=
  f.message subject ++ "\n" ++ subject.caretSnippet f.position

end Failure

end RuleGrammar
