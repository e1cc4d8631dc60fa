import RuleGrammar.Expr

/-! The record of the furthest failures of a match: what was expected at the greatest position
that was tried in vain. A missing closer outranks other failures at its position. -/

namespace RuleGrammar

/-- The furthest failures so far. Before the first one the position is −1. -/
structure Furthest where
  position : Int := -1
  rule : Option Name := none
  expected : List Text := []
  goal : Option Text := none
deriving DecidableEq

namespace Furthest

/-- The record after a failure inside a rule: a greater position starts anew, and at an equal
one a text is added once, unless a goal is recorded there. -/
def record (f : Furthest) (rule : Option Name) (pos : Int) (what : Text) : Furthest :=
  if f.position < pos then { position := pos, rule, expected := [what] }
  else if pos = f.position && f.goal.isNone && !f.expected.contains what then
    { f with expected := f.expected ++ [what] }
  else f

/-- The record after a goal was missed inside a rule: it replaces what is recorded at an equal
or lesser position. -/
def recordGoal (f : Furthest) (rule : Option Name) (pos : Int) (what : Text) : Furthest :=
  if f.position ≤ pos then
    { position := pos, rule, expected := [what], goal := some what }
  else f

end Furthest

end RuleGrammar
