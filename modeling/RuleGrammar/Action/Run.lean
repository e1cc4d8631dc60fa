import RuleGrammar.Action.Dispatch
import RuleGrammar.Matcher.Parse

/-! Matching a text and running actions on the match. -/

namespace RuleGrammar

/-- What stops a match with actions. -/
inductive RunFault
  | matching (fault : Fault)
  | acting (fault : ActionFault)

/-- The end of a match with actions: an outcome or a fault, and what the matcher and the actions
left behind. -/
structure ActedRun where
  outcome : Except RunFault Outcome
  matcher : MatcherState
  acting : ActionState := {}

/-- Runs a match and then, on success, the actions of a table. -/
def runWithActions (env : MatchEnv) (start : Name) (pos : Int) (anchored : Bool)
    (table : Option ActionTable) : ActedRun :=
  let ended := run env start pos anchored
  match ended.outcome, table with
  | .error fault, _ => { outcome := .error (.matching fault), matcher := ended.state }
  | .ok (.matched root), some table =>
      match applyActions env.subject table root {} with
      | .ok () acting =>
          { outcome := .ok (.matched root), matcher := ended.state, acting }
      | .error fault acting =>
          { outcome := .error (.acting fault), matcher := ended.state, acting }
  | .ok outcome, _ => { outcome := .ok outcome, matcher := ended.state }

end RuleGrammar
