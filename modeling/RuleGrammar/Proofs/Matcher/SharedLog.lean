import RuleGrammar.Matcher.Evaluate

/-! Evaluation with one log for all captures. Where evaluation hands back what it captured, here it
is written behind whatever the log holds. A branch that is given up is cut off again, down to a
mark that was taken where the branch began, and a round of a repetition re-marks what was written
since its own mark. Rules are called as in evaluation, for they capture into logs of their own.
-/

namespace RuleGrammar

-----------------------------------------------------------------------------------------
-- Logs that are written in place
-----------------------------------------------------------------------------------------

/-- What a matcher with a shared log keeps. -/
structure LoggedState where
  state : MatcherState
  log : List Caught

/-- A step of matching with a shared log. -/
abbrev LoggedM := EStateM Fault LoggedState

namespace LoggedM

variable {α : Type}

/-- A step of the matcher, which writes nothing in the log. -/
def step (inner : MatchM α) : LoggedM α := fun s =>
  match inner s.state with
  | .ok a state => .ok a { s with state }
  | .error fault state => .error fault { s with state }

/-- How long the log is. -/
def mark : LoggedM Nat := do
  return (← get).log.length

def write (entries : List Caught) : LoggedM Unit :=
  modify fun s => { s with log := s.log ++ entries }

/-- Takes back what was written since a mark. -/
def cutTo (mark : Nat) : LoggedM Unit :=
  modify fun s => { s with log := s.log.take mark }

/-- Makes what was written since a mark, in a round of a repetition, stand in lists if there may be
more rounds than one.
-/
def listRound (max : Option Nat) (mark : Nat) : LoggedM Unit :=
  modify fun s => { s with log := s.log.take mark ++ roundLog max (s.log.drop mark) }

/-- A computation with a log of its own, which it hands over. -/
def apart (inner : LoggedM α) : LoggedM (α × List Caught) := fun s =>
  match inner { s with log := [] } with
  | .ok a t => .ok (a, t.log) { t with log := s.log }
  | .error fault t => .error fault { t with log := s.log }

end LoggedM

-----------------------------------------------------------------------------------------
-- Evaluation
-----------------------------------------------------------------------------------------

namespace Logged

open LoggedM (step mark write cutTo listRound apart)

/-- What stands before a round: nothing before the first one. -/
def gapBefore (between : Int → LoggedM (Option Int)) (stop : Int) (rounds : Nat)
    : LoggedM (Option Int) :=
  if rounds = 0 then return some stop else between stop

/-- Goes round as often as the bounds allow. What a round wrote is cut off if it fails, and listed
if the repetition may go round more than once.
-/
def repeatRounds (rule : Name) (body between : Int → LoggedM (Option Int)) (min : Nat)
    (max : Option Nat) : Nat → Int → Nat → LoggedM (Int × Nat)
  | 0, stop, _ => throw (.outOfRoom rule stop)
  | bound + 1, stop, rounds => do
      if belowMax max rounds then
        let start ← mark
        match ← gapBefore between stop rounds with
        | none => do
            cutTo start
            return (stop, rounds)
        | some gap =>
            match ← body gap with
            | none => do
                cutTo start
                return (stop, rounds)
            | some next => do
                listRound max start
                if isLastRound min (rounds + 1) stop next then return (next, rounds + 1)
                else repeatRounds rule body between min max bound next (rounds + 1)
      else return (stop, rounds)

/-- What stands between two rounds: white space, and the separator with white space after it. -/
def betweenRounds (site : Site) (sep : Option (Int → LoggedM (Option Int))) (pos : Int)
    : LoggedM (Option Int) := do
  let start ← step (site.skipSpace pos)
  match sep with
  | none => return some start
  | some separator =>
      match ← separator start with
      | none => return none
      | some stop => return some (← step (site.skipSpace stop))

/-- One more separator after the rounds, if there was a round. -/
def trailingSeparator (site : Site) (sep : Option (Int → LoggedM (Option Int))) (trailing : Bool)
    (stop : Int) (rounds : Nat) : LoggedM Int :=
  match sep with
  | some separator =>
      if trailing && rounds ≠ 0 then do
        let start ← mark
        match ← separator (← step (site.skipSpace stop)) with
        | none => do
            cutTo start
            return stop
        | some next => return next
      else return stop
  | none => return stop

/-- A repetition: its rounds, a trailing separator, and marks for all names that it captures. All of
it is cut off if there were too few rounds.
-/
def evalRepetition (site : Site) (body : Int → LoggedM (Option Int))
    (sep : Option (Int → LoggedM (Option Int))) (min : Nat) (max : Option Nat) (trailing : Bool)
    (names : List Name) (pos : Int) : LoggedM (Option Int) := do
  let start ← mark
  let bound := (site.subject.size - pos).toNat + min + 1
  let (stop, rounds) ←
    repeatRounds site.rule.name body (betweenRounds site sep) min max bound pos 0
  let last ← trailingSeparator site sep trailing stop rounds
  if rounds < min then do
    cutTo start
    return none
  else do
    write (if Expr.repeats max then names.map Caught.mark else [])
    return some last

/-- A goal: opener, body, closer. The closer has a log of its own, of which named entries are kept.
-/
def evalGoal (site : Site) (opener closer body : Int → LoggedM (Option Int)) (closerName : Text)
    (pos : Int) : LoggedM (Option Int) := do
  let start ← mark
  match ← opener pos with
  | none => do
      cutTo start
      return none
  | some opened =>
      match ← body (← step (site.skipSpace opened)) with
      | none => do
          cutTo start
          return none
      | some filled =>
          let closing ← step (site.skipSpace filled)
          let (closed, log) ← apart (closer closing)
          match closed with
          | none => do
              step (MatchM.expectGoal site.scope closing closerName)
              cutTo start
              return none
          | some stop => do
              write (log.filter fun entry => entry.name.isSome)
              return some stop

/-- An expression that captures nothing. -/
def evalPlain (site : Site) (e : Expr) (pos : Int) : LoggedM (Option Int) := do
  return (← step (RuleGrammar.eval site e pos)).map Reached.stop

mutual

/-- Evaluates an expression at an offset and writes what it captures in the log. -/
def eval (site : Site) : Expr → Int → LoggedM (Option Int)
  | .literal text, pos => evalPlain site (.literal text) pos
  | .charClass cls, pos => evalPlain site (.charClass cls) pos
  | .anyChar, pos => evalPlain site .anyChar pos
  | .anchor a, pos => evalPlain site (.anchor a) pos
  | .reference rule capture, pos => do
      match ← step (site.call site.scope rule pos) with
      | none => do
          step (MatchM.expect site.scope pos ("<" ++ rule ++ ">"))
          return none
      | some m => do
          write ((Expr.capturing capture).map fun name => .node (some name) m false)
          return some m.stop
  | .sym, pos => do
      match site.rule.tag with
      | none => throw (.grammar (.symOutsideAlternative site.rule.name))
      | some tag =>
          if site.subject.holds tag pos then do
            let stop := pos + tag.length
            write [.node (some "sym") (← step (Site.anonymous pos stop [])) false]
            return some stop
          else do
            step (MatchM.expect site.scope pos tag.quoted)
            return none
  | .lookahead body negated, pos => do
      let (found, _) ← apart (eval site.quiet body pos)
      if found.isSome != negated then return some pos
      else do
        step (MatchM.expect site.scope pos ((if negated then "not " else "") ++ body.describe))
        return none
  | .repetition body min max sep trailing, pos =>
      evalRepetition site (eval site body) (evalOption site sep) min max trailing
        (Expr.repetition body min max sep trailing).captureNames pos
  | .sequence items, pos => do evalItems site (← mark) true items pos
  | .choice alternatives, pos => do evalChoice site (← mark) alternatives pos
  | .longest alternatives, pos => do
      match ← evalLongest site alternatives none pos with
      | none => return none
      | some best => do
          write best.caught
          return some best.stop
  | .goal opener closer body, pos =>
      evalGoal site (eval site opener) (eval site closer) (eval site body) closer.describe pos
  | .capture body name, pos => do
      let (stop, log) ← apart (eval site body pos)
      match stop with
      | none => return none
      | some stop => do
          write [.node name (← step (Site.anonymous pos stop log)) false]
          return some stop

/-- An expression that may be left out, as a function of the offset. -/
def evalOption (site : Site) : Option Expr → Option (Int → LoggedM (Option Int))
  | none => none
  | some e => some (eval site e)

/-- The items of a sequence from an offset on. One that fails cuts off all before it. -/
def evalItems (site : Site) (start : Nat) (first : Bool)
    : List Expr → Int → LoggedM (Option Int)
  | [], pos => return some pos
  | e :: rest, pos => do
      match ← eval site e (← step (site.itemStart first pos)) with
      | none => do
          cutTo start
          return none
      | some stop => evalItems site start false rest stop

/-- The first alternative that does not fail. One that fails is cut off. -/
def evalChoice (site : Site) (start : Nat) : List Expr → Int → LoggedM (Option Int)
  | [], _ => return none
  | e :: rest, pos => do
      match ← eval site e pos with
      | some stop => return some stop
      | none => do
          cutTo start
          evalChoice site start rest pos

/-- The alternative that goes furthest, given the best one before these. Each has a log of its own.
-/
def evalLongest (site : Site) : List Expr → Option Reached → Int → LoggedM (Option Reached)
  | [], best, _ => return best
  | e :: rest, best, pos => do
      let (stop, log) ← apart (eval site e pos)
      evalLongest site rest (furtherReached best (stop.map fun stop => ⟨stop, log⟩)) pos

end

end Logged

end RuleGrammar
