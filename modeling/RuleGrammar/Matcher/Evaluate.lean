import RuleGrammar.Matcher.State

/-! Evaluation of expressions. An expression evaluated at an offset fails, or reaches an offset
and has captured some entries on the way; captures of a branch that fails are never part of the
answer. Rule calls go through a function that the caller supplies. -/

namespace RuleGrammar

/-- Where an evaluation stopped and what it captured, in order. -/
structure Reached where
  stop : Int
  caught : List Caught := []

/-- What the body of a rule is evaluated with: the subject, the rule, the scope, and how to call
a rule by name in a scope. -/
structure Site where
  subject : Subject
  rule : Rule
  scope : Scope
  call : Scope → Name → Int → MatchM (Option Match)

namespace Site

/-- The site inside a lookahead or implicit white space. -/
def quiet (site : Site) : Site :=
  { site with scope := { site.scope with quiet := true } }

/-- Fails where a text was expected. -/
def miss (site : Site) (pos : Int) (what : Text) : MatchM (Option Reached) := do
  MatchM.expect site.scope pos what
  return none

/-- The offset after implicit white space, which only rules of kind `rule` try. -/
def skipSpace (site : Site) (pos : Int) : MatchM Int :=
  if site.rule.sigspace then do
    match ← site.call site.quiet.scope "ws" pos with
    | none => return pos
    | some m => return m.stop
  else return pos

/-- The offset at which an item of a sequence starts: white space comes before all but the
first. -/
def itemStart (site : Site) (first : Bool) (pos : Int) : MatchM Int :=
  if first then return pos else site.skipSpace pos

/-- A node that no rule made. -/
def anonymous (start stop : Int) (log : List Caught) : MatchM Match := do
  return .ofLog { id := ← MatchM.freshId, start, stop } log

end Site

/-! ### Repetition -/

/-- How far a repetition has come: the end of its last round, the number of rounds, and what
they captured, the last round first. -/
structure Progress where
  stop : Int
  rounds : Nat := 0
  caught : List (List Caught) := []

namespace Progress

/-- The captures of all rounds in order. -/
def log (p : Progress) : List Caught :=
  p.caught.reverse.flatten

/-- The progress after one more round. -/
def round (p : Progress) (stop : Int) (caught : List Caught) : Progress :=
  ⟨stop, p.rounds + 1, caught :: p.caught⟩

end Progress

/-- Whether a count may still grow under an upper bound. -/
def belowMax (max : Option Nat) (count : Nat) : Bool :=
  match max with
  | none => true
  | some bound => count < bound

/-- The captures of one round as the repetition leaves them: listed, if it may go round more
than once. -/
def roundLog (max : Option Nat) (log : List Caught) : List Caught :=
  if Expr.repeats max then log.map Caught.listed else log

/-- Whether the rounds end with one that went from an offset to an offset: it consumed nothing,
and no more rounds are asked for. -/
def isLastRound (min rounds : Nat) (start stop : Int) : Bool :=
  stop = start && min ≤ rounds

/-- What stands before a round: nothing before the first one. -/
def gapBefore (between : Int → MatchM (Option Reached)) (p : Progress)
    : MatchM (Option Reached) :=
  if p.rounds = 0 then return some ⟨p.stop, []⟩ else between p.stop

/-- Goes round as often as the bounds allow. Each round but the first starts with what stands
between rounds; one that fails is given back whole. A round that consumes nothing is the last
one, unless the minimum asks for more. The last argument but one bounds the rounds: each either
moves forward or counts toward the minimum. To use the bound up is a fault of the rule. -/
def repeatRounds (rule : Name) (body between : Int → MatchM (Option Reached)) (min : Nat)
    (max : Option Nat) : Nat → Progress → MatchM Progress
  | 0, p => throw (.outOfRoom rule p.stop)
  | bound + 1, p => do
      if belowMax max p.rounds then
        match ← gapBefore between p with
        | none => return p
        | some gap =>
            match ← body gap.stop with
            | none => return p
            | some r =>
                let next := p.round r.stop (roundLog max (gap.caught ++ r.caught))
                if isLastRound min next.rounds p.stop r.stop then return next
                else repeatRounds rule body between min max bound next
      else return p

/-- What stands between two rounds: white space, and the separator with white space after it. -/
def betweenRounds (site : Site) (sep : Option (Int → MatchM (Option Reached))) (pos : Int)
    : MatchM (Option Reached) := do
  let start ← site.skipSpace pos
  match sep with
  | none => return some ⟨start, []⟩
  | some separator =>
      match ← separator start with
      | none => return none
      | some s => return some ⟨← site.skipSpace s.stop, s.caught⟩

/-- One more separator after the rounds, if there was a round. -/
def trailingSeparator (site : Site) (sep : Option (Int → MatchM (Option Reached)))
    (trailing : Bool) (p : Progress) : MatchM Reached :=
  match sep with
  | some separator =>
      if trailing && p.rounds ≠ 0 then do
        match ← separator (← site.skipSpace p.stop) with
        | none => return ⟨p.stop, []⟩
        | some s => return s
      else return ⟨p.stop, []⟩
  | none => return ⟨p.stop, []⟩

/-- A repetition: its rounds, a trailing separator, and marks for all names that it captures, so
that they stand for lists even when nothing was captured. -/
def evalRepetition (site : Site) (body : Int → MatchM (Option Reached))
    (sep : Option (Int → MatchM (Option Reached))) (min : Nat) (max : Option Nat)
    (trailing : Bool) (names : List Name) (pos : Int) : MatchM (Option Reached) := do
  let bound := (site.subject.size - pos).toNat + min + 1
  let p ← repeatRounds site.rule.name body (betweenRounds site sep) min max bound ⟨pos, 0, []⟩
  let last ← trailingSeparator site sep trailing p
  if p.rounds < min then return none
  else
    let marks := if Expr.repeats max then names.map Caught.mark else []
    return some ⟨last.stop, p.log ++ last.caught ++ marks⟩

/-! ### All expressions -/

/-- The better of two answers: the one that goes further, and of two equal ones the first. -/
def furtherReached (best : Option Reached) (next : Option Reached) : Option Reached :=
  match best, next with
  | some b, some n => if b.stop < n.stop then some n else some b
  | some b, none => some b
  | none, next => next

/-- A goal: opener, body, closer. The closer keeps its named captures only, and when it is
missing it counts as the goal that was missed. -/
def evalGoal (site : Site) (opener closer body : Int → MatchM (Option Reached))
    (closerName : Text) (pos : Int) : MatchM (Option Reached) := do
  match ← opener pos with
  | none => return none
  | some o =>
      match ← body (← site.skipSpace o.stop) with
      | none => return none
      | some b =>
          let closing ← site.skipSpace b.stop
          match ← closer closing with
          | none => do
              MatchM.expectGoal site.scope closing closerName
              return none
          | some c =>
              return some ⟨c.stop,
                o.caught ++ b.caught ++ c.caught.filter fun entry => entry.name.isSome⟩

mutual

/-- Evaluates an expression at an offset. -/
@[simp] def eval (site : Site) : Expr → Int → MatchM (Option Reached)
  | .literal text, pos =>
      if site.subject.holds text pos then return some ⟨pos + text.length, []⟩
      else site.miss pos text.quoted
  | .charClass cls, pos =>
      if pos < site.subject.size then
        match cls.compile with
        | .error fault => throw (.charClass fault)
        | .ok holds =>
            match site.subject.at? pos with
            | some c =>
                if holds c then return some ⟨pos + 1, []⟩
                else site.miss pos cls.pattern
            | none => site.miss pos cls.pattern
      else site.miss pos cls.pattern
  | .anyChar, pos =>
      if pos < site.subject.size then return some ⟨pos + 1, []⟩
      else site.miss pos "any character"
  | .anchor a, pos =>
      match a with
      | .inputStart => if pos = 0 then return some ⟨pos, []⟩ else site.miss pos a.describe
      | .inputEnd =>
          if pos = site.subject.size then return some ⟨pos, []⟩ else site.miss pos a.describe
      | .other _ => site.miss pos a.describe
  | .reference rule capture, pos => do
      match ← site.call site.scope rule pos with
      | none => site.miss pos ("<" ++ rule ++ ">")
      | some m =>
          return some ⟨m.stop,
            (Expr.capturing capture).map fun name => .node (some name) m false⟩
  | .sym, pos => do
      match site.rule.tag with
      | none => throw (.grammar (.symOutsideAlternative site.rule.name))
      | some tag =>
          if site.subject.holds tag pos then
            let stop := pos + tag.length
            return some ⟨stop, [.node (some "sym") (← Site.anonymous pos stop []) false]⟩
          else site.miss pos tag.quoted
  | .lookahead body negated, pos => do
      let found ← eval site.quiet body pos
      if found.isSome != negated then return some ⟨pos, []⟩
      else site.miss pos ((if negated then "not " else "") ++ body.describe)
  | .repetition body min max sep trailing, pos =>
      evalRepetition site (eval site body) (evalOption site sep) min max trailing
        (Expr.repetition body min max sep trailing).captureNames pos
  | .sequence items, pos => evalItems site true items pos
  | .choice alternatives, pos => evalChoice site alternatives pos
  | .longest alternatives, pos => evalLongest site alternatives none pos
  | .goal opener closer body, pos =>
      evalGoal site (eval site opener) (eval site closer) (eval site body)
        closer.describe pos
  | .capture body name, pos => do
      match ← eval site body pos with
      | none => return none
      | some r =>
          return some ⟨r.stop, [.node name (← Site.anonymous pos r.stop r.caught) false]⟩

/-- An expression that may be left out, as a function of the offset. -/
@[simp] def evalOption (site : Site) : Option Expr → Option (Int → MatchM (Option Reached))
  | none => none
  | some e => some (eval site e)

/-- The items of a sequence from an offset on, with white space before all but the first. -/
@[simp] def evalItems (site : Site) (first : Bool) : List Expr → Int → MatchM (Option Reached)
  | [], pos => return some ⟨pos, []⟩
  | e :: rest, pos => do
      match ← eval site e (← site.itemStart first pos) with
      | none => return none
      | some r =>
          match ← evalItems site false rest r.stop with
          | none => return none
          | some later => return some ⟨later.stop, r.caught ++ later.caught⟩

/-- The first alternative that does not fail. -/
@[simp] def evalChoice (site : Site) : List Expr → Int → MatchM (Option Reached)
  | [], _ => return none
  | e :: rest, pos => do
      match ← eval site e pos with
      | some r => return some r
      | none => evalChoice site rest pos

/-- The alternative that goes furthest, given the best one before these. -/
@[simp] def evalLongest (site : Site)
    : List Expr → Option Reached → Int → MatchM (Option Reached)
  | [], best, _ => return best
  | e :: rest, best, pos => do
      evalLongest site rest (furtherReached best (← eval site e pos)) pos

end

end RuleGrammar
