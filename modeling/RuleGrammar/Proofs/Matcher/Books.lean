import RuleGrammar.Matcher.Apply

/-! The matcher with its books in the state. Where the matcher hands a scope down from call to call,
this one writes down what is in progress: the keys of the applications as a set, the applications as
a stack, and a count of the lookaheads and white spaces around. An entry is made on the way in and
taken back on the way out, also when a fault passes.
-/

namespace RuleGrammar

-----------------------------------------------------------------------------------------
-- Books
-----------------------------------------------------------------------------------------

/-- What is written down about the rules in progress: their keys, the applications themselves,
innermost first, and how many lookaheads and white spaces are around.
-/
structure Books where
  active : List Key := []
  stack : List Frame := []
  quiet : Nat := 0

namespace Books

/-- The scope that the books show. -/
def scope (books : Books) : Scope :=
  ⟨books.stack, books.quiet ≠ 0⟩

def enter (rule : Rule) (pos : Int) (books : Books) : Books :=
  { books with
    active := books.active.insert ⟨rule.name, rule.tag, pos⟩
    stack := ⟨rule, pos⟩ :: books.stack }

def leave (rule : Rule) (pos : Int) (books : Books) : Books :=
  { books with
    active := books.active.erase ⟨rule.name, rule.tag, pos⟩
    stack := books.stack.tail }

def hush (books : Books) : Books :=
  { books with quiet := books.quiet + 1 }

def unhush (books : Books) : Books :=
  { books with quiet := books.quiet - 1 }

end Books

/-- What a matcher with books keeps. -/
structure BookedState where
  state : MatcherState := {}
  books : Books := {}

/-- A step of matching with books. A fault keeps the state that it found. -/
abbrev BookedM := EStateM Fault BookedState

namespace BookedM

variable {α : Type}

/-- What goes on with the state is given the state that there is. -/
theorem get_bind (next : BookedState → BookedM α) (s : BookedState)
    : (get >>= next) s = next s s := rfl

/-- A step of the matcher in the scope that the books show. It writes nothing in them. -/
def step (inner : Scope → MatchM α) : BookedM α := fun s =>
  match inner s.books.scope s.state with
  | .ok a state => .ok a { s with state }
  | .error fault state => .error fault { s with state }

theorem step_eq_ok {inner : Scope → MatchM α} {s t : BookedState} {a : α}
    (ended : step inner s = .ok a t)
    : inner s.books.scope s.state = .ok a t.state ∧ t.books = s.books := by
  unfold step at ended
  split at ended
  · rename_i ran
    cases ended
    exact ⟨ran, rfl⟩
  · cases ended

theorem step_eq_error {inner : Scope → MatchM α} {s t : BookedState} {fault : Fault}
    (ended : step inner s = .error fault t)
    : inner s.books.scope s.state = .error fault t.state ∧ t.books = s.books := by
  unfold step at ended
  split at ended
  · cases ended
  · rename_i ran
    cases ended
    exact ⟨ran, rfl⟩

/-- A computation between an entry in the books and its taking back, which takes place however the
computation ends.
-/
def between (entry exit : Books → Books) (inner : BookedM α) : BookedM α := fun s =>
  match inner { s with books := entry s.books } with
  | .ok a t => .ok a { t with books := exit t.books }
  | .error fault t => .error fault { t with books := exit t.books }

/-- A computation inside a lookahead or white space. -/
def quietly (inner : BookedM α) : BookedM α :=
  between Books.hush Books.unhush inner

end BookedM

-----------------------------------------------------------------------------------------
-- Evaluation
-----------------------------------------------------------------------------------------

namespace Booked

open BookedM (step quietly)

/-- What the body of a rule is evaluated with: the subject, the rule, and how to call a rule. -/
structure Site where
  subject : Subject
  rule : Rule
  call : Name → Int → BookedM (Option Match)

namespace Site

/-- Fails where a text was expected. -/
def miss (pos : Int) (what : Text) : BookedM (Option Reached) := do
  step (MatchM.expect · pos what)
  return none

/-- The offset after implicit white space, which only rules of kind `rule` try. -/
def skipSpace (site : Site) (pos : Int) : BookedM Int :=
  if site.rule.sigspace then do
    match ← quietly (site.call "ws" pos) with
    | none => return pos
    | some m => return m.stop
  else return pos

/-- The offset at which an item of a sequence starts: white space comes before all but the first. -/
def itemStart (site : Site) (first : Bool) (pos : Int) : BookedM Int :=
  if first then return pos else site.skipSpace pos

/-- A node that no rule made. -/
def anonymous (start stop : Int) (log : List Caught) : BookedM Match :=
  step fun _ => RuleGrammar.Site.anonymous start stop log

end Site

/-- What stands before a round: nothing before the first one. -/
def gapBefore (between : Int → BookedM (Option Reached)) (p : Progress)
    : BookedM (Option Reached) :=
  if p.rounds = 0 then return some ⟨p.stop, []⟩ else between p.stop

/-- Goes round as often as the bounds allow. -/
def repeatRounds (rule : Name) (body between : Int → BookedM (Option Reached)) (min : Nat)
    (max : Option Nat) : Nat → Progress → BookedM Progress
  | 0, p => throw (.outOfRoom rule p.stop)
  | bound + 1, p => do
      if belowMax max p.rounds then
        match ← gapBefore between p with
        | none => return p
        | some gap =>
            match ← body gap.stop with
            | none => return p
            | some r =>
                let next := p.round r.stop (roundLog max (gap.caught ++ r.caught))
                if isLastRound min next.rounds p.stop r.stop then return next
                else repeatRounds rule body between min max bound next
      else return p

/-- What stands between two rounds: white space, and the separator with white space after it. -/
def betweenRounds (site : Site) (sep : Option (Int → BookedM (Option Reached))) (pos : Int)
    : BookedM (Option Reached) := do
  let start ← site.skipSpace pos
  match sep with
  | none => return some ⟨start, []⟩
  | some separator =>
      match ← separator start with
      | none => return none
      | some s => return some ⟨← site.skipSpace s.stop, s.caught⟩

/-- One more separator after the rounds, if there was a round. -/
def trailingSeparator (site : Site) (sep : Option (Int → BookedM (Option Reached)))
    (trailing : Bool) (p : Progress) : BookedM Reached :=
  match sep with
  | some separator =>
      if trailing && p.rounds ≠ 0 then do
        match ← separator (← site.skipSpace p.stop) with
        | none => return ⟨p.stop, []⟩
        | some s => return s
      else return ⟨p.stop, []⟩
  | none => return ⟨p.stop, []⟩

/-- A repetition: its rounds, a trailing separator, and marks for all names that it captures. -/
def evalRepetition (site : Site) (body : Int → BookedM (Option Reached))
    (sep : Option (Int → BookedM (Option Reached))) (min : Nat) (max : Option Nat)
    (trailing : Bool) (names : List Name) (pos : Int) : BookedM (Option Reached) := do
  let bound := (site.subject.size - pos).toNat + min + 1
  let p ← repeatRounds site.rule.name body (betweenRounds site sep) min max bound ⟨pos, 0, []⟩
  let last ← trailingSeparator site sep trailing p
  if p.rounds < min then return none
  else
    let marks := if Expr.repeats max then names.map Caught.mark else []
    return some ⟨last.stop, p.log ++ last.caught ++ marks⟩

/-- A goal: opener, body, closer. -/
def evalGoal (site : Site) (opener closer body : Int → BookedM (Option Reached))
    (closerName : Text) (pos : Int) : BookedM (Option Reached) := do
  match ← opener pos with
  | none => return none
  | some o =>
      match ← body (← site.skipSpace o.stop) with
      | none => return none
      | some b =>
          let closing ← site.skipSpace b.stop
          match ← closer closing with
          | none => do
              step (MatchM.expectGoal · closing closerName)
              return none
          | some c =>
              return some ⟨c.stop,
                o.caught ++ b.caught ++ c.caught.filter fun entry => entry.name.isSome⟩

/-- An expression that calls no rule, which is one step of the matcher. -/
def evalLeaf (site : Site) (leaf : Expr) (pos : Int) : BookedM (Option Reached) :=
  step fun scope =>
    RuleGrammar.eval ⟨site.subject, site.rule, scope, fun _ _ _ => return none⟩ leaf pos

mutual

/-- Evaluates an expression at an offset. -/
def eval (site : Site) : Expr → Int → BookedM (Option Reached)
  | .literal text, pos => evalLeaf site (.literal text) pos
  | .charClass cls, pos => evalLeaf site (.charClass cls) pos
  | .anyChar, pos => evalLeaf site .anyChar pos
  | .anchor a, pos => evalLeaf site (.anchor a) pos
  | .sym, pos => evalLeaf site .sym pos
  | .reference rule capture, pos => do
      match ← site.call rule pos with
      | none => Site.miss pos ("<" ++ rule ++ ">")
      | some m =>
          return some ⟨m.stop,
            (Expr.capturing capture).map fun name => .node (some name) m false⟩
  | .lookahead body negated, pos => do
      let found ← quietly (eval site body pos)
      if found.isSome != negated then return some ⟨pos, []⟩
      else Site.miss pos ((if negated then "not " else "") ++ body.describe)
  | .repetition body min max sep trailing, pos =>
      evalRepetition site (eval site body) (evalOption site sep) min max trailing
        (Expr.repetition body min max sep trailing).captureNames pos
  | .sequence items, pos => evalItems site true items pos
  | .choice alternatives, pos => evalChoice site alternatives pos
  | .longest alternatives, pos => evalLongest site alternatives none pos
  | .goal opener closer body, pos =>
      evalGoal site (eval site opener) (eval site closer) (eval site body) closer.describe pos
  | .capture body name, pos => do
      match ← eval site body pos with
      | none => return none
      | some r =>
          return some ⟨r.stop, [.node name (← Site.anonymous pos r.stop r.caught) false]⟩

/-- An expression that may be left out, as a function of the offset. -/
def evalOption (site : Site) : Option Expr → Option (Int → BookedM (Option Reached))
  | none => none
  | some e => some (eval site e)

/-- The items of a sequence from an offset on, with white space before all but the first. -/
def evalItems (site : Site) (first : Bool) : List Expr → Int → BookedM (Option Reached)
  | [], pos => return some ⟨pos, []⟩
  | e :: rest, pos => do
      match ← eval site e (← site.itemStart first pos) with
      | none => return none
      | some r =>
          match ← evalItems site false rest r.stop with
          | none => return none
          | some later => return some ⟨later.stop, r.caught ++ later.caught⟩

/-- The first alternative that does not fail. -/
def evalChoice (site : Site) : List Expr → Int → BookedM (Option Reached)
  | [], _ => return none
  | e :: rest, pos => do
      match ← eval site e pos with
      | some r => return some r
      | none => evalChoice site rest pos

/-- The alternative that goes furthest, given the best one before these. -/
def evalLongest (site : Site) : List Expr → Option Reached → Int → BookedM (Option Reached)
  | [], best, _ => return best
  | e :: rest, best, pos => do
      evalLongest site rest (furtherReached best (← eval site e pos)) pos

end

-----------------------------------------------------------------------------------------
-- Rule application
-----------------------------------------------------------------------------------------

/-- Applies the alternatives of a group one after the other and keeps the furthest match. -/
def dispatch (apply : Rule → Int → BookedM (Option Match)) (pos : Int)
    : List Rule → Option Match → BookedM (Option Match)
  | [], best => return best
  | rule :: rest, best => do
      dispatch apply pos rest (furtherMatch best (← apply rule pos))

/-- Calls what a name stands for. -/
def callName (env : MatchEnv) (apply : Rule → Int → BookedM (Option Match)) (name : Name)
    (pos : Int) : BookedM (Option Match) := do
  match ← step fun _ => resolveOnce env name with
  | .rule rule => apply rule pos
  | .group group => dispatch apply pos group.alternatives none

/-- The given evaluation of a rule, unless its answer is known, or it must not be started: where the
books say that it is in progress, or too deep inside other rules.
-/
def guarded (env : MatchEnv) (rule : Rule) (pos : Int) (fresh : BookedM (Option Match))
    : BookedM (Option Match) := do
  let key : Key := ⟨rule.name, rule.tag, pos⟩
  match ← step fun _ => knownAnswer env key with
  | some answer => return answer
  | none =>
      let books := (← get).books
      if key ∈ books.active then throw (.reentered rule.qualified pos)
      else
        match env.config.depthReached books.scope with
        | some limit => throw (.tooDeep limit rule.qualified pos)
        | none => fresh

/-- Evaluates a rule, which is in progress meanwhile, and keeps its answer. -/
def evaluateRule (env : MatchEnv) (rule : Rule) (pos : Int)
    (call : Name → Int → BookedM (Option Match)) : BookedM (Option Match) := do
  step (traceStart env · rule pos)
  let reached ← BookedM.between (Books.enter rule pos) (Books.leave rule pos)
    (eval ⟨env.subject, rule, call⟩ rule.expr pos)
  let answer ← step fun _ => ruleMatch rule pos reached
  step (traceEnd env · rule pos answer)
  step (remember env · ⟨rule.name, rule.tag, pos⟩ answer)
  return answer

/-- Applies a rule at an offset, with room for so many nested applications. -/
def applyRule (env : MatchEnv) : Nat → Rule → Int → BookedM (Option Match)
  | 0, rule, pos => guarded env rule pos (throw (.outOfRoom rule.name pos))
  | room + 1, rule, pos =>
      guarded env rule pos (evaluateRule env rule pos (callName env (applyRule env room)))

end Booked

/-- Calls a name, with books. -/
def MatchEnv.bookedCall (env : MatchEnv) (name : Name) (pos : Int) : BookedM (Option Match) := do
  Booked.callName env (Booked.applyRule env (env.room (← get).state.resolved pos)) name pos

end RuleGrammar
