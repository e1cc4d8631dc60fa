import RuleGrammar.Matcher.Evaluate

/-! Rule application. An answer that is known is given again; a rule that is applied where it is
already being applied would never end and is a fault. -/

namespace RuleGrammar

/-- What matching takes place in. -/
structure MatchEnv where
  grammar : Grammar
  subject : Subject
  config : MatchConfig := {}

/-- Names the entry that a name stood for when it was first called. -/
def resolveOnce (env : MatchEnv) (name : Name) : MatchM Entry := do
  match Layer.lookupIn name (← get).resolved with
  | some entry => return entry
  | none =>
      match env.grammar.resolve name with
      | .error error => throw (.grammar error)
      | .ok entry =>
          modify fun s => { s with resolved := s.resolved ++ [(name, entry)] }
          return entry

/-- The better of two answers of alternatives: the one that goes further, and of two equal ones
the first. -/
def furtherMatch (best next : Option Match) : Option Match :=
  match best, next with
  | some b, some n => if b.stop < n.stop then some n else some b
  | some b, none => some b
  | none, next => next

/-- Applies the alternatives of a group one after the other and keeps the furthest match, given
the best one before these. -/
def dispatch (apply : Rule → Int → MatchM (Option Match)) (pos : Int)
    : List Rule → Option Match → MatchM (Option Match)
  | [], best => return best
  | rule :: rest, best => do
      dispatch apply pos rest (furtherMatch best (← apply rule pos))

/-- Calls what a name stands for. -/
def callName (env : MatchEnv) (apply : Rule → Int → MatchM (Option Match)) (name : Name)
    (pos : Int) : MatchM (Option Match) := do
  match ← resolveOnce env name with
  | .rule rule => apply rule pos
  | .group group => dispatch apply pos group.alternatives none

/-- The answer known for a key, if answers are kept. -/
def knownAnswer (env : MatchEnv) (key : Key) : MatchM (Option (Option Match)) := do
  if env.config.memoize then return (← get).memo.find? key else return none

/-- Whether rule applications nest as deep as allowed. -/
def MatchConfig.depthReached (config : MatchConfig) (scope : Scope) : Option Int :=
  config.maxDepth.filter fun limit => limit ≤ scope.frames.length

/-- The given evaluation of a rule, unless its answer is known or it must not be started: where
it is already in progress, or too deep inside other rules. -/
def guarded (env : MatchEnv) (scope : Scope) (rule : Rule) (pos : Int)
    (fresh : MatchM (Option Match)) : MatchM (Option Match) := do
  let key : Key := ⟨rule.name, rule.tag, pos⟩
  match ← knownAnswer env key with
  | some answer => return answer
  | none =>
      if scope.isActive key then throw (.reentered rule.qualified pos)
      else
        match env.config.depthReached scope with
        | some limit => throw (.tooDeep limit rule.qualified pos)
        | none => fresh

/-- Traces the start of a rule application. -/
def traceStart (env : MatchEnv) (scope : Scope) (rule : Rule) (pos : Int) : MatchM Unit :=
  if env.config.debug then
    MatchM.traceLine
      (Text.spaces (2 * scope.frames.length) ++ "> " ++ rule.qualified ++ " @" ++ Text.ofInt pos)
  else pure ()

/-- What the trace says of an answer. -/
def answerText (pos : Int) : Option Match → Text
  | some m => "ok [" ++ Text.ofInt pos ++ "," ++ Text.ofInt m.stop ++ ")"
  | none => "fail"

/-- Traces the end of a rule application. -/
def traceEnd (env : MatchEnv) (scope : Scope) (rule : Rule) (pos : Int)
    (answer : Option Match) : MatchM Unit :=
  if env.config.debug then
    MatchM.traceLine
      (Text.spaces (2 * scope.frames.length) ++ "< " ++ rule.qualified ++ " "
        ++ answerText pos answer)
  else pure ()

/-- The node that a rule makes of what its body reached. -/
def ruleMatch (rule : Rule) (pos : Int) : Option Reached → MatchM (Option Match)
  | none => return none
  | some r => do
      let id ← MatchM.freshId
      return some (.ofLog { id, start := pos, stop := r.stop, rule := rule.name, tag := rule.tag }
        r.caught)

/-- Keeps the answer of a rule application, unless in a quiet scope. -/
def remember (env : MatchEnv) (scope : Scope) (key : Key) (answer : Option Match)
    : MatchM Unit :=
  if env.config.memoize && !scope.quiet then
    modify fun s => { s with memo := s.memo.insert key answer }
  else pure ()

/-- The answer of a rule from its body, whose calls go through the given function. -/
def answerRule (env : MatchEnv) (scope : Scope) (rule : Rule) (pos : Int)
    (call : Scope → Name → Int → MatchM (Option Match)) : MatchM (Option Match) := do
  traceStart env scope rule pos
  let reached ← eval ⟨env.subject, rule, scope.enter rule pos, call⟩ rule.expr pos
  let answer ← ruleMatch rule pos reached
  traceEnd env scope rule pos answer
  return answer

/-- Evaluates a rule and keeps its answer. -/
def evaluateRule (env : MatchEnv) (scope : Scope) (rule : Rule) (pos : Int)
    (call : Scope → Name → Int → MatchM (Option Match)) : MatchM (Option Match) := do
  let answer ← answerRule env scope rule pos call
  remember env scope ⟨rule.name, rule.tag, pos⟩ answer
  return answer

/-- Applies a rule at an offset, with room for so many nested applications. -/
def applyRule (env : MatchEnv) : Nat → Scope → Rule → Int → MatchM (Option Match)
  | 0, scope, rule, pos => guarded env scope rule pos (throw (.outOfRoom rule.name pos))
  | room + 1, scope, rule, pos =>
      guarded env scope rule pos
        (evaluateRule env scope rule pos fun inner =>
          callName env (applyRule env room inner))

/-- Calls a name in a scope, with room for so many nested rule applications. -/
def callWithin (env : MatchEnv) (room : Nat) (scope : Scope) (name : Name) (pos : Int)
    : MatchM (Option Match) :=
  callName env (applyRule env room scope) name pos

/-- The rules visible from a grammar, built-in ones included. -/
def Grammar.ruleCount (g : Grammar) : Nat :=
  (g.ruleTable.flatMap (·.2)).length

/-- The room that a call from an offset cannot use up: no rule is applied at an offset where it
is already being applied, and offsets range from there to the end. Entries resolved earlier
count besides those of the grammar. -/
def MatchEnv.naturalRoom (env : MatchEnv) (resolved : List (Name × Entry)) (pos : Int) : Nat :=
  (env.grammar.ruleCount + (resolved.flatMap fun row => row.2.rules).length)
    * ((env.subject.size - pos).toNat + 1)

/-- The room of a call from an offset. -/
def MatchEnv.room (env : MatchEnv) (resolved : List (Name × Entry)) (pos : Int) : Nat :=
  match env.config.ceiling with
  | none => env.naturalRoom resolved pos
  | some ceiling => min ceiling (env.naturalRoom resolved pos)

/-- Calls a name from outside any rule. -/
def MatchEnv.call (env : MatchEnv) (name : Name) (pos : Int) : MatchM (Option Match) := do
  callWithin env (env.room (← get).resolved pos) {} name pos

end RuleGrammar
