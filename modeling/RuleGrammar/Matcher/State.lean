import RuleGrammar.Grammar.Basic
import RuleGrammar.Matcher.Furthest
import RuleGrammar.Matcher.Memo

/-! What a matcher is given, what it keeps while it runs, and the faults that stop it. -/

namespace RuleGrammar

/-- How to match. Rule applications may nest up to `maxDepth`. The ceiling is no choice of the
caller: it stands for the stack that a match runs on, counted in rule applications, and without one
there is as much of it as a match can use. -/
structure MatchConfig where
  memoize : Bool := true
  maxDepth : Option Int := none
  validate : Bool := false
  debug : Bool := false
  ceiling : Option Nat := some 2500

/-- What stops a match for good, unlike an expression that does not match. -/
inductive Fault
  | reentered (rule : Name) (pos : Int)
  | tooDeep (limit : Int) (rule : Name) (pos : Int)
  | outOfRoom (rule : Name) (pos : Int)
  | grammar (error : GrammarError)
  | charClass (fault : CharClass.Fault)
deriving DecidableEq

namespace Fault

def message : Fault → Text
  | reentered rule pos =>
      "rule '" ++ rule ++ "' re-entered at " ++ Text.ofInt pos ++ " without consuming input"
  | tooDeep limit _ pos =>
      "rule nesting deeper than " ++ Text.ofInt limit ++ " at " ++ Text.ofInt pos
  | outOfRoom rule _ => "recursion limit reached while matching '" ++ rule ++ "'"
  | grammar error => error.message
  | charClass fault => fault.message

end Fault

/-- What a matcher keeps from one rule application to the next: known answers, the furthest
failures, the entries that names stood for when they were first called, the next identity of a
node, and the lines of the trace, the last one first. -/
structure MatcherState where
  memo : Memo := {}
  furthest : Furthest := {}
  resolved : List (Name × Entry) := []
  nextId : Nat := 0
  trace : List Text := []

/-- A step of matching. A fault keeps the state that it found. -/
abbrev MatchM := EStateM Fault MatcherState

/-- What follows an answer goes on with what the answer left. -/
theorem bind_of_ok {ε σ α β : Type} {first : EStateM ε σ α} {next : α → EStateM ε σ β} {s t : σ}
    {a : α} (ended : first s = .ok a t) : (first >>= next) s = next a t := by
  change EStateM.bind first next s = next a t
  rw [EStateM.bind, ended]

/-- Two steps answer exactly if the first does and the second does with what it left. -/
theorem bind_eq_ok {ε σ α β : Type} {first : EStateM ε σ α} {next : α → EStateM ε σ β} {s u : σ}
    {b : β} : (first >>= next) s = .ok b u ↔ ∃ a t, first s = .ok a t ∧ next a t = .ok b u := by
  change EStateM.bind first next s = .ok b u ↔ _
  unfold EStateM.bind
  cases first s with
  | ok a t =>
      refine ⟨fun ended => ⟨a, t, rfl, ended⟩, ?_⟩
      rintro ⟨_, _, ⟨⟩, ended⟩
      exact ended
  | error fault t => simp

/-- Two steps stop exactly if the first does, or the second does with what the first left. -/
theorem bind_eq_error {ε σ α β : Type} {first : EStateM ε σ α} {next : α → EStateM ε σ β}
    {s u : σ} {fault : ε} : (first >>= next) s = .error fault u
      ↔ first s = .error fault u ∨ ∃ a t, first s = .ok a t ∧ next a t = .error fault u := by
  change EStateM.bind first next s = .error fault u ↔ _
  unfold EStateM.bind
  cases first s with
  | ok a t =>
      refine ⟨fun ended => .inr ⟨a, t, rfl, ended⟩, ?_⟩
      rintro (stopped | ⟨_, _, ⟨⟩, ended⟩)
      · cases stopped
      · exact ended
  | error fault t => simp

/-- A rule application in progress. -/
structure Frame where
  rule : Rule
  pos : Int

namespace Frame

def key (frame : Frame) : Key :=
  ⟨frame.rule.name, frame.rule.tag, frame.pos⟩

end Frame

/-- The surroundings of a call: the applications in progress, innermost first, and whether
failures and answers go unrecorded, as inside lookaheads and implicit white space. -/
structure Scope where
  frames : List Frame := []
  quiet : Bool := false

namespace Scope

/-- The innermost rule in progress, as reports name it. -/
def innermost (scope : Scope) : Option Name :=
  scope.frames.head?.map (·.rule.qualified)

def isActive (scope : Scope) (key : Key) : Bool :=
  scope.frames.any (·.key = key)

def enter (scope : Scope) (rule : Rule) (pos : Int) : Scope :=
  { scope with frames := ⟨rule, pos⟩ :: scope.frames }

end Scope

namespace MatchM

/-- Records that a text was expected, unless in a quiet scope. -/
def expect (scope : Scope) (pos : Int) (what : Text) : MatchM Unit :=
  if scope.quiet then pure ()
  else modify fun s =>
    { s with furthest := s.furthest.record scope.innermost pos what }

/-- Records that a goal was missed, unless in a quiet scope. -/
def expectGoal (scope : Scope) (pos : Int) (what : Text) : MatchM Unit :=
  if scope.quiet then pure ()
  else modify fun s =>
    { s with furthest := s.furthest.recordGoal scope.innermost pos what }

/-- An identity that no node has yet. -/
def freshId : MatchM Nat :=
  modifyGet fun s => (s.nextId, { s with nextId := s.nextId + 1 })

/-- Adds a line to the trace. -/
def traceLine (line : Text) : MatchM Unit :=
  modify fun s => { s with trace := line :: s.trace }

/-- What goes on with the state is given the state that there is. -/
theorem get_bind {α : Type} (next : MatcherState → MatchM α) (s : MatcherState)
    : (get >>= next) s = next s s := rfl

end MatchM

end RuleGrammar
