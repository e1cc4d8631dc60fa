import RuleGrammar.CharClass
import RuleGrammar.Text.Quoted

/-! Matching expressions, the bodies of rules. -/

namespace RuleGrammar

/-- Names of rules, grammars, tags and captures. -/
abbrev Name := Text

/-- Where an anchor holds. A mark without meaning holds nowhere. -/
inductive Anchor
  | inputStart
  | inputEnd
  | other (mark : Text)
deriving DecidableEq

/-- A matching expression.

`reference` calls a rule and captures its match under a name, if it has one; `sym` matches the
tag of the alternative it stands in; `lookahead` consumes nothing; a `repetition` without
`max` has no upper bound, may have a separator, and with `trailing` takes one more at the end;
`choice` takes the first alternative that matches and `longest` the one that goes furthest;
`goal` matches its opener, its body and its closer; a `capture` without a name is positional. -/
inductive Expr
  | literal (text : Text)
  | charClass (cls : CharClass)
  | anyChar
  | anchor (anchor : Anchor)
  | reference (rule : Name) (capture : Option Name)
  | sym
  | lookahead (body : Expr) (negated : Bool)
  | repetition (body : Expr) (min : Nat) (max : Option Nat) (sep : Option Expr)
      (trailing : Bool)
  | sequence (items : List Expr)
  | choice (alternatives : List Expr)
  | longest (alternatives : List Expr)
  | goal (opener closer body : Expr)
  | capture (body : Expr) (name : Option Name)

namespace Anchor

def ofMark (mark : Text) : Anchor :=
  if mark = Text.ofString "^" then .inputStart
  else if mark = Text.ofString "$" then .inputEnd
  else .other mark

def mark : Anchor → Text
  | inputStart => "^"
  | inputEnd => "$"
  | other mark => mark

def describe : Anchor → Text
  | inputStart => "start of input"
  | _ => "end of input"

end Anchor

namespace Expr

instance : Inhabited Expr := ⟨.anyChar⟩

/-- What a report calls an expression. -/
def describe : Expr → Text
  | literal text => text.quoted
  | charClass cls => cls.pattern
  | anyChar => "any character"
  | anchor a => a.describe
  | reference rule _ => "<" ++ rule ++ ">"
  | sym => "<sym>"
  | lookahead _ _ => "before"
  | repetition _ _ _ _ _ => "repeat"
  | sequence [] => "seq"
  | sequence (first :: _) => first.describe
  | choice _ => "choice"
  | longest _ => "longest"
  | goal _ _ _ => "goal"
  | capture body _ => body.describe

/-- Whether a repetition may go round more than once, so that its captures are lists. -/
def repeats (max : Option Nat) : Bool :=
  match max with
  | none => true
  | some bound => 1 < bound

/-- The names without repetitions, in order of first occurrence. -/
def distinct (names : List Name) : List Name :=
  names.foldl (fun seen name => if seen.contains name then seen else seen ++ [name]) []

/-- A name that captures: the empty one does not count. -/
def capturing (name : Option Name) : List Name :=
  match name with
  | some name => if name.isEmpty then [] else [name]
  | none => []

mutual

/-- The names under which an expression captures into the match of its rule, in order and with
repetitions. What stands inside a capture or a lookahead captures elsewhere or not at all. -/
def captures : Expr → List Name
  | literal _ | charClass _ | anyChar | anchor _ | lookahead _ _ => []
  | reference _ name => capturing name
  | sym => [Text.ofString "sym"]
  | repetition body _ _ sep _ => body.captures ++ capturesOfOption sep
  | sequence items => capturesOfList items
  | choice alternatives => capturesOfList alternatives
  | longest alternatives => capturesOfList alternatives
  | goal opener closer body => opener.captures ++ closer.captures ++ body.captures
  | capture _ name => capturing name

def capturesOfList : List Expr → List Name
  | [] => []
  | e :: rest => e.captures ++ capturesOfList rest

def capturesOfOption : Option Expr → List Name
  | none => []
  | some e => e.captures

end

/-- The names under which an expression captures into the match of its rule, each once. -/
def captureNames (e : Expr) : List Name :=
  distinct e.captures

end Expr

end RuleGrammar
