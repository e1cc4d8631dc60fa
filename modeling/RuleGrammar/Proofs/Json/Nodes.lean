import Mathlib.Data.List.Chain
import RuleGrammar.MatchTree.Basic
import RuleGrammar.Proofs.Json.Syntax

/-! The match trees of JSON texts: the nodes, without identities, that the rules of the grammar make
of a syntax tree at an offset.
-/

namespace RuleGrammar.Json

/-- The node that a rule makes of a text at an offset and of what was captured in it. -/
def nodeAt (rule : Name) (tag : Option Name) (pos : Int) (t : Text) (log : List Caught) : Match :=
  .ofLog { id := 0, start := pos, stop := pos + t.length, rule, tag } log

@[simp] theorem nodeAt_stop (rule : Name) (tag : Option Name) (pos : Int) (t : Text)
    (log : List Caught)
    : (nodeAt rule tag pos t log).stop = pos + t.length := rfl

/-- A node captured once under a name. -/
abbrev once (name : Name) (node : Match) : Caught :=
  .node (some name) node false

/-- A node captured under a name that stands for a list. -/
abbrev among (name : Name) (node : Match) : Caught :=
  .node (some name) node true

-----------------------------------------------------------------------------------------
-- Strings
-----------------------------------------------------------------------------------------

/-- A part of a string that one rule matches: plain code points in a row, or an escape. -/
inductive Run
  | plain (first : Plain) (rest : List Plain)
  | escape (e : Escape)

namespace Run

def isPlain : Run → Bool
  | plain _ _ => true
  | escape _ => false

def text : Run → Text
  | plain first rest => first.val :: rest.map Subtype.val
  | escape e => e.text

def value : Run → Text
  | plain first rest => first.val :: rest.map Subtype.val
  | escape e => [e.value]

/-- The rule that matches a run. -/
def rule : Run → Name
  | plain _ _ => "str"
  | escape _ => "str_escape"

end Run

/-- Adds a plain code point in front of some runs. -/
def prependPlain (c : Plain) : List Run → List Run
  | .plain first rest :: later => .plain c (first :: rest) :: later
  | runs => .plain c [] :: runs

/-- The runs of some pieces: plain code points in a row are one run. -/
def runsOf : List Piece → List Run
  | [] => []
  | .plain c :: rest => prependPlain c (runsOf rest)
  | .escape e :: rest => .escape e :: runsOf rest

/-- The nodes of hexadecimal digits one after the other. -/
def hexLog (pos : Int) : List HexDigit → List Caught
  | [] => []
  | d :: rest => among "xdigit" (nodeAt "xdigit" none pos [d.val] []) :: hexLog (pos + 1) rest

/-- What is captured in an escape: the digits of a hexadecimal one. -/
def Escape.log (pos : Int) : Escape → List Caught
  | short _ => []
  | hex a b c d => hexLog (pos + 2) [a, b, c, d] ++ [.mark "xdigit"]

def Run.log (pos : Int) : Run → List Caught
  | plain _ _ => []
  | escape e => e.log pos

def Run.node (pos : Int) (run : Run) : Match :=
  nodeAt run.rule none pos run.text (run.log pos)

/-- The nodes of runs one after the other. -/
def runsLog (pos : Int) : List Run → List Caught
  | [] => []
  | run :: rest => among run.rule (run.node pos) :: runsLog (pos + run.text.length) rest

def stringLog (pos : Int) (pieces : List Piece) : List Caught :=
  runsLog (pos + 1) (runsOf pieces) ++ [.mark "str", .mark "str_escape"]

def stringNode (pos : Int) (pieces : List Piece) : Match :=
  nodeAt "string" none pos (stringText pieces) (stringLog pos pieces)

-----------------------------------------------------------------------------------------
-- Trees
-----------------------------------------------------------------------------------------

namespace Kind

/-- The rule of a pair of brackets with its content. -/
def rule : Kind → Name
  | array => "array"
  | object => "object"

/-- The rule of the content, without the gaps around it. -/
def listRule : Kind → Name
  | array => "arraylist"
  | object => "pairlist"

/-- The rule of an entry. -/
def entryRule : Kind → Name
  | array => "value"
  | object => "pair"

end Kind

variable {spacing : Spacing}

/-- The alternative of values that a tree belongs to. -/
def Tree.tag : Tree spacing → Name
  | .null => "null"
  | .bool true => "true"
  | .bool false => "false"
  | .number _ => "number"
  | .string _ => "string"
  | .container kind _ => kind.rule

mutual

def Tree.node (pos : Int) : Tree spacing → Match
  | .null =>
      nodeAt "value" (some "null") pos "null"
        [once "sym" (nodeAt [] none pos "null" [])]
  | .bool true =>
      nodeAt "value" (some "true") pos "true"
        [once "sym" (nodeAt [] none pos "true" [])]
  | .bool false =>
      nodeAt "value" (some "false") pos "false"
        [once "sym" (nodeAt [] none pos "false" [])]
  | .number n => nodeAt "value" (some "number") pos n.text []
  | .string pieces =>
      nodeAt "value" (some "string") pos (stringText pieces)
        [once "string" (stringNode pos pieces)]
  | .container kind content =>
      nodeAt "value" (some kind.rule) pos (kind.opener ++ content.text ++ kind.closer)
        [once kind.rule
          (nodeAt kind.rule none pos (kind.opener ++ content.text ++ kind.closer)
            [once kind.listRule (content.node (pos + 1))])]

/-- The node of the content of brackets, which leaves out the gaps around it. -/
def Content.node {kind : Kind} (pos : Int) : Content spacing kind → Match
  | .empty gap => nodeAt kind.listRule none (pos + gap.val.length) [] [.mark kind.entryRule]
  | .filled before chain _ =>
      nodeAt kind.listRule none (pos + before.val.length) chain.text
        (chain.log (pos + before.val.length) ++ [.mark kind.entryRule])

/-- The nodes of entries one after the other. -/
def Chain.log {kind : Kind} (pos : Int) : Chain spacing kind → List Caught
  | .last entry => [among kind.entryRule (entry.node pos)]
  | .more entry before after rest =>
      among kind.entryRule (entry.node pos)
        :: rest.log (pos + entry.text.length + (before.val ++ "," ++ after.val).length)

def Entry.node {kind : Kind} (pos : Int) : Entry spacing kind → Match
  | .item value => value.node pos
  | .pair key before after value =>
      nodeAt "pair" none pos
        (stringText key ++ (before.val ++ ":" ++ after.val) ++ value.text)
        [once "string" (stringNode pos key),
          once "value" (value.node
            (pos + (stringText key).length + (before.val ++ ":" ++ after.val).length))]

end

/-- The node of brackets with their content. -/
def containerNode (pos : Int) (kind : Kind) (content : Content spacing kind) : Match :=
  nodeAt kind.rule none pos (kind.opener ++ content.text ++ kind.closer)
    [once kind.listRule (content.node (pos + 1))]

def Document.node (d : Document spacing) : Match :=
  nodeAt "TOP" none 0 d.text
    [once d.kind.rule (containerNode d.before.val.length d.kind d.content)]

-----------------------------------------------------------------------------------------
-- Runs
-----------------------------------------------------------------------------------------

/-- No two plain runs stand side by side. -/
def AreMaximal (runs : List Run) : Prop :=
  runs.IsChain fun a b => ¬ (a.isPlain = true ∧ b.isPlain = true)

theorem areMaximal_prependPlain (c : Plain) {runs : List Run} (maximal : AreMaximal runs)
    : AreMaximal (prependPlain c runs) := by
  unfold AreMaximal at maximal ⊢
  match runs, maximal with
  | [], _ => simp [prependPlain]
  | .escape e :: later, maximal =>
      exact List.isChain_cons_cons.mpr ⟨by simp [Run.isPlain], maximal⟩
  | [.plain first rest], _ => simp [prependPlain]
  | .plain first rest :: next :: later, maximal =>
      obtain ⟨apart, maximal⟩ := List.isChain_cons_cons.mp maximal
      exact List.isChain_cons_cons.mpr ⟨by simpa [Run.isPlain] using apart, maximal⟩

/-- The runs of pieces are as long as can be, by induction on the pieces. -/
theorem areMaximal_runsOf (pieces : List Piece) : AreMaximal (runsOf pieces) := by
  induction pieces with
  | nil => exact List.isChain_nil
  | cons piece rest ih =>
      cases piece with
      | plain c => exact areMaximal_prependPlain c ih
      | escape e =>
          refine List.isChain_cons.mpr ⟨fun next _ => ?_, ih⟩
          simp [Run.isPlain]

theorem prependPlain_text (c : Plain) (runs : List Run)
    : (prependPlain c runs).flatMap Run.text = c.val :: runs.flatMap Run.text := by
  match runs with
  | [] => rfl
  | .plain first rest :: later => simp [prependPlain, Run.text]
  | .escape e :: later => simp [prependPlain, Run.text]

theorem prependPlain_value (c : Plain) (runs : List Run)
    : (prependPlain c runs).flatMap Run.value = c.val :: runs.flatMap Run.value := by
  match runs with
  | [] => rfl
  | .plain first rest :: later => simp [prependPlain, Run.value]
  | .escape e :: later => simp [prependPlain, Run.value]

/-- Runs have the text of their pieces. -/
theorem runsOf_text (pieces : List Piece)
    : (runsOf pieces).flatMap Run.text = piecesText pieces := by
  induction pieces with
  | nil => rfl
  | cons piece rest ih =>
      rw [piecesText, List.flatMap_cons] at *
      cases piece with
      | plain c => simp [runsOf, prependPlain_text, ih, Piece.text]
      | escape e => simp [runsOf, Run.text, ih, Piece.text]

/-- Runs have the value of their pieces. -/
theorem runsOf_value (pieces : List Piece)
    : (runsOf pieces).flatMap Run.value = stringValue pieces := by
  induction pieces with
  | nil => rfl
  | cons piece rest ih =>
      rw [stringValue, List.map_cons] at *
      cases piece with
      | plain c => simp [runsOf, prependPlain_value, ih, Piece.value]
      | escape e => simp [runsOf, Run.value, ih, Piece.value]

end RuleGrammar.Json
