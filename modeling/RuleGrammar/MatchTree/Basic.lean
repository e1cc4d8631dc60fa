import RuleGrammar.Expr
import RuleGrammar.Text.Subject

/-! Match trees. A node spans a stretch of the subject and holds the nodes captured inside it,
under names or by position. A node that two captures share has one identity. -/

namespace RuleGrammar

/-- What a node says of itself. A node that no rule made has an empty rule name. -/
structure NodeInfo where
  id : Nat
  start : Int
  stop : Int
  rule : Name := []
  tag : Option Name := none
deriving DecidableEq

mutual

/-- A node with its named captures, in order of first capture, and its positional ones. -/
inductive Match
  | node (info : NodeInfo) (named : List Capture) (positional : List Match)

/-- What was captured under one name: a single node, or any number of nodes in a list. -/
inductive Capture
  | single (name : Name) (node : Match)
  | listed (name : Name) (nodes : List Match)

end

instance : Inhabited Match := ⟨.node ⟨0, 0, 0, [], none⟩ [] []⟩

namespace Capture

def name : Capture → Name
  | single name _ => name
  | listed name _ => name

/-- The captured nodes, whatever their shape. -/
def nodes : Capture → List Match
  | single _ node => [node]
  | listed _ nodes => nodes

end Capture

namespace Match

def info : Match → NodeInfo
  | node info _ _ => info

def named : Match → List Capture
  | node _ named _ => named

def positional : Match → List Match
  | node _ _ positional => positional

def id (m : Match) : Nat :=
  m.info.id

def start (m : Match) : Int :=
  m.info.start

def stop (m : Match) : Int :=
  m.info.stop

def rule (m : Match) : Name :=
  m.info.rule

def tag (m : Match) : Option Name :=
  m.info.tag

end Match

/-- An entry of the log that an evaluation captures into: a node with its name, if any, or a
mark that a name stands for a list. A listed node stands in a list however often it occurs. -/
inductive Caught
  | node (name : Option Name) (node : Match) (listed : Bool)
  | mark (name : Name)

namespace Caught

def name : Caught → Option Name
  | node name _ _ => name
  | mark name => some name

/-- The entry as one round of a repetition leaves it. -/
def listed : Caught → Caught
  | node name m _ => node name m true
  | mark name => mark name

/-- Whether an entry makes the captures of its name a list. -/
def makesList : Caught → Bool
  | node _ _ listed => listed
  | mark _ => true

/-- The node of an entry under this name. -/
def nodeNamed? (key : Name) : Caught → Option Match
  | node (some name) m _ => if name = key then some m else none
  | _ => none

/-- The node of an entry without a name. -/
def positional? : Caught → Option Match
  | node none m _ => some m
  | _ => none

end Caught

namespace Capture

/-- What a log says of one name: a list if an entry makes it one or there is not exactly one
node, and that node otherwise. -/
def ofLog (log : List Caught) (key : Name) : Capture :=
  let nodes := log.filterMap (Caught.nodeNamed? key)
  if log.any fun entry => entry.name = some key && entry.makesList then .listed key nodes
  else
    match nodes with
    | [m] => .single key m
    | nodes => .listed key nodes

end Capture

namespace Match

/-- The node that a log of captures folds into. -/
def ofLog (info : NodeInfo) (log : List Caught) : Match :=
  .node info ((Expr.distinct (log.filterMap Caught.name)).map (Capture.ofLog log))
    (log.filterMap Caught.positional?)

end Match

end RuleGrammar
