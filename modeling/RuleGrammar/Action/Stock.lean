import RuleGrammar.Action.Dispatch

/-! Ready-made callbacks. -/

namespace RuleGrammar

/-- How a ready-made callback points at a capture. -/
inductive CaptureKey
  | name (name : Name)
  | index (i : Int)
deriving DecidableEq

/-- The captures that a key points at: those of a name, or the node at a position, where a
negative index counts from the end. -/
inductive Selection
  | node (m : Match)
  | nodes (ms : List Match)

/-- The element at an index, where a negative one counts from the end. -/
def elementAt? {α : Type} (items : List α) (i : Int) : Option α :=
  let i := if i < 0 then i + items.length else i
  if i < 0 then none else items[i.toNat]?

namespace Match

/-- What a key points at in a node, or why it points at nothing. -/
def select (m : Match) : CaptureKey → Except ActionFault Selection
  | .name name =>
      match m.get? name with
      | some (.single _ child) => .ok (.node child)
      | some (.listed _ children) => .ok (.nodes children)
      | none => .error .missingKey
  | .index i =>
      match elementAt? m.positional i with
      | some child => .ok (.node child)
      | none => .error .missingIndex

end Match

namespace Selection

/-- What a key points at in a selection. Only an index points into a list. -/
def select : Selection → CaptureKey → Except ActionFault Selection
  | node m, key => m.select key
  | nodes ms, .index i =>
      match elementAt? ms i with
      | some m => .ok (.node m)
      | none => .error .missingIndex
  | nodes _, .name _ => .error .badType

/-- Follows keys one after the other. -/
def follow (selection : Selection) (path : List CaptureKey) : Except ActionFault Selection :=
  path.foldlM select selection

end Selection

/-- The callbacks there are. `text`, `int` and `float` leave the text of the node or what it
reads as, `const` a given value, `children` and `pair` the payloads of the children, `sum`
their sum, `map` the payloads by the children's texts, `named` and `key` payloads of captures,
`count` the number of calls so far. `twice` leaves two payloads, which is a fault; `ifUnset`
leaves a value where there is none; `fail` fails and `nothing` does nothing. -/
inductive StockAction
  | text
  | int
  | float
  | const (value : Value)
  | children
  | sum
  | pair
  | map
  | named (name : Name)
  | key (key : Option CaptureKey)
  | count
  | twice
  | ifUnset (value : Value)
  | fail
  | nothing

namespace StockAction

/-- A value or the fault of not having one. -/
def orFault {α : Type} (fault : ActionFault) : Option α → ActionM α
  | some a => return a
  | none => throw fault

/-- The payloads of some nodes. -/
def madeOfAll (nodes : List Match) : ActionM (List Value) :=
  nodes.mapM madeOf

/-- The sum of two numbers: of two integers exact, otherwise rounded. -/
def add (a b : Int ⊕ Double) : ActionM (Int ⊕ Double) :=
  match a, b with
  | .inl m, .inl n => return .inl (m + n)
  | .inl m, .inr d => return .inr ((← orFault .overflow (Double.ofInt? m)).add d)
  | .inr d, .inl n => return .inr (d.add (← orFault .overflow (Double.ofInt? n)))
  | .inr d, .inr e => return .inr (d.add e)

/-- The sum of numbers, from zero on. -/
def sumOf (values : List Value) : ActionM Value := do
  let total ← values.foldlM (fun total value => do
    add total (← orFault .badType value.operand)) (.inl 0)
  match total with
  | .inl n => return .int n
  | .inr d => return .float d

/-- The payloads of the nodes that have one. -/
def setPayloads (nodes : List Match) : ActionM (List Value) := do
  let payloads := (← get).payloads
  return nodes.filterMap payloads.find?

/-- The payload of the one node that a key points at. -/
def madeAt (m : Match) (key : Option CaptureKey) : ActionM Value := do
  match key with
  | none => throw .missingKey
  | some key =>
      match m.select key with
      | .ok (.node node) => madeOf node
      | .ok (.nodes _) => throw .notANode
      | .error fault => throw fault

/-- What a ready-made callback does. -/
def callback (action : StockAction) : Callback := fun subject m => do
  match action with
  | text => make subject m (.text (m.text subject))
  | int => make subject m (.int (← orFault .badValue (Numeral.readInt? (m.text subject))))
  | float => make subject m (.float (← orFault .badValue (Double.read? (m.text subject))))
  | const value => make subject m value
  | children => make subject m (.list (← madeOfAll m.children))
  | sum => make subject m (← sumOf (← setPayloads m.children))
  | pair => make subject m (.tuple (← madeOfAll m.children))
  | map =>
      let values ← madeOfAll m.children
      let keys : List Value := m.children.map fun child => .text (child.text subject)
      make subject m (.ofEntries (keys.zip values))
  | named name => make subject m (.list (← madeOfAll (m.all name)))
  | key k => make subject m (← madeAt m k)
  | count => make subject m (.int (← get).called.length)
  | twice =>
      make subject m (.int 1)
      make subject m (.int 2)
  | ifUnset value =>
      if (← get).payloads.isSet m then return ()
      else make subject m value
  | fail => throw .badValue
  | nothing => return ()

end StockAction

end RuleGrammar
