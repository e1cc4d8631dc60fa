import RuleGrammar.Number.Shortest
import RuleGrammar.Text.Quoted

/-! Payload values, which of them may be keys, and how values are shown. -/

namespace RuleGrammar

/-- What an action may leave at a node. A dictionary holds each key once, in the order in which
the keys first came. -/
inductive Value
  | null
  | bool (b : Bool)
  | int (n : Int)
  | float (d : Double)
  | text (t : Text)
  | list (items : List Value)
  | tuple (items : List Value)
  | dict (entries : List (Value × Value))

namespace Value

/-! ### Keys -/

/-- A number as an operand: an integer or a double. -/
def operand : Value → Option (Int ⊕ Double)
  | bool b => some (.inl (if b then 1 else 0))
  | int n => some (.inl n)
  | float d => some (.inr d)
  | _ => none

/-- Whether two operands are the same number. -/
def isSameNumber : Int ⊕ Double → Int ⊕ Double → Bool
  | .inl m, .inl n => m = n
  | .inl m, .inr d => d.isInt m
  | .inr d, .inl n => d.isInt n
  | .inr d, .inr e => d.isSame e

mutual

/-- Whether a value may be a key. Lists and dictionaries may not, and neither may what holds
them. -/
def isKey : Value → Bool
  | list _ | dict _ => false
  | tuple items => areKeys items
  | _ => true

def areKeys : List Value → Bool
  | [] => true
  | item :: rest => item.isKey && areKeys rest

end

mutual

/-- Whether two values are the same key. Numbers of different kinds can be. -/
def isSameKey : Value → Value → Bool
  | null, null => true
  | text t, text u => t = u
  | tuple items, tuple others => areSameKeys items others
  | a, b =>
      match a.operand, b.operand with
      | some m, some n => isSameNumber m n
      | _, _ => false

def areSameKeys : List Value → List Value → Bool
  | [], [] => true
  | a :: rest, b :: others => a.isSameKey b && areSameKeys rest others
  | _, _ => false

end

/-- Entries with the value of a key replaced in place, or a new entry at the end. -/
def setKey (key value : Value) : List (Value × Value) → List (Value × Value)
  | [] => [(key, value)]
  | entry :: rest =>
      if entry.1.isSameKey key then (entry.1, value) :: rest else entry :: setKey key value rest

/-- The dictionary of some entries: a repeated key keeps its first place and spelling and takes
its last value. -/
def ofEntries (entries : List (Value × Value)) : Value :=
  .dict (entries.foldl (fun known entry => setKey entry.1 entry.2 known) [])

/-- The values that a value yields one after the other: the items of a list or a tuple, the code
points of a text, or the keys of a dictionary. -/
def items? : Value → Option (List Value)
  | list items | tuple items => some items
  | text t => some (t.map fun c => text [c])
  | dict entries => some (entries.map (·.1))
  | _ => none

/-! ### Writing -/

mutual

/-- A value in writing. -/
def render : Value → Text
  | null => "None"
  | bool b => if b then "True" else "False"
  | int n => Text.ofInt n
  | float d => d.render
  | text t => t.quoted
  | list items => "[" ++ Text.joinWith ", " (renderItems items) ++ "]"
  | tuple [] => "()"
  | tuple [item] => "(" ++ item.render ++ ",)"
  | tuple (first :: rest) =>
      "(" ++ Text.joinWith ", " (first.render :: renderItems rest) ++ ")"
  | dict entries => "\x7b" ++ Text.joinWith ", " (renderEntries entries) ++ "\x7d"

def renderItems : List Value → List Text
  | [] => []
  | item :: rest => item.render :: renderItems rest

def renderEntries : List (Value × Value) → List Text
  | [] => []
  | (key, value) :: rest => (key.render ++ ": " ++ value.render) :: renderEntries rest

end

/-- Whether an integer is written in no more digits than an integer may be read from. -/
def isShortInt (n : Int) : Bool :=
  n.natAbs < Double.tenTo Numeral.digitLimit

mutual

/-- Whether a value may be written, which values with too long integers may not. -/
def isWritable : Value → Bool
  | int n => isShortInt n
  | list items | tuple items => areWritable items
  | dict entries => areEntriesWritable entries
  | _ => true

def areWritable : List Value → Bool
  | [] => true
  | item :: rest => item.isWritable && areWritable rest

def areEntriesWritable : List (Value × Value) → Bool
  | [] => true
  | (key, value) :: rest => key.isWritable && value.isWritable && areEntriesWritable rest

end

end Value

end RuleGrammar
