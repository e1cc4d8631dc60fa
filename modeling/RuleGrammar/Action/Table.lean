import Std.Data.TreeMap
import RuleGrammar.Action.Value
import RuleGrammar.MatchTree.View

/-! Actions: callbacks that leave payloads at nodes, and the table that says which callback
belongs to which rule and tag. -/

namespace RuleGrammar

/-- The payloads of nodes, by the identity of the node. -/
structure Payloads where
  byId : Std.TreeMap Nat Value := {}

namespace Payloads

def find? (payloads : Payloads) (m : Match) : Option Value :=
  payloads.byId[m.id]?

def isSet (payloads : Payloads) (m : Match) : Bool :=
  (payloads.find? m).isSome

/-- The payload of a node, null as long as there is none. -/
def made (payloads : Payloads) (m : Match) : Value :=
  (payloads.find? m).getD .null

def insert (payloads : Payloads) (m : Match) (value : Value) : Payloads :=
  ⟨payloads.byId.insert m.id value⟩

/-- The payloads in writing, by the identity of the node. -/
def shown (payloads : Payloads) (id : Nat) : Option Text :=
  payloads.byId[id]?.map Value.render

/-- Whether the payload of a node may be written. -/
def isWritableAt (payloads : Payloads) (m : Match) : Bool :=
  (payloads.made m).isWritable

/-- Whether the payloads of a node and of those below it may be written. -/
def areWritableIn (payloads : Payloads) (m : Match) : Bool :=
  m.walk.all payloads.isWritableAt

end Payloads

/-- What an action may fail with. A node takes only one payload. -/
inductive ActionFault
  | alreadyMade (node : Text)
  | badValue
  | badType
  | missingKey
  | missingIndex
  | notANode
  | overflow
deriving DecidableEq

namespace ActionFault

def message : ActionFault → Text
  | alreadyMade node => "payload of " ++ node ++ " already made"
  | badValue => "bad value"
  | badType => "bad type"
  | missingKey => "missing key"
  | missingIndex => "missing index"
  | notANode => "not a node"
  | overflow => "overflow"

end ActionFault

/-- What actions leave behind: the payloads, and the nodes whose callback was called, the last
one first. -/
structure ActionState where
  payloads : Payloads := {}
  called : List Match := []

/-- A step of acting. A fault keeps the state that it found. -/
abbrev ActionM := EStateM ActionFault ActionState

/-- What is done at a node of a subject. -/
abbrev Callback := Subject → Match → ActionM Unit

/-- Leaves a payload at a node, which must not have one. -/
def make (subject : Subject) (m : Match) (value : Value) : ActionM Unit := do
  if (← get).payloads.isSet m then throw (.alreadyMade (m.describe subject))
  else modify fun s => { s with payloads := s.payloads.insert m value }

/-- The payload of a node as it stands. -/
def madeOf (m : Match) : ActionM Value := do
  return (← get).payloads.made m

/-- Callbacks by rule and tag. A rule without tag and a rule with an empty one differ. -/
structure ActionTable where
  rows : List ((Name × Option Name) × Callback) := []

namespace ActionTable

/-- Rows with the callback of a key replaced in place, or a new row at the end. -/
def setRow (key : Name × Option Name) (callback : Callback)
    : List ((Name × Option Name) × Callback) → List ((Name × Option Name) × Callback)
  | [] => [(key, callback)]
  | row :: rest =>
      if row.1 = key then (key, callback) :: rest else row :: setRow key callback rest

def register (table : ActionTable) (rule : Name) (tag : Option Name) (callback : Callback)
    : ActionTable :=
  ⟨setRow (rule, tag) callback table.rows⟩

def lookup (table : ActionTable) (rule : Name) (tag : Option Name) : Option Callback :=
  (table.rows.find? (·.1 = (rule, tag))).map (·.2)

def contains (table : ActionTable) (rule : Name) (tag : Option Name) : Bool :=
  (table.lookup rule tag).isSome

def size (table : ActionTable) : Nat :=
  table.rows.length

/-- The texts before and after the first double underscore. -/
def splitMember : Text → Text × Text
  | [] => ([], [])
  | c :: rest =>
      if c = CodePoint.ofChar '_' && rest.head? = some (CodePoint.ofChar '_') then
        ([], rest.drop 1)
      else
        let (rule, tag) := splitMember rest
        (c :: rule, tag)

/-- The key of a member's name: `rule` or `rule__tag`. -/
def memberKey (name : Text) : Name × Option Name :=
  let (rule, tag) := splitMember name
  (rule, if tag.isEmpty then none else some tag)

/-- The table of the public members of an object that can be called, taken in the order of
their names. A name that starts with an underscore is private. -/
def ofMembers (members : List (Text × Option Callback)) : ActionTable :=
  (members.mergeSort fun a b => Text.le a.1 b.1).foldl (fun table member =>
    match member.2 with
    | none => table
    | some callback =>
        if member.1.head? = some (CodePoint.ofChar '_') then table
        else
          let (rule, tag) := memberKey member.1
          table.register rule tag callback) {}

end ActionTable

end RuleGrammar
