import RuleGrammar.Action.Stock
import RuleGrammar.Json.Grammar
import RuleGrammar.Matcher.Parse

/-! The values of JSON texts: actions that build them from a match, and reading a text as a
value. -/

namespace RuleGrammar.Json

open StockAction (orFault)

/-- A value, or the fault that stands in its place. -/
def orThrow {α : Type} : Except ActionFault α → ActionM α
  | .ok a => return a
  | .error fault => throw fault

/-- The node captured under a name. -/
def nodeOf (m : Match) (name : String) : ActionM Match := do
  match m.get? name with
  | some (.single _ child) => return child
  | some (.listed _ _) => throw .notANode
  | none => throw .missingKey

/-- The nodes of the list captured under a name; a single node stands for those that it captured
by position. -/
def nodesOf (m : Match) (name : String) : ActionM (List Match) := do
  match m.get? name with
  | some (.single _ child) => return child.positional
  | some (.listed _ children) => return children
  | none => throw .missingKey

/-- Leaves the payload of the node captured under a name. -/
def passOn (name : String) : Callback := fun subject m => do
  make subject m (← madeOf (← nodeOf m name))

/-- Leaves the payload of the first child. -/
def passOnFirst : Callback := fun subject m => do
  match m.children with
  | [] => throw .missingIndex
  | first :: _ => make subject m (← madeOf first)

/-- Leaves the payloads of the nodes captured under a name. -/
def collect (name : String) : Callback := fun subject m => do
  make subject m (.list (← (← nodesOf m name).mapM madeOf))

/-- Leaves a value. -/
def leave (value : Value) : Callback := fun subject m => make subject m value

/-- A key and a value, which an item has to yield and nothing more. -/
def entryOf (item : Value) : Except ActionFault (Value × Value) :=
  match item.items? with
  | none => throw .badType
  | some [key, value] => if key.isKey then return (key, value) else throw .badType
  | some _ => throw .badValue

/-- The dictionary of the pairs that a value yields. A dictionary is one already. -/
def dictOf (value : Value) : Except ActionFault Value :=
  match value, value.items? with
  | .dict entries, _ => return .dict entries
  | _, some items => do return .ofEntries (← items.mapM entryOf)
  | _, none => throw .badType

/-- Leaves the dictionary of the pairs below. -/
def buildObject : Callback := fun subject m => do
  make subject m (← orThrow (dictOf (← madeOf (← nodeOf m "pairlist"))))

/-- Leaves a pair of key and value. -/
def buildPair : Callback := fun subject m => do
  let key ← madeOf (← nodeOf m "string")
  let value ← madeOf (← nodeOf m "value")
  make subject m (.tuple [key, value])

/-- Whether a number is written with a fraction or an exponent. -/
def isFraction (lexeme : Text) : Bool :=
  lexeme.any fun c => c = CodePoint.ofChar '.' || c = CodePoint.ofChar 'e'
    || c = CodePoint.ofChar 'E'

/-- The value of a number: exact, or as a double if it has a fraction or an exponent. -/
def numberValue (lexeme : Text) : Option Value :=
  if isFraction lexeme then (Double.read? lexeme).map .float
  else (Numeral.readInt? lexeme).map .int

def buildNumber : Callback := fun subject m => do
  make subject m (← orFault .badValue (numberValue (m.text subject)))

/-- The text of a payload that is one. -/
def textOf : Value → Option Text
  | .text t => some t
  | _ => none

/-- Leaves the texts of the parts in one. -/
def buildString : Callback := fun subject m => do
  let parts ← m.children.mapM madeOf
  make subject m (.text (← orFault .badType (parts.mapM textOf)).flatten)

/-- The code point that a letter or mark after a backslash stands for. -/
def escapes : List (Char × Char) :=
  [('"', '"'), ('\\', '\\'), ('/', '/'), ('b', '\x08'), ('f', '\x0c'), ('n', '\n'),
    ('r', '\r'), ('t', '\t')]

/-- The code point of a number. Numbers far beyond all code points are an overflow. -/
def pointOf (n : Int) : Except ActionFault CodePoint :=
  if n < -0x80000000 || 0x7fffffff < n then throw .overflow
  else
    match (if n < 0 then none else CodePoint.ofNat? n.toNat) with
    | some point => return point
    | none => throw .badValue

/-- The text that an escape without its backslash stands for. -/
def escapeValue (body : Text) : Except ActionFault Text :=
  match body with
  | [] => .error .missingIndex
  | c :: rest =>
      if c = CodePoint.ofChar 'u' then
        match Numeral.readHex? rest with
        | some n => (pointOf n).map ([·])
        | none => .error .badValue
      else
        match escapes.find? fun pair => body = [CodePoint.ofChar pair.1] with
        | some pair => .ok [CodePoint.ofChar pair.2]
        | none => .error .missingKey

def buildEscape : Callback := fun subject m => do
  make subject m (.text (← orThrow (escapeValue ((m.text subject).drop 1))))

/-- The actions that build the value of a JSON text, each under the name of its rule and tag. -/
def members : List (Text × Option Callback) :=
  [("TOP", some passOnFirst), ("object", some buildObject),
    ("pairlist", some (collect "pair")), ("pair", some buildPair),
    ("array", some (passOn "arraylist")), ("arraylist", some (collect "value")),
    ("value__number", some buildNumber), ("value__true", some (leave (.bool true))),
    ("value__false", some (leave (.bool false))), ("value__null", some (leave .null)),
    ("value__object", some (passOn "object")), ("value__array", some (passOn "array")),
    ("value__string", some (passOn "string")), ("string", some buildString),
    ("str", some fun subject m => make subject m (.text (m.text subject))),
    ("str_escape", some buildEscape)]

def actions : ActionTable :=
  .ofMembers members

/-- Why a text has no value. -/
inductive DecodeError
  | fault (fault : Fault)
  | failed (failure : Failure)
  | action (fault : ActionFault)

/-- The value of a text in a grammar of JSON, matched as a configuration asks. -/
def decodeWith (config : MatchConfig) (g : Grammar) (text : Text) : Except DecodeError Value :=
  let subject := Subject.ofText text
  match parse { grammar := g, subject, config } "TOP" true with
  | .error fault => .error (.fault fault)
  | .ok (.failed failure) => .error (.failed failure)
  | .ok (.matched root) =>
      match applyActions subject actions root {} with
      | .error fault _ => .error (.action fault)
      | .ok _ state => .ok (state.payloads.made root)

/-- The value of a text in a grammar of JSON. -/
def decode (g : Grammar) (text : Text) : Except DecodeError Value :=
  decodeWith {} g text

end RuleGrammar.Json
