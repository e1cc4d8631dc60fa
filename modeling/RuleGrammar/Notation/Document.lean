import RuleGrammar.Grammar.Basic
import RuleGrammar.Notation.Body

/-! Grammar declarations in notation, and the grammars that a source declares. -/

namespace RuleGrammar.Notation

open Reader

/-- A declared grammar: its layer and the name it inherits from. -/
structure Declaration where
  parent : Option Name
  layer : Layer

def Declaration.name (d : Declaration) : Name :=
  d.layer.name

/-- The kind of the rules of a group, which is read and has no effect. -/
def ruleKind : Reader RuleKind := do
  let word ← identifier
  match RuleKind.ofKeyword? word with
  | some kind => return kind
  | none => fail (.expectedKind word)

/-- A group declaration after its keyword. -/
def protoDeclaration (layer : Layer) : Reader Layer := do
  let _ ← ruleKind
  let name ← identifier
  eat "\x7b"
  unless ← tryEat "*" do
    eat "<...>"
  eat "\x7d"
  return (layer.declareProto name).2

/-- The tag right after a rule's name, if it has one; it runs up to the next closing angle
bracket. -/
def ruleTag : Reader (Option Name) := do
  if ← starts ":sym<" then
    bump 5
    fun cursor =>
      if cursor.rest.contains (CodePoint.ofChar '>') then
        let tag := cursor.rest.takeWhile (· ≠ CodePoint.ofChar '>')
        .ok (some tag, ⟨cursor.offset + tag.length + 1, cursor.rest.drop (tag.length + 1)⟩)
      else .error (.malformed cursor.offset .unterminatedTag)
  else
    return none

/-- A rule declaration after its keyword. A plain rule may not be declared twice in a row. -/
def ruleDeclaration (layer : Layer) (kind : RuleKind) : Reader Layer := do
  let name ← identifier
  let tag ← ruleTag
  eat "\x7b"
  let expr ← body
  eat "\x7d"
  match tag, layer.find? name with
  | none, some (.rule _) => fail (.duplicateRule name)
  | _, _ =>
      match layer.register name { name, expr, kind, tag } with
      | .ok (_, layer) => return layer
      | .error error => throw (.grammar error)

def declaration (layer : Layer) : Reader Layer := do
  let word ← identifier
  if word = Text.ofString "proto" then protoDeclaration layer
  else
    match RuleKind.ofKeyword? word with
    | some kind => ruleDeclaration layer kind
    | none => fail (.expectedRule word)

/-- The declarations of a grammar up to its closing brace. -/
def declarations : Nat → Layer → Reader Layer
  | 0, layer => fail (.unclosedGrammar layer.name)
  | round + 1, layer => do
      if ← tryEat "\x7d" then return layer
      else if (← peek).isNone then fail (.unclosedGrammar layer.name)
      else
        let layer ← declaration layer
        declarations round layer

/-- The name of the grammar inherited from, which has to be known. -/
def parentName (known : List Name) : Reader (Option Name) := do
  if ← keyword "is" then
    let name ← qualifiedName
    if known.contains name then return some name
    else fail (.unknownParent name)
  else
    return none

/-- One grammar. The names known are those it may inherit from, those declared are taken. -/
def grammarDeclaration (known declared : List Name) : Reader Declaration := do
  unless ← keyword "grammar" do
    fail .expectedGrammar
  let name ← qualifiedName
  let parent ← parentName (known ++ declared)
  eat "\x7b"
  let layer ← declarations (← rounds) { name }
  let _ ← tryEat ";"
  if declared.contains name then fail (.duplicateGrammar name)
  else return { parent, layer }

/-- The grammars up to the end of the source, after those already read. -/
def grammarDeclarations (known : List Name)
    : Nat → List Declaration → Reader (List Declaration)
  | 0, read => return read
  | round + 1, read => do
      skipBlank
      if (← peek).isNone then return read
      else
        let next ← grammarDeclaration known (read.map Declaration.name)
        grammarDeclarations known round (read ++ [next])

def document (known : List Name) : Reader (List Declaration) := do
  let read ← grammarDeclarations known (← rounds) []
  if read.isEmpty then fail .noGrammar
  else return read

/-- The grammars that a source declares, when those of the given names may be inherited from
besides. -/
def read (known : List Name) (source : Text) : Except Error (List Declaration) :=
  match document known ⟨0, source⟩ with
  | .ok (declared, _) => .ok declared
  | .error fault => .error (.ofFault source fault)

end RuleGrammar.Notation
