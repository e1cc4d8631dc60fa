import RuleGrammar.Grammar.Program

/-! Grammars under construction. A registry keeps the layers of grammars that still change; a
grammar sees the present layers of those it inherits from, which are always older. -/

namespace RuleGrammar

/-- A grammar in a registry: its layer, and the number of the grammar it inherits from. -/
structure RegistryNode where
  layer : Layer
  parent : Option Nat := none

/-- Grammars by number, the newest first. -/
structure Registry where
  nodes : List RegistryNode := []

namespace Registry

/-- The layers of a grammar, nearest first. A parent is sought among the older grammars only,
so the way up ends. -/
def lineageIn : List RegistryNode → Nat → List Layer
  | [], _ => []
  | node :: older, id =>
      if id = older.length then
        node.layer ::
          (match node.parent with
          | none => []
          | some parent => lineageIn older parent)
      else lineageIn older id

/-- The grammar of a number as it is now. -/
def grammar? (registry : Registry) (id : Nat) : Option Grammar :=
  match lineageIn registry.nodes id with
  | [] => none
  | own :: ancestors => some ⟨own, ancestors⟩

/-- Adds a grammar under the next number. -/
def add (registry : Registry) (layer : Layer) (parent : Option Nat) : Nat × Registry :=
  (registry.nodes.length, ⟨⟨layer, parent⟩ :: registry.nodes⟩)

/-- The nodes with the layer of one of them replaced. -/
def setLayerIn (layer : Layer) (id : Nat) : List RegistryNode → List RegistryNode
  | [] => []
  | node :: older =>
      if id = older.length then { node with layer } :: older
      else node :: setLayerIn layer id older

def setLayer (registry : Registry) (id : Nat) (layer : Layer) : Registry :=
  ⟨setLayerIn layer id registry.nodes⟩

/-- Adds a rule to a grammar. -/
def register (registry : Registry) (id : Nat) (grammar : Grammar) (name : Name) (rule : Rule)
    : Except GrammarError (Rule × Registry) := do
  let (rule, layer) ← grammar.own.register name rule
  return (rule, registry.setLayer id layer)

/-- Adds an alternative to a group of a grammar. -/
def addAlternative (registry : Registry) (id : Nat) (grammar : Grammar) (group tag : Name)
    (rule : Rule) : Except GrammarError (Rule × Registry) := do
  let (rule, layer) ← grammar.own.addAlternative group tag rule
  return (rule, registry.setLayer id layer)

/-- Declares a group in a grammar. -/
def declareProto (registry : Registry) (id : Nat) (grammar : Grammar) (name : Name)
    : ProtoGroup × Registry :=
  let (group, layer) := grammar.own.declareProto name
  (group, registry.setLayer id layer)

/-- Grammars of a registry by name. -/
abbrev Names := List (Name × Nat)

def Names.find? (names : Names) (name : Name) : Option Nat :=
  (List.find? (fun row => row.1 = name) names).map (·.2)

/-- Adds declared grammars in order; each inherits from one declared before it, or from one of
the known ones. -/
def addAll (known : Names) : Registry → Names → List Notation.Declaration → Names × Registry
  | registry, declared, [] => (declared, registry)
  | registry, declared, d :: rest =>
      let parent := d.parent.bind fun name => (declared.find? name).or (known.find? name)
      let (id, registry) := registry.add d.layer parent
      addAll known registry (declared ++ [(d.name, id)]) rest

/-- Adds the grammars that a source declares, which have to be valid if asked for. -/
def load (registry : Registry) (known : Names) (source : Text) (validate : Bool)
    : Except Notation.Error (Names × Registry) := do
  let declarations ← Notation.read (known.map (·.1)) source
  let (declared, registry) := addAll known registry [] declarations
  if validate then
    match Grammars.validate
        (declared.filterMap fun row => (registry.grammar? row.2).map (row.1, ·)) with
    | .ok () => return (declared, registry)
    | .error error => throw (.grammar error)
  else return (declared, registry)

end Registry

end RuleGrammar
