import RuleGrammar.Grammar.Rule

/-! Grammars. A grammar has a table of its own, called its layer, and the layers it inherits,
nearest first. Names are looked up along the layers and then among the built-in rules; the
groups of a name merge along the layers, so that the nearest alternative of a tag wins. -/

namespace RuleGrammar

/-- The table of one grammar, in order of declaration. -/
structure Layer where
  name : Name
  entries : List (Name × Entry) := []

namespace Layer

/-- The entry of a name in a list of entries. -/
def lookupIn (name : Name) : List (Name × Entry) → Option Entry
  | [] => none
  | (key, entry) :: rest => if key = name then some entry else lookupIn name rest

/-- The entries with one put in place of that of its name, or at the end. -/
def insertIn (name : Name) (entry : Entry) : List (Name × Entry) → List (Name × Entry)
  | [] => [(name, entry)]
  | (key, old) :: rest =>
      if key = name then (name, entry) :: rest else (key, old) :: insertIn name entry rest

def find? (layer : Layer) (name : Name) : Option Entry :=
  lookupIn name layer.entries

def insert (layer : Layer) (name : Name) (entry : Entry) : Layer :=
  { layer with entries := insertIn name entry layer.entries }

def names (layer : Layer) : List Name :=
  layer.entries.map (·.1)

/-- Adds an alternative to a group, which is declared if the name is free. A plain rule of that
name is in the way. -/
def addAlternative (layer : Layer) (group tag : Name) (rule : Rule)
    : Except GrammarError (Rule × Layer) :=
  let alternative := { rule with name := group, tag := some tag }
  match layer.find? group with
  | some (.rule _) => .error (.plainRule group layer.name tag)
  | some (.group known) =>
      .ok (alternative, layer.insert group (.group (known.withAlternative alternative)))
  | none =>
      let fresh : ProtoGroup := { name := group }
      .ok (alternative, layer.insert group (.group (fresh.withAlternative alternative)))

/-- Makes a rule the entry of a name, or adds it to the group of that name if it has a tag. -/
def register (layer : Layer) (name : Name) (rule : Rule)
    : Except GrammarError (Rule × Layer) :=
  let named := { rule with name := name }
  match named.tag with
  | some tag => layer.addAlternative name tag named
  | none => .ok (named, layer.insert name (.rule named))

/-- Declares a group. One that is there stays; a plain rule of that name gives way. -/
def declareProto (layer : Layer) (name : Name) : ProtoGroup × Layer :=
  match layer.find? name with
  | some (.group known) => (known, layer)
  | _ =>
      let fresh : ProtoGroup := { name }
      (fresh, layer.insert name (.group fresh))

end Layer

/-- Names with the rules that each may apply. -/
abbrev RuleTable := List (Name × List Rule)

/-- A grammar: its own layer and those it inherits, nearest first. -/
structure Grammar where
  own : Layer
  ancestors : List Layer := []

namespace Grammar

/-- A token for the table of built-in rules. -/
def builtin (name : String) (expr : Expr) : Rule :=
  { name := name, expr }

/-- A class of one backslash class. -/
def escapeClass (escape : ClassEscape) : Expr :=
  .charClass { escapes := [escape] }

/-- The rules that every grammar can fall back on. -/
def builtins : List Rule :=
  [builtin "ws" (.repetition (escapeClass .space) 0 none none false),
    builtin "alpha" (.charClass { singles := "_", props := ["L"] }),
    builtin "digit" (escapeClass .digit),
    builtin "alnum" (.charClass { singles := "_", escapes := [.digit], props := ["L"] }),
    builtin "xdigit" (.charClass { ranges := [('0', '9'), ('A', 'F'), ('a', 'f')] }),
    builtin "space" (escapeClass .space),
    builtin "upper" (.charClass { props := ["Lu"] }),
    builtin "lower" (.charClass { props := ["Ll"] }),
    builtin "ident" (.sequence
      [.reference "alpha" none, .repetition (escapeClass .word) 0 none none false])]

def builtin? (name : Name) : Option Rule :=
  builtins.find? (·.name = name)

def name (g : Grammar) : Name :=
  g.own.name

/-- The layers from the grammar's own to the oldest. -/
def lineage (g : Grammar) : List Layer :=
  g.own :: g.ancestors

/-- The grammar inherited from. -/
def parent? (g : Grammar) : Option Grammar :=
  match g.ancestors with
  | [] => none
  | layer :: older => some ⟨layer, older⟩

/-- A grammar without rules of its own that inherits from another. -/
def derive (parent : Grammar) (name : Name) : Grammar :=
  ⟨{ name }, parent.lineage⟩

/-- The groups of a name in these layers, nearest first, up to the first plain rule. -/
def groupsAlong (name : Name) : List Layer → List ProtoGroup
  | [] => []
  | layer :: older =>
      match layer.find? name with
      | none => groupsAlong name older
      | some (.rule _) => []
      | some (.group group) => group :: groupsAlong name older

/-- A group with the older ones of its name merged in: the oldest is extended by the next one,
and so on down to the group itself. -/
def mergeGroups (nearest : ProtoGroup) : List ProtoGroup → ProtoGroup
  | [] => nearest
  | older :: oldest => (mergeGroups older oldest).extended nearest

/-- The entry of a name in these layers, nearest first. -/
def lookupAlong (name : Name) : List Layer → Option Entry
  | [] => (builtin? name).map .rule
  | layer :: older =>
      match layer.find? name with
      | none => lookupAlong name older
      | some (.rule rule) => some (.rule rule)
      | some (.group group) => some (.group (mergeGroups group (groupsAlong name older)))

/-- What a name stands for in the grammar. -/
def lookup (g : Grammar) (name : Name) : Option Entry :=
  lookupAlong name g.lineage

/-- What a name stands for, which must be something. -/
def resolve (g : Grammar) (name : Name) : Except GrammarError Entry :=
  match g.lookup name with
  | some entry => .ok entry
  | none => .error (.unknownRule name g.name)

def contains (g : Grammar) (name : Name) : Bool :=
  (g.lookup name).isSome

/-- The names of all layers, the oldest layer first, each name once. -/
def names (g : Grammar) : List Name :=
  Expr.distinct (g.lineage.reverse.flatMap Layer.names)

/-- The names of all layers and then those of the built-in rules. -/
def allNames (g : Grammar) : List Name :=
  Expr.distinct (g.lineage.reverse.flatMap Layer.names ++ builtins.map (·.name))

/-- A short description: name, parent and the number of own entries. -/
def describe (g : Grammar) : Text :=
  "<Grammar " ++ g.name
    ++ (match g.ancestors with
      | [] => ([] : Text)
      | layer :: _ => " is " ++ layer.name)
    ++ " rules=" ++ Text.ofNat g.own.entries.length ++ ">"

/-- Every name with the rules it may apply, built-in ones included. -/
def ruleTable (g : Grammar) : RuleTable :=
  g.allNames.map fun name => (name, match g.lookup name with
    | some entry => entry.rules
    | none => [])

end Grammar

end RuleGrammar
