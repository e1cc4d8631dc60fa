import RuleGrammar.Grammar.Validity
import RuleGrammar.Notation.Document

/-! Programs: the grammars that one source declares, in order. -/

namespace RuleGrammar

/-- Grammars by name. -/
abbrev Grammars := List (Name × Grammar)

namespace Grammars

def find? (grammars : Grammars) (name : Name) : Option Grammar :=
  (List.find? (fun row => row.1 = name) grammars).map (·.2)

/-- The grammar of a declaration, whose parent is sought among those declared before it and then
among the others. -/
def link (known declared : Grammars) (d : Notation.Declaration) : Grammar :=
  match d.parent.bind fun name => (declared.find? name).or (known.find? name) with
  | some parent => ⟨d.layer, parent.lineage⟩
  | none => ⟨d.layer, []⟩

/-- The grammars of all declarations, in order. -/
def linkAll (known : Grammars) (declarations : List Notation.Declaration) : Grammars :=
  declarations.foldl (fun declared d => declared ++ [(d.name, link known declared d)]) []

/-- The grammars that a source declares. -/
def read (known : Grammars) (source : Text) : Except Notation.Error Grammars := do
  let declarations ← Notation.read (known.map (·.1)) source
  return linkAll known declarations

/-- Checks every grammar in order. -/
def validate (grammars : Grammars) : Except GrammarError Unit :=
  grammars.forM fun row => row.2.validate

/-- The grammars that a source declares, all of them valid. -/
def load (known : Grammars) (source : Text) : Except Notation.Error Grammars := do
  let grammars ← read known source
  match grammars.validate with
  | .ok () => return grammars
  | .error error => throw (.grammar error)

/-- The grammar declared last. -/
def main? (grammars : Grammars) : Option Grammar :=
  grammars.getLast?.map (·.2)

end Grammars

end RuleGrammar
