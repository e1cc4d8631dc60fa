import RuleGrammar.Proofs.Grammar.Checked

/-! The names that matching can come to from a name: those that the rules of an entry mention,
and white space for rules that try it. Names that stand for something form such a set of their own
in a grammar that was checked.
-/

namespace RuleGrammar.Grammar

/-- No rule that a name among these may apply calls any other name. -/
structure Closed (g : Grammar) (among : Name → Prop) : Prop where
  calls
    : ∀ {name entry rule callee capture},
        among name
        → g.lookup name = some entry
        → rule ∈ entry.rules
        → (Expr.reference callee capture).Part rule.expr
        → among callee
  space
    : ∀ {name entry rule},
        among name
        → g.lookup name = some entry
        → rule ∈ entry.rules
        → rule.sigspace = true
        → among "ws"

/-- The names that matching can come to from a start: the smallest closed set that it is in. -/
inductive Reached (g : Grammar) (start : Name) : Name → Prop
  | start : g.Reached start start
  | called {name entry rule callee capture} (before : g.Reached start name)
    (found : g.lookup name = some entry) (member : rule ∈ entry.rules)
    (reference : (Expr.reference callee capture).Part rule.expr)
    : g.Reached start callee
  | space {name entry rule} (before : g.Reached start name)
    (found : g.lookup name = some entry) (member : rule ∈ entry.rules)
    (sigspace : rule.sigspace = true)
    : g.Reached start "ws"

theorem Reached.closed (g : Grammar) (start : Name) : g.Closed (g.Reached start) where
  calls := .called
  space := .space

/-- A closed set with the start in it has all names in it that are reached, by induction on how
they are.
-/
theorem Reached.among {g : Grammar} {start name : Name} {among : Name → Prop}
    (closed : g.Closed among) (here : among start) (reached : g.Reached start name)
    : among name := by
  induction reached with
  | start => exact here
  | called _ found member reference before => exact closed.calls before found member reference
  | space _ found member sigspace before => exact closed.space before found member sigspace

/-- A name that stands for something in a grammar. -/
def Stands (g : Grammar) (name : Name) : Prop :=
  ∃ entry, g.lookup name = some entry

variable {g : Grammar} {name : Name} {entry : Entry} {rule : Rule}

/-- What was checked of a grammar was checked of every part of what its names may apply. -/
theorem checkExpr_of_checkRules (checked : g.checkRules = .ok ())
    (found : g.lookup name = some entry) (member : rule ∈ entry.rules) {part : Expr}
    (inside : part.Part rule.expr)
    : g.checkExpr rule part = .ok () :=
  checkExpr_of_part inside (forM_eq_ok (forM_eq_ok checked (mem_ruleTable_of_lookup found)) member)

/-- In a checked grammar the names that stand for something call no others. -/
theorem closed_of_checkRules (checked : g.checkRules = .ok ()) : g.Closed g.Stands where
  calls {_ _ _ callee _} _ found member reference := by
    have contains := checkExpr_of_checkRules checked found member reference
    simp only [checkExpr] at contains
    cases stands : g.lookup callee with
    | some entry => exact ⟨entry, stands⟩
    | none => simp [Grammar.contains, stands] at contains
  space _ _ _ _ := exists_lookup_ws g

/-- In a checked grammar only alternatives match their tags. -/
theorem tag_of_checkRules (checked : g.checkRules = .ok ())
    (found : g.lookup name = some entry) (member : rule ∈ entry.rules)
    (sym : Expr.sym.Part rule.expr)
    : rule.tag ≠ none := by
  intro plain
  have tagged := checkExpr_of_checkRules checked found member sym
  simp [checkExpr, plain] at tagged

/-- A grammar that inherits from another looks up there what its own layer does not define. -/
theorem lookup_of_inherited {layer : Layer} (undefined : layer.find? name = none)
    : lookup ⟨layer, g.lineage⟩ name = g.lookup name := by
  simp only [lookup, lineage, lookupAlong, undefined]

end RuleGrammar.Grammar
