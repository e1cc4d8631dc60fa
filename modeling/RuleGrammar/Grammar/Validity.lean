import RuleGrammar.Grammar.LeftRecursion

/-! When a grammar is valid: every name that a rule mentions stands for something, tags are
matched in alternatives only, and no calls at the left edge form a cycle. -/

namespace RuleGrammar

namespace Grammar

mutual

/-- Checks the names and tags that an expression of a rule mentions, outermost first. -/
def checkExpr (g : Grammar) (rule : Rule) : Expr → Except GrammarError Unit
  | .literal _ | .charClass _ | .anyChar | .anchor _ => .ok ()
  | .reference name _ =>
      if g.contains name then .ok () else .error (.unknownRule name g.name)
  | .sym =>
      if rule.tag.isSome then .ok () else .error (.symOutsideAlternative rule.name)
  | .lookahead body _ => checkExpr g rule body
  | .repetition body _ _ sep _ => do
      checkExpr g rule body
      checkOption g rule sep
  | .sequence items => checkList g rule items
  | .choice alternatives => checkList g rule alternatives
  | .longest alternatives => checkList g rule alternatives
  | .goal opener closer body => do
      checkExpr g rule opener
      checkExpr g rule closer
      checkExpr g rule body
  | .capture body _ => checkExpr g rule body

def checkList (g : Grammar) (rule : Rule) : List Expr → Except GrammarError Unit
  | [] => .ok ()
  | e :: rest => do
      checkExpr g rule e
      checkList g rule rest

def checkOption (g : Grammar) (rule : Rule) : Option Expr → Except GrammarError Unit
  | none => .ok ()
  | some e => checkExpr g rule e

end

/-- Checks the bodies of every name's rules. -/
def checkRules (g : Grammar) : Except GrammarError Unit :=
  g.ruleTable.forM fun row => row.2.forM fun rule => g.checkExpr rule rule.expr

/-- Checks a grammar: first what its rules mention, then that it has no left recursion. -/
def validate (g : Grammar) : Except GrammarError Unit := do
  g.checkRules
  match g.leftCycle with
  | [] => .ok ()
  | cycle => .error (.leftRecursion g.name cycle)

end Grammar

end RuleGrammar
