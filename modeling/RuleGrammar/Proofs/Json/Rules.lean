import RuleGrammar.Json.Grammar
import RuleGrammar.Proofs.Grammar.Built
import RuleGrammar.Proofs.Grammar.Checked
import RuleGrammar.Proofs.Grammar.LeftRank
import RuleGrammar.Proofs.Text.Order

/-! The rules of the two grammars of JSON texts. Both are valid, and they stand for the same under
all names but that of white space.
-/

namespace RuleGrammar

/-- The rules of a layer in order, the alternatives of its groups among them. -/
def Layer.rules (layer : Layer) : List Rule :=
  layer.entries.flatMap fun row => row.2.rules

/-- A layer with some rules registered in it. -/
def Layer.registerAll (layer : Layer) (rules : List Rule) : Except GrammarError Layer :=
  rules.foldlM (fun layer rule => (layer.register rule.name rule).map Prod.snd) layer

/-- Registering rules in a layer that was built gives one that was, by induction on them. -/
theorem Layer.Built.registerAll {layer next : Layer} (built : layer.Built) {rules : List Rule}
    (done : layer.registerAll rules = .ok next)
    : next.Built := by
  induction rules generalizing layer with
  | nil =>
      cases done
      exact built
  | cons rule rest ih =>
      unfold Layer.registerAll at done
      rw [List.foldlM_cons] at done
      cases first : layer.register rule.name rule with
      | error error =>
          rw [first] at done
          cases done
      | ok result =>
          rw [first] at done
          exact ih (.registered built first) done

/-- The names that may be called first, inserted in order, which evaluates in the kernel. -/
theorem RuleTable.leftEdges_eq (table : RuleTable) (nullable : List Name)
    : table.leftEdges nullable
      = fun name =>
          (Expr.distinct (((table.rulesOf name).flatMap fun rule =>
            rule.expr.leftCalls nullable rule.sigspace).filter
              table.names.contains)).insertionSort Text.Precedes :=
  funext fun _ => Text.sorted_eq_insertionSort _

namespace Json

theorem grammar_built : grammar.Built := by
  intro layer member
  obtain rfl := List.mem_singleton.mp member
  have done : Layer.registerAll { name := "JSON" } grammar.own.rules = .ok grammar.own := rfl
  exact Layer.Built.registerAll (.empty "JSON") done

theorem commentedGrammar_built : commentedGrammar.Built := by
  intro layer member
  rcases List.mem_cons.mp member with rfl | inherited
  · have done : Layer.registerAll { name := "JSONC" } commentedGrammar.own.rules
        = .ok commentedGrammar.own := rfl
    exact Layer.Built.registerAll (.empty "JSONC") done
  · exact grammar_built layer inherited

theorem grammar_valid : grammar.validate = .ok () := by
  have checked : grammar.checkRules = .ok () := by decide +kernel
  have acyclic : grammar.leftCycle = [] := by
    rw [Grammar.leftCycle, RuleTable.leftCycle?, RuleTable.leftEdges_eq]
    decide +kernel
  rw [Grammar.validate, checked, acyclic]
  rfl

theorem commentedGrammar_valid : commentedGrammar.validate = .ok () := by
  have checked : commentedGrammar.checkRules = .ok () := by decide +kernel
  have acyclic : commentedGrammar.leftCycle = [] := by
    rw [Grammar.leftCycle, RuleTable.leftCycle?, RuleTable.leftEdges_eq]
    decide +kernel
  rw [Grammar.validate, checked, acyclic]
  rfl

theorem grammar_compiles
    : ∀ rule ∈ grammar.visibleRules, ∀ cls ∈ rule.expr.classes, cls.fault? = none := by
  decide +kernel

theorem commentedGrammar_compiles
    : ∀ rule ∈ commentedGrammar.visibleRules, ∀ cls ∈ rule.expr.classes,
        cls.fault? = none := by
  decide +kernel

/-- A grammar that differs from that of JSON texts in its white space only. -/
structure Speaks (g : Grammar) : Prop where
  built : g.Built
  valid : g.validate = .ok ()
  compiles : ∀ rule ∈ g.visibleRules, ∀ cls ∈ rule.expr.classes, cls.fault? = none
  same : ∀ name : Name, name ≠ "ws" → g.lookup name = grammar.lookup name

theorem speaks_grammar : Speaks grammar where
  built := grammar_built
  valid := grammar_valid
  compiles := grammar_compiles
  same _ _ := rfl

theorem speaks_commentedGrammar : Speaks commentedGrammar where
  built := commentedGrammar_built
  valid := commentedGrammar_valid
  compiles := commentedGrammar_compiles
  same name other := by
    have absent : commentedGrammar.own.find? name = none := by
      have differs : ¬ Text.ofString "ws" = name := fun same => other same.symm
      exact if_neg differs
    change Grammar.lookupAlong name (commentedGrammar.own :: grammar.lineage) = _
    rw [Grammar.lookupAlong, absent]
    rfl

theorem Speaks.faultless {g : Grammar} (speaks : Speaks g) : g.Faultless :=
  Grammar.faultless_of_checkRules (Grammar.checks_of_validate speaks.valid).1 speaks.compiles

end Json

end RuleGrammar
