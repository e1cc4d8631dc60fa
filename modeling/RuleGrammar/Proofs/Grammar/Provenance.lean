import RuleGrammar.Grammar.Registry
import RuleGrammar.Proofs.Grammar.Built
import RuleGrammar.Proofs.Notation.Declarations

/-! Where grammars come from. Those that are read from notation are built, and so are those of a
registry, however it is changed.
-/

namespace RuleGrammar

-----------------------------------------------------------------------------------------
-- Grammars that are read
-----------------------------------------------------------------------------------------

theorem Layer.Built.kept : Notation.Kept Layer.Built where
  empty := .empty
  declared name built := built.declared name
  registered _ built done := built.registered done

/-- Whatever a source declares is built. -/
theorem Notation.read_built {known : List Name} {source : Text} {declared : List Declaration}
    (done : read known source = .ok declared)
    : ∀ d ∈ declared, d.layer.Built :=
  Layer.Built.kept.read done

/-- A grammar without rules of its own is built if the one it inherits from is. -/
theorem Grammar.Built.derive {parent : Grammar} (built : parent.Built) (name : Name)
    : (parent.derive name).Built :=
  List.forall_mem_cons.mpr ⟨.empty name, built⟩

/-- The grammars that a source declares are built, if those that they may inherit from are. -/
theorem Grammars.read_built {known grammars : Grammars} {source : Text}
    (built : ∀ row ∈ known, row.2.Built) (done : Grammars.read known source = .ok grammars)
    : ∀ row ∈ grammars, row.2.Built :=
  lineage_of_read built (fun _ => Notation.read_built) done

-----------------------------------------------------------------------------------------
-- Registries
-----------------------------------------------------------------------------------------

namespace Registry

/-- All the layers of a registry are built. -/
def Built (registry : Registry) : Prop :=
  ∀ node ∈ registry.nodes, node.layer.Built

theorem built_empty : Registry.Built {} := by
  simp [Built]

variable {registry : Registry}

/-- The layers of a grammar are layers of the registry, by induction on its nodes. -/
theorem exists_node_of_mem_lineageIn {nodes : List RegistryNode} {id : Nat} {layer : Layer}
    (member : layer ∈ lineageIn nodes id)
    : ∃ node ∈ nodes, node.layer = layer := by
  induction nodes generalizing id with
  | nil => simp [lineageIn] at member
  | cons node older ih =>
      unfold lineageIn at member
      have deeper {id : Nat} (member : layer ∈ lineageIn older id)
          : ∃ other ∈ node :: older, other.layer = layer := by
        obtain ⟨other, inOlder, same⟩ := ih member
        exact ⟨other, List.mem_cons_of_mem _ inOlder, same⟩
      split at member
      · rcases List.mem_cons.mp member with rfl | inherited
        · exact ⟨node, by simp, rfl⟩
        · split at inherited
          · cases inherited
          · exact deeper inherited
      · exact deeper member

/-- The grammars of a built registry are built. -/
theorem Built.grammar (built : registry.Built) {id : Nat} {grammar : Grammar}
    (found : registry.grammar? id = some grammar)
    : grammar.Built := by
  intro layer member
  unfold grammar? at found
  split at found
  · cases found
  · rename_i own ancestors lineage
    cases found
    have inLineage : layer ∈ lineageIn registry.nodes id := by
      rw [lineage]
      exact member
    obtain ⟨node, inNodes, rfl⟩ := exists_node_of_mem_lineageIn inLineage
    exact built node inNodes

theorem Built.add (built : registry.Built) {layer : Layer} (own : layer.Built)
    (parent : Option Nat)
    : (registry.add layer parent).2.Built :=
  List.forall_mem_cons.mpr ⟨own, built⟩

/-- Putting a built layer in place of another keeps a registry built, by induction on its nodes. -/
theorem Built.setLayer (built : registry.Built) (id : Nat) {layer : Layer} (own : layer.Built)
    : (registry.setLayer id layer).Built := by
  have sets (nodes : List RegistryNode) (built : ∀ node ∈ nodes, node.layer.Built)
      : ∀ node ∈ setLayerIn layer id nodes, node.layer.Built := by
    induction nodes with
    | nil => simp [setLayerIn]
    | cons node older ih =>
        obtain ⟨here, later⟩ := List.forall_mem_cons.mp built
        unfold setLayerIn
        split
        · exact List.forall_mem_cons.mpr ⟨own, later⟩
        · exact List.forall_mem_cons.mpr ⟨here, ih later⟩
  exact sets registry.nodes built

section Changes

variable {id : Nat} {grammar : Grammar} {name tag : Name} {rule made : Rule} {next : Registry}

theorem Built.register (built : registry.Built) (own : grammar.Built)
    (done : registry.register id grammar name rule = .ok (made, next))
    : next.Built := by
  unfold Registry.register at done
  cases ran : grammar.own.register name rule with
  | error error =>
      rw [ran] at done
      cases done
  | ok result =>
      rw [ran] at done
      cases done
      exact built.setLayer id (.registered (own grammar.own (by simp [Grammar.lineage])) ran)

theorem Built.addAlternative (built : registry.Built) (own : grammar.Built)
    (done : registry.addAlternative id grammar name tag rule = .ok (made, next))
    : next.Built := by
  unfold Registry.addAlternative at done
  cases ran : grammar.own.addAlternative name tag rule with
  | error error =>
      rw [ran] at done
      cases done
  | ok result =>
      rw [ran] at done
      cases done
      exact built.setLayer id (.extended (own grammar.own (by simp [Grammar.lineage])) ran)

theorem Built.declareProto (built : registry.Built) (own : grammar.Built)
    : (registry.declareProto id grammar name).2.Built :=
  built.setLayer id (.declared (own grammar.own (by simp [Grammar.lineage])) name)

end Changes

/-- Adding declared grammars keeps a registry built, by induction on the declarations. -/
theorem Built.addAll (built : registry.Built) (known declared : Names)
    {declarations : List Notation.Declaration} (own : ∀ d ∈ declarations, d.layer.Built)
    : (addAll known registry declared declarations).2.Built := by
  induction declarations generalizing registry declared with
  | nil => exact built
  | cons d rest ih =>
      obtain ⟨here, later⟩ := List.forall_mem_cons.mp own
      exact ih (built.add here _) _ later

/-- Loading a source keeps a registry built. -/
theorem Built.load (built : registry.Built) {known declared : Names} {source : Text}
    {validate : Bool} {next : Registry}
    (done : registry.load known source validate = .ok (declared, next))
    : next.Built := by
  unfold Registry.load at done
  cases declarations : Notation.read (known.map (·.1)) source with
  | error error =>
      rw [declarations] at done
      cases done
  | ok declarations' =>
      rw [declarations] at done
      have added := built.addAll known [] (Notation.read_built declarations)
      simp only [bind, Except.bind] at done
      split at done
      · split at done
        · cases done
          exact added
        · cases done
      · cases done
        exact added

end Registry

end RuleGrammar
