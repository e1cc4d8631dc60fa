import Mathlib.Data.List.Forall2
import RuleGrammar.Proofs.MatchTree.Bare
import RuleGrammar.Proofs.MatchTree.Order

/-! What views of a node show, told from its bare form and from the log that it was folded from.
-/

namespace RuleGrammar

-----------------------------------------------------------------------------------------
-- Bare forms
-----------------------------------------------------------------------------------------

theorem Capture.bare_name (capture : Capture) : capture.bare.name = capture.name := by
  cases capture <;> rfl

theorem Capture.bare_nodes (capture : Capture)
    : capture.bare.nodes = capture.nodes.map Match.bare := by
  cases capture with
  | single name node => rfl
  | listed name nodes => simp [Capture.bare, Capture.nodes]

namespace Match

@[simp] theorem bare_start (m : Match) : m.bare.start = m.start := by
  simp [Match.start]

@[simp] theorem bare_rule (m : Match) : m.bare.rule = m.rule := by
  simp [Match.rule]

@[simp] theorem bare_tag (m : Match) : m.bare.tag = m.tag := by
  simp [Match.tag]

/-- What was captured under a name is, bare, captured under it in the bare node. -/
theorem get?_bare (m : Match) (name : Name)
    : m.bare.get? name = (m.get? name).map Capture.bare := by
  obtain ⟨info, named, positional⟩ := m
  simp only [get?, Match.bare, Match.named, bareCaptures_eq_map, List.find?_map,
    Function.comp_def, Capture.bare_name]

/-- What a node captured is, bare, what the bare node captured. -/
theorem captured_bare (m : Match) : m.bare.captured = m.captured.map Match.bare := by
  obtain ⟨info, named, positional⟩ := m
  simp only [captured, Match.bare, Match.named, Match.positional, bareCaptures_eq_map,
    bareNodes_eq_map, List.map_append, List.map_flatMap, List.flatMap_map, Capture.bare_nodes]

/-- The children of a node are, bare, those of the bare node: nodes keep where they start. -/
theorem children_bare (m : Match) : m.bare.children = m.children.map Match.bare := by
  have sorted := List.map_mergeSort (l := m.captured) (f := Match.bare)
    (r := fun a b => decide (a.start ≤ b.start)) (s := fun a b => decide (a.start ≤ b.start))
    fun a _ b _ => by simp
  rw [Match.children, Match.children]
  exact (congrArg (List.mergeSort · _) m.captured_bare).trans sorted.symm

/-- Nodes that are bare the same, the first of them a child of some node. -/
abbrev Corresponds (m a b : Match) : Prop :=
  a ∈ m.children ∧ a.bare = b.bare

/-- What nodes captured corresponds if they are bare the same. -/
theorem forall₂_captured {m n : Match} (same : m.bare = n.bare)
    : List.Forall₂ m.Corresponds m.captured n.captured := by
  have captured := congrArg captured same
  rw [captured_bare, captured_bare, ← List.forall₂_eq_eq_eq, List.forall₂_map_left_iff,
    List.forall₂_map_right_iff] at captured
  exact (List.forall₂_and_left _ _).mpr ⟨fun _ => mem_children.mpr, captured⟩

theorem forall₂_children {m n : Match} (same : m.bare = n.bare)
    : List.Forall₂ m.Corresponds m.children n.children := by
  have children := congrArg children same
  rw [children_bare, children_bare, ← List.forall₂_eq_eq_eq, List.forall₂_map_left_iff,
    List.forall₂_map_right_iff] at children
  exact (List.forall₂_and_left _ _).mpr ⟨fun _ isChild => isChild, children⟩

theorem walk_eq (m : Match) : m.walk = m :: m.children.flatMap walk := by
  rw [walk]
  simp

/-- The nodes of trees that are bare the same correspond, by induction on trees. -/
theorem forall₂_walk {m n : Match} (same : m.bare = n.bare)
    : List.Forall₂ (fun a b => a.bare = b.bare) m.walk n.walk := by
  have below : List.Forall₂ (fun a b => a.bare = b.bare) (m.children.flatMap walk)
      (n.children.flatMap walk) :=
    List.rel_flatMap (forall₂_children same) fun {a b} ⟨isChild, same⟩ => by
      have smaller := sizeOf_lt_of_mem_children isChild
      exact forall₂_walk same
  rw [walk_eq, walk_eq]
  exact .cons same below
termination_by sizeOf m

theorem exists_mem_walk {m n node : Match} (same : m.bare = n.bare) (inTree : node ∈ n.walk)
    : ∃ other ∈ m.walk, other.bare = node.bare := by
  have walks : m.walk.map bare = n.walk.map bare := by
    rw [← List.forall₂_eq_eq_eq, List.forall₂_map_left_iff, List.forall₂_map_right_iff]
    exact forall₂_walk same
  have member := List.mem_map_of_mem (f := bare) inTree
  rw [← walks] at member
  exact List.mem_map.mp member

theorem mem_children_of_get? {m child : Match} {name : Name} {capture : Capture}
    (found : m.get? name = some capture) (member : child ∈ capture.nodes)
    : child ∈ m.children := by
  have captured := List.mem_flatMap.mpr ⟨capture, List.mem_of_find?_eq_some found, member⟩
  exact mem_children.mpr (List.mem_append_left _ captured)

/-- A node that is bare the only one under a name stands under it alone. -/
theorem get?_single {m node : Match} {name : Name}
    (found : m.bare.get? name = some (.single name node))
    : ∃ child ∈ m.children, m.get? name = some (.single name child) ∧ child.bare = node := by
  rw [get?_bare] at found
  obtain ⟨capture, captured, same⟩ := Option.map_eq_some_iff.mp found
  cases capture with
  | listed key nodes => cases same
  | single key child =>
      obtain ⟨rfl, rfl⟩ := Capture.single.inj same
      exact ⟨child, mem_children_of_get? captured List.mem_cons_self, captured, rfl⟩

/-- Nodes that are bare a list under a name stand in a list under it. -/
theorem get?_listed {m : Match} {nodes : List Match} {name : Name}
    (found : m.bare.get? name = some (.listed name nodes))
    : ∃ children,
        children ⊆ m.children
        ∧ m.get? name = some (.listed name children)
        ∧ children.map Match.bare = nodes := by
  rw [get?_bare] at found
  obtain ⟨capture, captured, same⟩ := Option.map_eq_some_iff.mp found
  cases capture with
  | single key node => cases same
  | listed key children =>
      obtain ⟨rfl, each⟩ := Capture.listed.inj same
      rw [bareNodes_eq_map] at each
      exact ⟨children, fun child member => mem_children_of_get? captured member, captured, each⟩

end Match

-----------------------------------------------------------------------------------------
-- Logs
-----------------------------------------------------------------------------------------

/-- Every node of a log is captured by the node that the log folds into. -/
theorem Match.mem_captured_ofLog {info : NodeInfo} {log : List Caught} {m : Match}
    : m ∈ (Match.ofLog info log).captured ↔ m ∈ logNodes log := by
  refine ⟨mem_logNodes_of_captured, fun member => ?_⟩
  obtain ⟨entry, inLog, isNode⟩ := List.mem_filterMap.mp member
  rw [captured_ofLog]
  match entry, isNode with
  | .node none _ _, rfl =>
      exact List.mem_append_right _ (List.mem_filterMap.mpr ⟨_, inLog, rfl⟩)
  | .node (some key) _ _, rfl =>
      refine List.mem_append_left _ (List.mem_flatMap.mpr ⟨key, ?_, ?_⟩)
      · exact mem_distinct.mpr (List.mem_filterMap.mpr ⟨_, inLog, rfl⟩)
      · exact List.mem_filterMap.mpr ⟨_, inLog, if_pos rfl⟩

/-- Marks add no node to a log. -/
theorem logNodes_append_marks (log : List Caught) (names : List Name)
    : logNodes (log ++ names.map Caught.mark) = logNodes log := by
  rw [logNodes, List.filterMap_append, ← logNodes, ← logNodes, logNodes_marks, List.append_nil]

theorem Capture.name_ofLog (log : List Caught) (key : Name)
    : (Capture.ofLog log key).name = key := by
  unfold Capture.ofLog
  split
  · rfl
  · cases log.filterMap (Caught.nodeNamed? key) with
    | nil => rfl
    | cons first rest => cases rest <;> rfl

/-- What is captured under a name is what the log says of the name. -/
theorem Match.get?_ofLog {info : NodeInfo} {log : List Caught} {key : Name}
    (member : key ∈ log.filterMap Caught.name)
    : (Match.ofLog info log).get? key = some (Capture.ofLog log key) := by
  have found : (Expr.distinct (log.filterMap Caught.name)).find? (fun name => name = key)
      = some key := by
    have present := mem_distinct.mpr member
    cases found : (Expr.distinct (log.filterMap Caught.name)).find? (fun name => name = key) with
    | none =>
        have absent := List.find?_eq_none.mp found key present
        simp at absent
    | some name => rw [show name = key by simpa using List.find?_some found]
  simp only [get?, ofLog, named, List.find?_map, Function.comp_def, Capture.name_ofLog, found,
    Option.map_some]

/-- Nothing is captured under a name that stands nowhere in the log. -/
theorem Match.get?_ofLog_of_absent {info : NodeInfo} {log : List Caught} {key : Name}
    (absent : key ∉ log.filterMap Caught.name)
    : (Match.ofLog info log).get? key = none := by
  refine List.find?_eq_none.mpr fun capture member => ?_
  obtain ⟨name, inLog, rfl⟩ := List.mem_map.mp member
  rw [Capture.name_ofLog, decide_eq_true_eq]
  rintro rfl
  exact absent (mem_distinct.mp inLog)

end RuleGrammar
