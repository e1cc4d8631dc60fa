import RuleGrammar.Proofs.Action.Acting

/-! Dispatch goes through a tree in post-order: the children of a node from left to right, then the
node, and a node that several captures share only where it is met first. The stack of tasks is
replaced by the recursive traversal, and dispatch is acting on the nodes one after the other in that
order.
-/

namespace RuleGrammar

-----------------------------------------------------------------------------------------
-- The traversal
-----------------------------------------------------------------------------------------

namespace Match

/-- Goes through a tree after some nodes were visited: the children from left to right, then the
node itself. A node that was visited is skipped with all that is below it.
-/
def visit (visited : List Match) (m : Match) : List Match :=
  if visited.any (·.id = m.id) then visited
  else m.children.attach.foldl (fun visited child => visit visited child.1) visited ++ [m]
termination_by sizeOf m
decreasing_by exact sizeOf_lt_of_mem_children child.2

/-- The nodes of a tree in post-order, each one once. -/
def postOrder (root : Match) : List Match :=
  root.visit []

theorem visit_eq (visited : List Match) (m : Match)
    : m.visit visited
      = if visited.any (·.id = m.id) then visited
        else m.children.foldl visit visited ++ [m] := by
  rw [visit, List.foldl_attach]

/-- Nodes of a tree that were visited: each once and with all that is below it, which comes
earlier.
-/
structure Visited (root : Match) (visited : List Match) : Prop where
  inTree : visited ⊆ root.walk
  whole : ∀ m ∈ visited, m.walk ⊆ visited
  once : (visited.map Match.id).Nodup
  ordered : visited.Pairwise fun earlier later => later ∉ earlier.walk

/-- The traversal went on through some nodes: what was visited comes first, and what is new is in
their trees.
-/
structure Passed (root : Match) (visited nodes visited' : List Match) : Prop where
  valid : Visited root visited'
  kept : visited <+: visited'
  all : nodes ⊆ visited'
  only : ∀ n ∈ visited', n ∈ visited ∨ ∃ m ∈ nodes, n ∈ m.walk

variable {root m n : Match} {visited visited' visited'' nodes : List Match}

theorem Visited.nil : Visited root [] :=
  ⟨by simp, by simp, by simp, by simp⟩

/-- Where identities tell nodes apart, a node was visited if its identity was. -/
theorem Visited.any_id_iff (coherent : root.Coherent) (inTree : visited ⊆ root.walk)
    (inRoot : m ∈ root.walk)
    : visited.any (·.id = m.id) = true ↔ m ∈ visited := by
  simp only [List.any_eq_true, decide_eq_true_eq]
  constructor
  · rintro ⟨n, member, same⟩
    exact coherent n (inTree member) m inRoot same ▸ member
  · exact fun member => ⟨m, member, rfl⟩

/-- A node whose children were visited is visited next. -/
theorem Visited.push (before : Visited root visited) (coherent : root.Coherent)
    (inRoot : m ∈ root.walk) (new : m ∉ visited) (below : m.children ⊆ visited)
    : Visited root (visited ++ [m]) where
  inTree := by
    intro n member
    rcases List.mem_append.mp member with earlier | last
    · exact before.inTree earlier
    · exact List.mem_singleton.mp last ▸ inRoot
  whole n member k inside := by
    rcases List.mem_append.mp member with earlier | last
    · exact List.mem_append_left _ (before.whole n earlier inside)
    · obtain rfl := List.mem_singleton.mp last
      rcases mem_walk inside with rfl | ⟨child, isChild, inChild⟩
      · exact member
      · exact List.mem_append_left _ (before.whole child (below isChild) inChild)
  once := by
    rw [List.map_append, List.nodup_append]
    refine ⟨before.once, by simp, fun id earlier id' last same => ?_⟩
    obtain ⟨n, member, rfl⟩ := List.mem_map.mp earlier
    have isLast : id' = m.id := by simpa using last
    exact new (coherent n (before.inTree member) m inRoot (same.trans isLast) ▸ member)
  ordered := by
    rw [List.pairwise_append]
    refine ⟨before.ordered, List.pairwise_singleton _ _, fun n earlier k last inside => ?_⟩
    obtain rfl := List.mem_singleton.mp last
    exact new (before.whole n earlier inside)

namespace Passed

theorem refl (before : Visited root visited) : Passed root visited [] visited :=
  ⟨before, List.prefix_refl _, by simp, fun _ member => Or.inl member⟩

/-- Passing a node and then others is passing them all. -/
theorem cons (first : Passed root visited [m] visited')
    (rest : Passed root visited' nodes visited'')
    : Passed root visited (m :: nodes) visited'' where
  valid := rest.valid
  kept := first.kept.trans rest.kept
  all := List.cons_subset.mpr ⟨rest.kept.subset (first.all List.mem_cons_self), rest.all⟩
  only n member := by
    rcases rest.only n member with earlier | ⟨k, inNodes, inside⟩
    · refine (first.only n earlier).imp_right fun ⟨k, isFirst, inside⟩ => ⟨k, ?_, inside⟩
      exact List.mem_singleton.mp isFirst ▸ List.mem_cons_self
    · exact Or.inr ⟨k, List.mem_cons_of_mem m inNodes, inside⟩

/-- A node that was visited is passed without anything new. -/
theorem skip (before : Visited root visited) (known : m ∈ visited)
    : Passed root visited [m] visited :=
  ⟨before, List.prefix_refl _, by simpa using known, fun _ member => Or.inl member⟩

/-- A node that was not visited is not visited when its children are passed. -/
theorem not_mem (below : Passed root visited m.children visited') (new : m ∉ visited)
    : m ∉ visited' := by
  intro member
  rcases below.only m member with earlier | ⟨child, isChild, inside⟩
  · exact new earlier
  · exact not_mem_walk_of_mem_children isChild inside

/-- A node that was not visited is passed once its children are. -/
theorem node (below : Passed root visited m.children visited') (coherent : root.Coherent)
    (inRoot : m ∈ root.walk) (new : m ∉ visited)
    : Passed root visited [m] (visited' ++ [m]) := by
  have valid := below.valid.push coherent inRoot (below.not_mem new) below.all
  refine ⟨valid, below.kept.trans (List.prefix_append _ _), by simp, fun n member => ?_⟩
  rcases List.mem_append.mp member with inside | last
  · refine (below.only n inside).imp_right fun ⟨child, isChild, inChild⟩ => ?_
    exact ⟨m, List.mem_singleton_self m, walk_subset_of_mem_children isChild inChild⟩
  · obtain rfl := List.mem_singleton.mp last
    exact Or.inr ⟨n, List.mem_singleton_self n, n.mem_walk_self⟩

/-- Nodes that are passed one by one are passed one after the other, by induction on them. -/
theorem all_of_each
    (each
      : ∀ m ∈ nodes, ∀ visited, Visited root visited → Passed root visited [m] (m.visit visited))
    (before : Visited root visited)
    : Passed root visited nodes (nodes.foldl visit visited) := by
  induction nodes generalizing visited with
  | nil => exact .refl before
  | cons m rest ih =>
      have first := each m List.mem_cons_self visited before
      exact first.cons (ih (fun n member => each n (List.mem_cons_of_mem m member)) first.valid)

end Passed

/-- The traversal passes each node of a tree, by induction on the node's own tree. -/
theorem passed_visit {m : Match} {visited : List Match} (coherent : root.Coherent)
    (inRoot : m ∈ root.walk) (before : Visited root visited)
    : Passed root visited [m] (m.visit visited) := by
  rw [visit_eq]
  by_cases known : visited.any (·.id = m.id) = true
  · rw [if_pos known]
    exact .skip before ((Visited.any_id_iff coherent before.inTree inRoot).mp known)
  · rw [if_neg known]
    have new : m ∉ visited := fun member =>
      known ((Visited.any_id_iff coherent before.inTree inRoot).mpr member)
    refine Passed.node (.all_of_each (fun child isChild visited between => ?_) before) coherent
      inRoot new
    have smaller := sizeOf_lt_of_mem_children isChild
    exact passed_visit coherent
      (walk_subset inRoot (walk_subset_of_mem_children isChild child.mem_walk_self)) between
termination_by sizeOf m

theorem visited_postOrder (coherent : root.Coherent) : Visited root root.postOrder :=
  (passed_visit coherent root.mem_walk_self .nil).valid

/-- The traversal finds every node of a tree. -/
theorem mem_postOrder (coherent : root.Coherent) : n ∈ root.postOrder ↔ n ∈ root.walk := by
  have passed := passed_visit coherent root.mem_walk_self .nil
  exact ⟨fun member => passed.valid.inTree member,
    fun inside => passed.valid.whole root (passed.all List.mem_cons_self) inside⟩

end Match

-----------------------------------------------------------------------------------------
-- Dispatch follows the traversal
-----------------------------------------------------------------------------------------

variable {subject : Subject} {table : ActionTable} {root m : Match}
  {seen seen' : Std.TreeMap Nat Unit} {visited nodes : List Match}

/-- On some trees, the nodes that dispatch has seen are those that the traversal has visited. What
is above these trees may have been entered without being left.
-/
def SeesAlike (seen : Std.TreeMap Nat Unit) (visited nodes : List Match) : Prop :=
  ∀ m ∈ nodes, ∀ n ∈ m.walk, seen.contains n.id = true ↔ n ∈ visited

/-- What is newly seen are the nodes that the traversal newly visits. -/
def SeesNew (seen : Std.TreeMap Nat Unit) (new : List Match) (seen' : Std.TreeMap Nat Unit)
    : Prop :=
  ∀ id, seen'.contains id = true ↔ seen.contains id = true ∨ ∃ m ∈ new, m.id = id

variable (subject table) in
/-- Working off some nodes is acting on those that the traversal newly visits, in its order. -/
def WorksOffAs (seen : Std.TreeMap Nat Unit) (visited nodes visited' : List Match) : Prop :=
  ∃ new seen',
    visited' = visited ++ new
    ∧ SeesNew seen new seen'
    ∧ ∀ tasks,
        workOff subject table seen (nodes.map Task.enter ++ tasks)
          = (do
              forM new (act subject table)
              workOff subject table seen' tasks)

/-- Dispatch and the traversal still see alike when both went on. -/
theorem SeesAlike.append {new : List Match} (alike : SeesAlike seen visited nodes)
    (coherent : root.Coherent) (inRoot : nodes ⊆ root.walk) (newInRoot : new ⊆ root.walk)
    (seesNew : SeesNew seen new seen')
    : SeesAlike seen' (visited ++ new) nodes := by
  intro m member n inside
  rw [seesNew, List.mem_append, alike m member n inside]
  refine or_congr_right ⟨?_, fun isNew => ⟨n, isNew, rfl⟩⟩
  rintro ⟨k, isNew, same⟩
  exact coherent k (newInRoot isNew) n (Match.walk_subset (inRoot member) inside) same ▸ isNew

/-- Once a node was entered, dispatch and the traversal see alike what is below it, since it is none
of the nodes below itself.
-/
theorem SeesAlike.below (alike : SeesAlike seen visited [m]) (coherent : root.Coherent)
    (inRoot : m ∈ root.walk)
    : SeesAlike (seen.insert m.id ()) visited m.children := by
  intro child isChild n inChild
  have inside := Match.walk_subset_of_mem_children isChild inChild
  rw [contains_insert_iff, ← alike m List.mem_cons_self n inside]
  refine or_iff_right fun same => ?_
  have one := coherent n (Match.walk_subset inRoot inside) m inRoot same
  exact Match.not_mem_walk_of_mem_children isChild (one ▸ inChild)

/-- Nodes that are worked off one by one are so one after the other, by induction on them. -/
theorem worksOffAs_all (coherent : root.Coherent) (inRoot : nodes ⊆ root.walk)
    (each
      : ∀ m ∈ nodes, ∀ seen visited,
          Match.Visited root visited
          → SeesAlike seen visited [m]
          → WorksOffAs subject table seen visited [m] (m.visit visited))
    (before : Match.Visited root visited) (alike : SeesAlike seen visited nodes)
    : WorksOffAs subject table seen visited nodes (nodes.foldl Match.visit visited) := by
  induction nodes generalizing seen visited with
  | nil => exact ⟨[], seen, by simp, by simp [SeesNew], fun tasks => by simp⟩
  | cons m rest ih =>
      obtain ⟨mInRoot, restInRoot⟩ := List.cons_subset.mp inRoot
      have passed := Match.passed_visit coherent mInRoot before
      obtain ⟨new, seen', visits, seesNew, worked⟩ := each m List.mem_cons_self seen visited before
        fun k isFirst => alike k (List.mem_singleton.mp isFirst ▸ List.mem_cons_self)
      have newInRoot : new ⊆ root.walk := fun n isNew =>
        passed.valid.inTree (visits ▸ List.mem_append_right visited isNew)
      have alikeRest : SeesAlike seen' (visited ++ new) rest :=
        SeesAlike.append (fun k inRest => alike k (List.mem_cons_of_mem m inRest)) coherent
          restInRoot newInRoot seesNew
      obtain ⟨later, seen'', visits', seesLater, workedRest⟩ :=
        ih restInRoot (fun k inRest => each k (List.mem_cons_of_mem m inRest)) passed.valid
          (visits ▸ alikeRest)
      refine ⟨new ++ later, seen'', ?_, fun id => ?_, fun tasks => ?_⟩
      · rw [List.foldl_cons, visits', visits, List.append_assoc]
      · rw [seesLater, seesNew, or_assoc]
        simp only [List.mem_append, or_and_right, exists_or]
      · have first := worked (rest.map Task.enter ++ tasks)
        rw [List.map_cons, List.map_nil, List.cons_append, List.nil_append] at first
        rw [List.map_cons, List.cons_append, first, workedRest, List.forM_append, bind_assoc]

variable (subject table) in
/-- A node is worked off as the traversal visits it, by induction on its tree: its callback waits
below its children.
-/
theorem worksOffAs_visit {m : Match} {seen : Std.TreeMap Nat Unit} {visited : List Match}
    (coherent : root.Coherent) (inRoot : m ∈ root.walk) (before : Match.Visited root visited)
    (alike : SeesAlike seen visited [m])
    : WorksOffAs subject table seen visited [m] (m.visit visited) := by
  have seenIff := alike m List.mem_cons_self m m.mem_walk_self
  rw [← Match.Visited.any_id_iff coherent before.inTree inRoot] at seenIff
  rw [Match.visit_eq]
  cases known : seen.contains m.id with
  | true =>
      rw [if_pos (seenIff.mp known)]
      refine ⟨[], seen, by simp, by simp [SeesNew], fun tasks => ?_⟩
      rw [List.map_cons, List.map_nil, List.cons_append, List.nil_append, workOff, if_pos known]
      rfl
  | false =>
      rw [if_neg (fun visits => by rw [seenIff.mpr visits] at known; cases known)]
      have childrenInRoot : m.children ⊆ root.walk := fun child isChild =>
        Match.walk_subset inRoot
          (Match.walk_subset_of_mem_children isChild child.mem_walk_self)
      obtain ⟨new, seen', visits, seesNew, worked⟩ :=
        worksOffAs_all coherent childrenInRoot
          (fun child isChild seen visited between alike => by
            have smaller := Match.sizeOf_lt_of_mem_children isChild
            exact worksOffAs_visit coherent (childrenInRoot isChild) between alike)
          before (alike.below coherent inRoot)
      refine ⟨new ++ [m], seen', ?_, fun id => ?_, fun tasks => ?_⟩
      · rw [visits, List.append_assoc]
      · rw [seesNew, contains_insert_iff]
        simp only [List.mem_append, List.mem_singleton, or_and_right, exists_or, exists_eq_left]
        rw [@eq_comm _ id, @or_comm (m.id = id), or_assoc, @or_comm (m.id = id)]
      · rw [List.map_cons, List.map_nil, List.cons_append, List.nil_append, workOff,
          if_neg (by simp [known]), worked, workOff, List.forM_append, bind_assoc]
        simp
termination_by sizeOf m

/-- The nodes of a tree that a callback belongs to, in post-order. -/
def ActionTable.calls (table : ActionTable) (root : Match) : List Match :=
  root.postOrder.filter fun m => (table.callbackFor m).isSome

/-- A node without a callback is passed over. -/
theorem act_of_silent (silent : table.callbackFor m = none) : act subject table m = pure () := by
  rw [act, silent]

theorem act_of_found {callback : Callback} (found : table.callbackFor m = some callback)
    (s : ActionState)
    : act subject table m s = callback subject m { s with called := m :: s.called } := by
  rw [act, found]
  rfl

/-- Nodes without a callback may be left out. -/
theorem forM_act_filter (nodes : List Match)
    : forM nodes (act subject table)
      = forM (nodes.filter fun m => (table.callbackFor m).isSome) (act subject table) := by
  induction nodes with
  | nil => rfl
  | cons m rest ih =>
      rw [List.forM_cons, ih]
      cases found : table.callbackFor m with
      | none => rw [act_of_silent found, List.filter_cons_of_neg (by simp [found]), pure_bind]
      | some callback => rw [List.filter_cons_of_pos (by simp [found]), List.forM_cons]

/-- Dispatch acts on the nodes of a tree one after the other in post-order. -/
theorem applyActions_eq_postOrder (coherent : root.Coherent)
    : applyActions subject table root = forM root.postOrder (act subject table) := by
  have alike : SeesAlike {} [] [root] := by
    intro m _ n _
    simp
  obtain ⟨new, seen', visits, -, worked⟩ :=
    worksOffAs_visit subject table coherent root.mem_walk_self .nil alike
  have whole : workOff subject table {} [.enter root] = _ := worked []
  rw [applyActions, whole, Match.postOrder, visits, List.nil_append, workOff]
  exact bind_pure _

/-- Only the nodes that have a callback matter. -/
theorem applyActions_eq_calls (coherent : root.Coherent)
    : applyActions subject table root = forM (table.calls root) (act subject table) := by
  rw [applyActions_eq_postOrder coherent, forM_act_filter, ActionTable.calls]

theorem ActionTable.isSome_callbackFor
    : (table.callbackFor m).isSome = true
      ↔ m.rule ≠ [] ∧ (table.lookup m.rule m.tag).isSome = true := by
  simp [callbackFor, apply_ite Option.isSome]

theorem ActionTable.lookup_of_callbackFor {callback : Callback}
    (found : table.callbackFor m = some callback)
    : table.lookup m.rule m.tag = some callback := by
  rw [callbackFor] at found
  split at found
  · cases found
  · exact found

/-- What is looked up stands in a row. -/
theorem ActionTable.exists_row_of_lookup {rule : Name} {tag : Option Name} {callback : Callback}
    (found : table.lookup rule tag = some callback)
    : ∃ row ∈ table.rows, row.1 = (rule, tag) ∧ row.2 = callback := by
  obtain ⟨row, hit, rfl⟩ := Option.map_eq_some_iff.mp found
  have key := List.find?_some hit
  exact ⟨row, List.mem_of_find?_eq_some hit, of_decide_eq_true key, rfl⟩

theorem ActionTable.mem_calls (coherent : root.Coherent)
    : m ∈ table.calls root ↔ m ∈ root.walk ∧ (table.callbackFor m).isSome = true := by
  rw [calls, List.mem_filter, Match.mem_postOrder coherent]

/-- What is called is called once. -/
theorem ActionTable.nodup_calls (coherent : root.Coherent)
    : ((table.calls root).map Match.id).Nodup :=
  (Match.visited_postOrder coherent).once.sublist (List.filter_sublist.map Match.id)

/-- What is called is called after what is below it. -/
theorem ActionTable.pairwise_calls (coherent : root.Coherent)
    : (table.calls root).Pairwise fun earlier later => later ∉ earlier.walk :=
  (Match.visited_postOrder coherent).ordered.sublist List.filter_sublist

end RuleGrammar
