import Mathlib.Data.List.Chain
import Mathlib.Logic.Relation
import RuleGrammar.Proofs.Grammar.LeftRank

/-! The search for left recursion finds a cycle exactly if there is one. The way to a name is always
a walk over distinct names, so an edge back to it closes a cycle, and the names that the search is
done with have ranks that go down along edges.
-/

namespace RuleGrammar

-----------------------------------------------------------------------------------------
-- Cycles
-----------------------------------------------------------------------------------------

/-- A walk over distinct names that comes back to the first one. -/
def IsCycle (edge : Name → Name → Prop) (walk : List Name) : Prop :=
  ∃ first way, walk = first :: way ++ [first] ∧ (first :: way).Nodup ∧ walk.IsChain edge

/-- A name on a cycle leads back to itself: the first one leads to all that come later. -/
theorem IsCycle.exists_transGen {edge : Name → Name → Prop} {walk : List Name}
    (cycle : IsCycle edge walk)
    : ∃ name, Relation.TransGen edge name name := by
  obtain ⟨first, way, rfl, -, along⟩ := cycle
  have leads := (along.imp fun _ _ step => Relation.TransGen.single step).pairwise
  exact ⟨first, List.rel_of_pairwise_cons leads (by simp)⟩

namespace RuleTable

variable {edges : Name → List Name} {names done : List Name}

/-- A way along edges that comes to no name twice. -/
structure IsWay (edges : Name → List Name) (way : List Name) : Prop where
  along : way.IsChain fun name called => called ∈ edges name
  distinct : way.Nodup

theorem IsWay.single (edges : Name → List Name) (name : Name) : IsWay edges [name] :=
  ⟨.singleton _, List.nodup_singleton _⟩

/-- A way with one more edge at its end is still a chain of edges. -/
theorem IsWay.along_next {path : List Name} {name next : Name}
    (way : IsWay edges (path ++ [name])) (edge : next ∈ edges name)
    : (path ++ [name] ++ [next]).IsChain fun name called => called ∈ edges name :=
  way.along.append (.singleton _) (by simpa using edge)

theorem IsWay.next {path : List Name} {name next : Name} (way : IsWay edges (path ++ [name]))
    (edge : next ∈ edges name) (fresh : next ∉ path ++ [name])
    : IsWay edges (path ++ [name] ++ [next]) where
  along := way.along_next edge
  distinct := by simpa only [List.concat_eq_append] using way.distinct.concat fresh

/-- An edge from the end of a way back to a name on it closes a cycle. -/
theorem IsWay.isCycle {path : List Name} {name next : Name} (way : IsWay edges (path ++ [name]))
    (edge : next ∈ edges name) (back : next ∈ path ++ [name])
    : IsCycle (fun name called => called ∈ edges name)
        ((path ++ [name]).dropWhile (· ≠ next) ++ [next]) := by
  obtain ⟨before, after, split, fresh⟩ := List.eq_append_cons_of_mem back
  have dropped : (path ++ [name]).dropWhile (· ≠ next) = next :: after := by
    rw [split, List.dropWhile_append_of_pos, List.dropWhile_cons_of_neg (by simp)]
    intro other member
    exact decide_eq_true fun same => fresh (same ▸ member)
  have closed := way.along_next edge
  have distinct := way.distinct
  rw [split] at closed distinct
  rw [List.append_assoc] at closed
  refine ⟨next, after, by rw [dropped], (List.nodup_append.mp distinct).2.1, ?_⟩
  rw [dropped]
  exact closed.right_of_append

-----------------------------------------------------------------------------------------
-- What the search finds
-----------------------------------------------------------------------------------------

/-- Where steps one after the other stop, one of them does, by induction on the items. -/
theorem exists_of_foldlM_eq_error {α β ε : Type} {step : β → α → Except ε β} {items : List α}
    {start : β} {fault : ε} (stopped : items.foldlM step start = .error fault)
    : ∃ item ∈ items, ∃ before, step before item = .error fault := by
  induction items generalizing start with
  | nil => cases stopped
  | cons item rest ih =>
      rw [List.foldlM_cons] at stopped
      cases ran : step start item with
      | error other =>
          rw [ran] at stopped
          cases stopped
          exact ⟨item, by simp, start, ran⟩
      | ok next =>
          rw [ran] at stopped
          obtain ⟨later, member, before, stopped⟩ := ih stopped
          exact ⟨later, by simp [member], before, stopped⟩

/-- What a search from a name finds is a cycle, by induction on the depth: it is closed by an edge
back to the way, or it is found from a name that the way goes on to.
-/
theorem isCycle_of_searchFrom (depth : Nat) {path : List Name} {name : Name} {cycle : List Name}
    (way : IsWay edges (path ++ [name]))
    (found : searchFrom edges depth path done name = .error cycle)
    : IsCycle (fun name called => called ∈ edges name) cycle := by
  induction depth generalizing path done name with
  | zero => cases found
  | succ depth ih =>
      rw [searchFrom] at found
      simp only [bind, Except.bind] at found
      split at found
      · rename_i stopped
        cases found
        obtain ⟨next, edge, before, stopped⟩ := exists_of_foldlM_eq_error stopped
        by_cases back : next ∈ path ++ [name]
        · simp only [List.contains_iff_mem, back, if_true] at stopped
          cases stopped
          exact way.isCycle edge back
        · by_cases known : next ∈ before
          · simp only [List.contains_iff_mem, back, known, if_true, if_false] at stopped
            cases stopped
          · simp only [List.contains_iff_mem, back, known, if_false] at stopped
            exact ih (way.next edge back) stopped
      · cases found

theorem isCycle_of_search {cycle : List Name} (found : search edges names = .error cycle)
    : IsCycle (fun name called => called ∈ edges name) cycle := by
  obtain ⟨name, -, before, stopped⟩ := exists_of_foldlM_eq_error found
  split at stopped
  · cases stopped
  · have way : IsWay edges ([] ++ [name]) := .single edges name
    exact isCycle_of_searchFrom names.length way stopped

end RuleTable

-----------------------------------------------------------------------------------------
-- Left recursion
-----------------------------------------------------------------------------------------

namespace Grammar

variable {g : Grammar} {name called : Name}

/-- If the search finds anything in a grammar, it is a cycle. -/
theorem leftCycle_cases (g : Grammar) : g.leftCycle = [] ∨ IsCycle g.LeftEdge g.leftCycle := by
  unfold leftCycle RuleTable.leftCycle?
  split
  · rename_i cycle found
    have isCycle := RuleTable.isCycle_of_search found
    simp only [mem_leftEdges_iff] at isCycle
    exact Or.inr isCycle
  · exact Or.inl rfl

theorem Ranked.falls_of_leftEdge {rank : Name → Nat} {height : Nat} (ranked : g.Ranked rank height)
    (edge : g.LeftEdge name called)
    : rank called < rank name := by
  obtain ⟨entry, rule, found, member, atEdge, visible⟩ := edge
  obtain ⟨callee, stands⟩ := mem_allNames_iff.mp visible
  exact ranked.falls found member atEdge stands

/-- Ranks go down along a walk too, by induction on it, so no walk comes back to its start. -/
theorem Ranked.falls_of_transGen {rank : Name → Nat} {height : Nat}
    (ranked : g.Ranked rank height) (walk : Relation.TransGen g.LeftEdge name called)
    : rank called < rank name := by
  induction walk with
  | single edge => exact ranked.falls_of_leftEdge edge
  | tail _ edge ih => exact Nat.lt_trans (ranked.falls_of_leftEdge edge) ih

/-- No cycle is found in a grammar exactly if no name can come back to itself by calls at the left
edge; otherwise what is found is such a cycle.
-/
theorem leftCycle_isCycle (g : Grammar)
    : (g.leftCycle = [] ↔ ∀ name, ¬ Relation.TransGen g.LeftEdge name name)
      ∧ (g.leftCycle = [] ∨ IsCycle g.LeftEdge g.leftCycle) := by
  refine ⟨⟨fun none name => ?_, fun acyclic => ?_⟩, g.leftCycle_cases⟩
  · obtain ⟨rank, height, ranked⟩ := exists_ranked none
    exact fun around => Nat.lt_irrefl _ (ranked.falls_of_transGen around)
  · refine g.leftCycle_cases.resolve_right fun cycle => ?_
    obtain ⟨name, around⟩ := cycle.exists_transGen
    exact acyclic name around

end Grammar

end RuleGrammar
