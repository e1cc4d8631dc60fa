import RuleGrammar.Grammar.Validity
import RuleGrammar.Proofs.Grammar.Visible
import Mathlib.Data.List.Nodup

/-! Ranks of names in a grammar without left recursion. The search for a cycle is done with a name
only after it is done with all that the name may call at the left edge, so the names in the order
in which it is done with them have ranks that go down with every such call.
-/

namespace RuleGrammar

namespace RuleTable

variable {edges : Name → List Name} {names done : List Name}

-----------------------------------------------------------------------------------------
-- The search
-----------------------------------------------------------------------------------------

/-- Names in the order in which a search is done with them, the last one first: each comes after
all that it has an edge to.
-/
inductive InCallOrder (edges : Name → List Name) : List Name → Prop
  | nil : InCallOrder edges []
  | cons {name done} (called : edges name ⊆ done) (before : InCallOrder edges done)
    : InCallOrder edges (name :: done)

/-- A search has gone from names that it was done with to more of them, some names among them. -/
structure Reaches (edges : Name → List Name) (done names done' : List Name) : Prop where
  ordered : InCallOrder edges done'
  kept : done ⊆ done'
  reached : names ⊆ done'

/-- How a search for some names may end: it has reached them, or it has found a cycle. -/
def Searched (edges : Name → List Name) (done names : List Name)
    : Except (List Name) (List Name) → Prop
  | .ok done' => Reaches edges done names done'
  | .error cycle => cycle ≠ []

/-- Searches one after the other reach what each of them reaches, by induction on the names
searched for.
-/
theorem searched_foldlM {search : List Name → Name → Except (List Name) (List Name)}
    (each
      : ∀ name ∈ names, ∀ done,
          InCallOrder edges done
          → Searched edges done [name] (search done name))
    (ordered : InCallOrder edges done)
    : Searched edges done names (names.foldlM search done) := by
  induction names generalizing done with
  | nil => exact ⟨ordered, List.Subset.refl _, List.nil_subset _⟩
  | cons name rest ih =>
      have first := each name (by simp) done ordered
      rw [List.foldlM_cons]
      cases ran : search done name with
      | error cycle =>
          rw [ran] at first
          exact first
      | ok done' =>
          rw [ran] at first
          have later := ih (fun other member => each other (by simp [member])) first.ordered
          change Searched edges done (name :: rest) (rest.foldlM search done')
          cases ended : rest.foldlM search done' with
          | error cycle =>
              rw [ended] at later
              exact later
          | ok done'' =>
              rw [ended] at later
              refine ⟨later.ordered, List.Subset.trans first.kept later.kept, ?_⟩
              exact List.cons_subset.mpr
                ⟨later.kept (first.reached (by simp)), later.reached⟩

/-- A search that has reached all that a name has an edge to may be done with that name. -/
theorem Searched.finish {name : Name} {ended : Except (List Name) (List Name)}
    (searched : Searched edges done (edges name) ended)
    : Searched edges done [name] (do
        let done' ← ended
        return name :: done') := by
  cases ended with
  | error cycle => exact searched
  | ok done' =>
      refine ⟨.cons searched.reached searched.ordered, ?_, by simp⟩
      exact List.Subset.trans searched.kept (List.subset_cons_self _ _)

/-- The way to a name, with that name at its end, goes through distinct names of the table, and
the depth that is left is enough for all the others.
-/
structure OnWay (names path : List Name) (name : Name) (depth : Nat) : Prop where
  distinct : (path ++ [name]).Nodup
  named : path ++ [name] ⊆ names
  enough : names.length ≤ path.length + depth

/-- From the name at the end of the way, the search goes on to a name that is neither on the way
nor done.
-/
theorem OnWay.next {path : List Name} {name next : Name} {depth : Nat}
    (onWay : OnWay names path name (depth + 1)) (named : next ∈ names)
    (fresh : next ∉ path ++ [name])
    : OnWay names (path ++ [name]) next depth where
  distinct := by
    refine List.nodup_append.mpr ⟨onWay.distinct, by simp, ?_⟩
    intro other member last single same
    rw [List.mem_singleton.mp single] at same
    exact fresh (same ▸ member)
  named := List.append_subset.mpr ⟨onWay.named, by simpa using named⟩
  enough := by
    have enough := onWay.enough
    rw [List.length_append, List.length_singleton]
    omega

/-- A search from a name reaches it or finds a cycle, by induction on the depth. A name is searched
from only off the way to it, so ways stay without repetitions and the depth is never used up.
-/
theorem searched_searchFrom (inside : ∀ name, edges name ⊆ names) (depth : Nat)
    {path : List Name} {name : Name} (onWay : OnWay names path name depth)
    (ordered : InCallOrder edges done)
    : Searched edges done [name] (searchFrom edges depth path done name) := by
  induction depth generalizing path done name with
  | zero =>
      have bound := onWay.distinct.length_le_of_subset onWay.named
      have enough := onWay.enough
      rw [List.length_append, List.length_singleton] at bound
      omega
  | succ depth ih =>
      have nexts : Searched edges done (edges name)
          ((edges name).foldlM (fun done next =>
            if (path ++ [name]).contains next then
              .error ((path ++ [name]).dropWhile (· ≠ next) ++ [next])
            else if done.contains next then .ok done
            else searchFrom edges depth (path ++ [name]) done next) done) := by
        refine searched_foldlM (fun next member done ordered => ?_) ordered
        by_cases back : next ∈ path ++ [name]
        · simp [back, Searched]
        · by_cases known : next ∈ done
          · simp only [List.contains_iff_mem, back, known, if_true, if_false]
            exact ⟨ordered, List.Subset.refl _, by simpa using known⟩
          · simp only [List.contains_iff_mem, back, known, if_false]
            exact ih (onWay.next (inside name member) back) ordered
      exact nexts.finish

/-- The search from every name is done with all of them in their order, or finds a cycle. -/
theorem searched_search (inside : ∀ name, edges name ⊆ names)
    : Searched edges [] names (search edges names) := by
  refine searched_foldlM (fun name member done ordered => ?_) .nil
  by_cases known : name ∈ done
  · simp only [List.contains_iff_mem, known, if_true]
    exact ⟨ordered, List.Subset.refl _, by simpa using known⟩
  · simp only [List.contains_iff_mem, known, if_false]
    have onWay : OnWay names [] name names.length := ⟨by simp, by simpa using member, by simp⟩
    exact searched_searchFrom inside names.length onWay ordered

-----------------------------------------------------------------------------------------
-- Ranks
-----------------------------------------------------------------------------------------

/-- Names in the order of their calls have ranks: the rank of each is no more than their number,
and it is above that of all it has an edge to. Induction on the names, the last of which gets the
next rank.
-/
theorem InCallOrder.exists_rank (ordered : InCallOrder edges done)
    : ∃ rank : Name → Nat,
        ∀ name ∈ done,
          rank name ≤ done.length
          ∧ ∀ called ∈ edges name, called ∈ done ∧ rank called < rank name := by
  induction ordered with
  | nil => exact ⟨fun _ => 0, by simp⟩
  | @cons last done called _ ih =>
      obtain ⟨rank, ranks⟩ := ih
      refine ⟨fun name => if name ∈ done then rank name else done.length + 1, ?_⟩
      intro name member
      by_cases before : name ∈ done
      · obtain ⟨bound, falls⟩ := ranks name before
        simp only [before, if_true, List.length_cons]
        refine ⟨by omega, fun other edge => ?_⟩
        obtain ⟨inDone, lower⟩ := falls other edge
        simpa [inDone] using lower
      · obtain rfl : name = last := (List.mem_cons.mp member).resolve_right before
        simp only [before, if_false, List.length_cons]
        refine ⟨Nat.le_refl _, fun other edge => ?_⟩
        have inDone := called edge
        have bound := (ranks other inDone).1
        simp only [inDone, if_true, List.mem_cons, or_true, true_and]
        omega

end RuleTable

-----------------------------------------------------------------------------------------
-- Grammars without left recursion
-----------------------------------------------------------------------------------------

/-- Ranks for the names of a grammar, up to some height: a rule may call at its left edge only
names of lower rank than that under which it is called.
-/
structure Grammar.Ranked (g : Grammar) (rank : Name → Nat) (height : Nat) : Prop where
  bounded : ∀ {name entry}, g.lookup name = some entry → rank name ≤ height
  falls
    : ∀ {name entry rule called callee},
        g.lookup name = some entry
        → rule ∈ entry.rules
        → called ∈ rule.expr.leftCalls g.ruleTable.nullableNames rule.sigspace
        → g.lookup called = some callee
        → rank called < rank name

namespace Grammar

variable {g : Grammar} {name called : Name}

/-- A name has an edge to a visible name that one of its rules may call at the left edge. -/
def LeftEdge (g : Grammar) (name called : Name) : Prop :=
  ∃ entry rule,
    g.lookup name = some entry
    ∧ rule ∈ entry.rules
    ∧ called ∈ rule.expr.leftCalls g.ruleTable.nullableNames rule.sigspace
    ∧ called ∈ g.allNames

/-- The table lists a name with the rules that it stands for. -/
theorem mem_rulesOf_iff {rule : Rule}
    : rule ∈ g.ruleTable.rulesOf name
      ↔ ∃ entry, g.lookup name = some entry ∧ rule ∈ entry.rules := by
  unfold RuleTable.rulesOf
  cases row : g.ruleTable.find? (·.1 = name) with
  | none =>
      refine ⟨nofun, fun ⟨entry, found, _⟩ => ?_⟩
      have listed := mem_ruleTable_of_lookup found
      exact absurd (decide_eq_true rfl) (List.find?_eq_none.mp row _ listed)
  | some row' =>
      obtain ⟨key, -, rfl⟩ := List.mem_map.mp (List.mem_of_find?_eq_some row)
      obtain rfl : key = name := by simpa using List.find?_some row
      cases g.lookup key <;> simp

theorem names_ruleTable (g : Grammar) : g.ruleTable.names = g.allNames := by
  simp [ruleTable, RuleTable.names, Function.comp_def]

/-- The edges that are searched are those between names. -/
theorem mem_leftEdges_iff
    : called ∈ g.ruleTable.leftEdges g.ruleTable.nullableNames name ↔ g.LeftEdge name called := by
  unfold RuleTable.leftEdges
  rw [Text.sorted, List.mem_mergeSort, mem_distinct, List.mem_filter, List.mem_flatMap,
    List.contains_iff_mem, names_ruleTable]
  constructor
  · rintro ⟨⟨rule, member, atEdge⟩, visible⟩
    obtain ⟨entry, found, member⟩ := mem_rulesOf_iff.mp member
    exact ⟨entry, rule, found, member, atEdge, visible⟩
  · rintro ⟨entry, rule, found, member, atEdge, visible⟩
    exact ⟨⟨rule, mem_rulesOf_iff.mpr ⟨entry, found, member⟩, atEdge⟩, visible⟩

theorem leftEdges_subset (g : Grammar) (name : Name)
    : g.ruleTable.leftEdges g.ruleTable.nullableNames name ⊆ g.ruleTable.names := by
  intro called edge
  obtain ⟨_, _, _, _, _, visible⟩ := mem_leftEdges_iff.mp edge
  rwa [names_ruleTable]

/-- A valid grammar has passed both checks. -/
theorem checks_of_validate (valid : g.validate = .ok ())
    : g.checkRules = .ok () ∧ g.leftCycle = [] := by
  unfold validate at valid
  cases checked : g.checkRules with
  | error error => simp [checked] at valid; cases valid
  | ok _ =>
      cases cycle : g.leftCycle with
      | nil => exact ⟨rfl, rfl⟩
      | cons name rest => simp [checked, cycle] at valid; cases valid

/-- In a grammar without left recursion the names have ranks: the search has found no cycle among
the calls at left edges.
-/
theorem exists_ranked (acyclic : g.leftCycle = []) : ∃ rank height, g.Ranked rank height := by
  have searched := RuleTable.searched_search g.leftEdges_subset
  cases ended : RuleTable.search (g.ruleTable.leftEdges g.ruleTable.nullableNames)
      g.ruleTable.names with
  | error cycle =>
      rw [ended] at searched
      simp only [leftCycle, RuleTable.leftCycle?, ended, Option.getD_some] at acyclic
      exact absurd acyclic searched
  | ok done =>
      rw [ended] at searched
      obtain ⟨rank, ranks⟩ := searched.ordered.exists_rank
      have isDone {name entry} (found : g.lookup name = some entry) : name ∈ done :=
        searched.reached (g.names_ruleTable ▸ mem_allNames_of_lookup found)
      refine ⟨rank, done.length, fun found => (ranks _ (isDone found)).1, ?_⟩
      intro name entry rule called callee found member atEdge stands
      have edge : g.LeftEdge name called :=
        ⟨entry, rule, found, member, atEdge, mem_allNames_of_lookup stands⟩
      exact ((ranks name (isDone found)).2 called (mem_leftEdges_iff.mpr edge)).2

end Grammar

end RuleGrammar
