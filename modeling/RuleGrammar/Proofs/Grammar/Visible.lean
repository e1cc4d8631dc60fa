import Mathlib.Data.List.Nodup
import RuleGrammar.Matcher.Apply

/-! The rules that a grammar can apply: whatever a name stands for is in the table of the grammar,
built-in rules included.
-/

namespace RuleGrammar

-----------------------------------------------------------------------------------------
-- Names without repetitions
-----------------------------------------------------------------------------------------

private theorem mem_distinct_from (names seen : List Name) (name : Name)
    : name ∈ names.foldl
          (fun seen name => if seen.contains name then seen else seen ++ [name]) seen
      ↔ name ∈ seen ∨ name ∈ names := by
  induction names generalizing seen with
  | nil => simp
  | cons first rest ih =>
      rw [List.foldl_cons, ih]
      by_cases known : first ∈ seen
      · simp only [List.contains_iff_mem.mpr known, if_true, List.mem_cons]
        constructor
        · rintro (member | member)
          · exact Or.inl member
          · exact Or.inr (Or.inr member)
        · rintro (member | same | member)
          · exact Or.inl member
          · exact Or.inl (same ▸ known)
          · exact Or.inr member
      · simp [known, or_assoc]

/-- Dropping repetitions keeps every name. -/
theorem mem_distinct {names : List Name} {name : Name}
    : name ∈ Expr.distinct names ↔ name ∈ names :=
  (mem_distinct_from names [] name).trans (by simp)

private theorem nodup_distinct_from (names seen : List Name) (nodup : seen.Nodup)
    : (names.foldl
        (fun seen name => if seen.contains name then seen else seen ++ [name]) seen).Nodup := by
  induction names generalizing seen with
  | nil => exact nodup
  | cons first rest ih =>
      rw [List.foldl_cons]
      by_cases known : first ∈ seen
      · rw [if_pos (List.contains_iff_mem.mpr known)]
        exact ih seen nodup
      · rw [if_neg (by simpa using known)]
        refine ih _ (List.nodup_append.mpr ⟨nodup, List.pairwise_singleton _ first, ?_⟩)
        rintro name member _ new rfl
        exact known (List.mem_singleton.mp new ▸ member)

/-- Names without repetitions have none. -/
theorem nodup_distinct (names : List Name) : (Expr.distinct names).Nodup :=
  nodup_distinct_from names [] List.nodup_nil

-----------------------------------------------------------------------------------------
-- Lookups find visible names
-----------------------------------------------------------------------------------------

namespace Layer

/-- An entry that is found stands in the list under its name. -/
theorem mem_of_lookupIn {name : Name} {entry : Entry} {entries : List (Name × Entry)}
    (found : lookupIn name entries = some entry)
    : (name, entry) ∈ entries := by
  induction entries with
  | nil => cases found
  | cons first rest ih =>
      obtain ⟨key, head⟩ := first
      by_cases here : key = name
      · simp only [lookupIn, here, if_true, Option.some.injEq] at found
        simp [here, found]
      · simp only [lookupIn, here, if_false] at found
        exact List.mem_cons_of_mem _ (ih found)

theorem mem_names_of_find? {layer : Layer} {name : Name} {entry : Entry}
    (found : layer.find? name = some entry)
    : name ∈ layer.names :=
  List.mem_map.mpr ⟨_, mem_of_lookupIn found, rfl⟩

/-- A name of a layer has an entry there, by induction on the entries. -/
theorem exists_find?_of_mem_names {layer : Layer} {name : Name} (member : name ∈ layer.names)
    : ∃ entry, layer.find? name = some entry := by
  have along {entries : List (Name × Entry)} (member : name ∈ entries.map (·.1))
      : ∃ entry, lookupIn name entries = some entry := by
    induction entries with
    | nil => cases member
    | cons first rest ih =>
        obtain ⟨key, head⟩ := first
        by_cases here : key = name
        · exact ⟨head, by simp [lookupIn, here]⟩
        · rcases List.mem_cons.mp member with same | later
          · exact absurd same.symm here
          · simpa only [lookupIn, here, if_false] using ih later
  exact along member

end Layer

namespace Grammar

/-- A name that stands for something stands in one of the layers or is built in. -/
theorem mem_names_of_lookupAlong {name : Name} {entry : Entry} {layers : List Layer}
    (found : lookupAlong name layers = some entry)
    : (∃ layer ∈ layers, name ∈ layer.names) ∨ name ∈ builtins.map (·.name) := by
  induction layers with
  | nil =>
      refine Or.inr ?_
      obtain ⟨rule, isBuiltin, rfl⟩ := Option.map_eq_some_iff.mp found
      have named : rule.name = name := by simpa using List.find?_some isBuiltin
      exact named ▸ List.mem_map_of_mem (List.mem_of_find?_eq_some isBuiltin)
  | cons layer older ih =>
      cases own : layer.find? name with
      | some entry =>
          exact Or.inl ⟨layer, by simp, Layer.mem_names_of_find? own⟩
      | none =>
          simp only [lookupAlong, own] at found
          rcases ih found with ⟨other, member, named⟩ | isBuiltin
          · exact Or.inl ⟨other, by simp [member], named⟩
          · exact Or.inr isBuiltin

theorem mem_allNames_of_lookup {g : Grammar} {name : Name} {entry : Entry}
    (found : g.lookup name = some entry)
    : name ∈ g.allNames := by
  refine mem_distinct.mpr (List.mem_append.mpr ?_)
  rcases mem_names_of_lookupAlong found with ⟨layer, member, named⟩ | isBuiltin
  · exact Or.inl (List.mem_flatMap.mpr ⟨layer, by simpa using member, named⟩)
  · exact Or.inr isBuiltin

/-- A name that one of the layers has stands for something, by induction on the layers. -/
theorem exists_lookupAlong {name : Name} {layers : List Layer}
    (named : (∃ layer ∈ layers, name ∈ layer.names) ∨ name ∈ builtins.map (·.name))
    : ∃ entry, lookupAlong name layers = some entry := by
  induction layers with
  | nil =>
      rcases named with ⟨_, ⟨⟩, _⟩ | isBuiltin
      obtain ⟨rule, member, named⟩ := List.mem_map.mp isBuiltin
      cases found : builtin? name with
      | none => exact absurd (decide_eq_true named) (List.find?_eq_none.mp found rule member)
      | some rule => exact ⟨.rule rule, by simp [lookupAlong, found]⟩
  | cons layer older ih =>
      unfold lookupAlong
      split
      · rename_i own
        refine ih (named.imp_left fun ⟨other, member, inOther⟩ => ?_)
        rcases List.mem_cons.mp member with rfl | member
        · obtain ⟨entry, found⟩ := Layer.exists_find?_of_mem_names inOther
          cases own.symm.trans found
        · exact ⟨other, member, inOther⟩
      · exact ⟨_, rfl⟩
      · exact ⟨_, rfl⟩

/-- The names of a grammar are those that stand for something. -/
theorem mem_allNames_iff {g : Grammar} {name : Name}
    : name ∈ g.allNames ↔ ∃ entry, g.lookup name = some entry := by
  refine ⟨fun member => exists_lookupAlong ?_, fun ⟨_, found⟩ => mem_allNames_of_lookup found⟩
  rcases List.mem_append.mp (mem_distinct.mp member) with inLayer | isBuiltin
  · obtain ⟨layer, inLineage, named⟩ := List.mem_flatMap.mp inLayer
    exact Or.inl ⟨layer, by simpa using inLineage, named⟩
  · exact Or.inr isBuiltin

/-- The rules that a grammar can apply, name by name. -/
def visibleRules (g : Grammar) : List Rule :=
  g.ruleTable.flatMap (·.2)

theorem length_visibleRules (g : Grammar) : g.visibleRules.length = g.ruleCount := rfl

/-- A name of the table stands there with the rules that it may apply. -/
theorem mem_ruleTable_of_lookup {g : Grammar} {name : Name} {entry : Entry}
    (found : g.lookup name = some entry)
    : (name, entry.rules) ∈ g.ruleTable := by
  refine List.mem_map.mpr ⟨name, mem_allNames_of_lookup found, ?_⟩
  simp [found]

/-- A rule is visible exactly when some name may apply it. -/
theorem mem_visibleRules {g : Grammar} {rule : Rule}
    : rule ∈ g.visibleRules
      ↔ ∃ name entry, g.lookup name = some entry ∧ rule ∈ entry.rules := by
  constructor
  · intro member
    obtain ⟨row, inTable, inRow⟩ := List.mem_flatMap.mp member
    obtain ⟨name, -, rfl⟩ := List.mem_map.mp inTable
    cases found : g.lookup name with
    | none => simp [found] at inRow
    | some entry => exact ⟨name, entry, found, by simpa [found] using inRow⟩
  · rintro ⟨name, entry, found, member⟩
    exact List.mem_flatMap.mpr ⟨_, mem_ruleTable_of_lookup found, member⟩

end Grammar

end RuleGrammar
