import RuleGrammar.Grammar.Nullable
import Mathlib.Data.List.Nodup

/-! The nullable names are closed: a name with a rule that can match the empty text, when those
names can, is one of them. A pass over the table either adds a name or shows that there is none to
add, and only so many names can be added as the table has, so the passes come to an end.
-/

namespace RuleGrammar.RuleTable

/-- A row needs no name to be added: if one of its rules is nullable, its name is known. -/
def Settles (known : List Name) (row : Name × List Rule) : Prop :=
  ∀ rule ∈ row.2, rule.expr.nullable known = true → row.1 ∈ known

/-- Known names are distinct, and each is the name of a row. -/
structure Known (table : RuleTable) (known : List Name) : Prop where
  distinct : known.Nodup
  named : ∀ name ∈ known, name ∈ table.map (·.1)

variable {table : RuleTable} {known : List Name}

/-- No more names are known than there are rows. -/
theorem Known.length_le (names : table.Known known) : known.length ≤ table.length := by
  have bound := names.distinct.length_le_of_subset fun name member => names.named name member
  rwa [List.length_map] at bound

theorem Known.add (names : table.Known known) {row : Name × List Rule} (inTable : row ∈ table)
    (unknown : row.1 ∉ known)
    : table.Known (known ++ [row.1]) where
  distinct := by
    refine List.nodup_append.mpr ⟨names.distinct, by simp, ?_⟩
    intro name member other single same
    rw [List.mem_singleton.mp single] at same
    exact unknown (same ▸ member)
  named := by
    intro name member
    rcases List.mem_append.mp member with old | new
    · exact names.named name old
    · rw [List.mem_singleton.mp new]
      exact List.mem_map_of_mem inTable

/-- A step leaves the known names as they are where its row needs none, or adds the row's name. -/
theorem nullableStep_cases (known : List Name) (row : Name × List Rule)
    : (nullableStep known row = known ∧ Settles known row)
      ∨ (nullableStep known row = known ++ [row.1] ∧ row.1 ∉ known) := by
  unfold nullableStep
  by_cases member : row.1 ∈ known
  · exact Or.inl ⟨by simp [member], fun _ _ _ => member⟩
  · by_cases nullable : row.2.any (·.expr.nullable known) = true
    · exact Or.inr ⟨by simp [member, nullable], member⟩
    · refine Or.inl ⟨by simp [member, nullable], fun rule inRow isNullable => ?_⟩
      exact absurd (List.any_eq_true.mpr ⟨rule, inRow, isNullable⟩) nullable

-----------------------------------------------------------------------------------------
-- Passes
-----------------------------------------------------------------------------------------

/-- Rows one after the other only add names behind the known ones. -/
theorem prefix_nullableSteps (known : List Name) (rows : List (Name × List Rule))
    : known <+: rows.foldl nullableStep known := by
  induction rows generalizing known with
  | nil => exact List.prefix_rfl
  | cons row rest ih =>
      rw [List.foldl_cons]
      refine List.IsPrefix.trans ?_ (ih _)
      rcases nullableStep_cases known row with ⟨same, -⟩ | ⟨added, -⟩
      · simp [same]
      · simp [added]

/-- What rows of the table add is known, by induction on the rows. -/
theorem Known.nullableSteps {rows : List (Name × List Rule)} (names : table.Known known)
    (inTable : rows ⊆ table)
    : table.Known (rows.foldl nullableStep known) := by
  induction rows generalizing known with
  | nil => exact names
  | cons row rest ih =>
      obtain ⟨here, later⟩ := List.cons_subset.mp inTable
      rw [List.foldl_cons]
      rcases nullableStep_cases known row with ⟨same, -⟩ | ⟨added, unknown⟩
      · rw [same]
        exact ih names later
      · rw [added]
        exact ih (names.add here unknown) later

/-- Rows that add nothing need no name, by induction on the rows. -/
theorem settles_of_nullableSteps_eq {rows : List (Name × List Rule)}
    (steady : rows.foldl nullableStep known = known)
    : ∀ row ∈ rows, Settles known row := by
  induction rows with
  | nil => exact nofun
  | cons row rest ih =>
      rw [List.foldl_cons] at steady
      rcases nullableStep_cases known row with ⟨same, settled⟩ | ⟨added, -⟩
      · rw [same] at steady
        exact List.forall_mem_cons.mpr ⟨settled, ih steady⟩
      · have grown := (prefix_nullableSteps (nullableStep known row) rest).length_le
        rw [steady, added, List.length_append, List.length_singleton] at grown
        omega

/-- So many passes, each of which changes what is known, lead from some names to others. -/
inductive Passes (table : RuleTable) : Nat → List Name → List Name → Prop
  | done {known : List Name} : Passes table 0 known known
  | next {passes : Nat} {known last : List Name} (changes : table.nullablePass known ≠ known)
    (later : Passes table passes (table.nullablePass known) last)
    : Passes table (passes + 1) known last

theorem Known.nullablePass (names : table.Known known) : table.Known (table.nullablePass known) :=
  names.nullableSteps (List.Subset.refl table)

namespace Passes

variable {passes : Nat} {last : List Name} (passed : table.Passes passes known last)

include passed

theorem known_last (names : table.Known known) : table.Known last := by
  induction passed with
  | done => exact names
  | next _ _ ih => exact ih names.nullablePass

/-- Each pass that changes what is known adds a name, by induction on the passes. -/
theorem length_le : known.length + passes ≤ last.length := by
  induction passed with
  | done => simp
  | @next passes known last changes _ ih =>
      have grown := prefix_nullableSteps known table
      have longer : known.length < (table.nullablePass known).length :=
        Nat.lt_of_le_of_ne grown.length_le fun same => changes (grown.eq_of_length same).symm
      omega

end Passes

/-- With enough of them allowed, the passes go on until one changes nothing: induction on how many
are allowed, as each that adds a name leaves fewer to be added.
-/
theorem exists_passes (allowed : Nat) (names : table.Known known)
    (enough : table.length < known.length + allowed)
    : ∃ passes,
        table.Passes passes known (table.nullableFrom allowed known)
        ∧ table.nullablePass (table.nullableFrom allowed known)
          = table.nullableFrom allowed known := by
  induction allowed generalizing known with
  | zero =>
      have bound := names.length_le
      omega
  | succ allowed ih =>
      have grown : known <+: table.nullablePass known := prefix_nullableSteps known table
      unfold nullableFrom
      by_cases unchanged : (table.nullablePass known).length = known.length
      · simp only [unchanged, if_true]
        exact ⟨0, .done, (grown.eq_of_length unchanged.symm).symm⟩
      · simp only [unchanged, if_false]
        have longer := grown.length_le
        obtain ⟨passes, later, settled⟩ := ih names.nullablePass (by omega)
        exact ⟨passes + 1, .next (fun same => unchanged (by rw [same])) later, settled⟩

theorem known_nil (table : RuleTable) : table.Known [] :=
  ⟨List.nodup_nil, by simp⟩

/-- The nullable names come about by passes that each change something, and one more that does
not.
-/
theorem exists_passes_nullableNames (table : RuleTable)
    : ∃ passes,
        table.Passes passes [] table.nullableNames
        ∧ table.nullablePass table.nullableNames = table.nullableNames :=
  exists_passes (table.length + 1) table.known_nil (by simp)

/-- A name with a nullable rule is nullable: the last pass had no need of it. -/
theorem mem_nullableNames {row : Name × List Rule} (inTable : row ∈ table) {rule : Rule}
    (inRow : rule ∈ row.2) (nullable : rule.expr.nullable table.nullableNames = true)
    : row.1 ∈ table.nullableNames := by
  obtain ⟨_, -, steady⟩ := table.exists_passes_nullableNames
  exact settles_of_nullableSteps_eq steady row inTable rule inRow nullable

end RuleGrammar.RuleTable
