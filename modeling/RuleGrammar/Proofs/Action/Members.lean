import Mathlib.Data.List.Nodup
import RuleGrammar.Action.Table

/-! Callbacks by name. The table of an object's members has under each key the callback of the one
public member with that key, in whatever order members are taken.
-/

namespace RuleGrammar.ActionTable

variable {table : ActionTable} {members : List (Text × Option Callback)} {name : Text}
  {callback : Callback} {key : Name × Option Name}

/-- What was registered is found under its key, and under other keys what was found before. -/
theorem lookup_register (rule : Name) (tag : Option Name)
    : (table.register rule tag callback).lookup key.1 key.2
      = if (rule, tag) = key then some callback else table.lookup key.1 key.2 := by
  obtain ⟨rows⟩ := table
  simp only [register, lookup]
  induction rows with
  | nil => by_cases same : (rule, tag) = key <;> simp [setRow, same]
  | cons row rest ih =>
      by_cases replaced : row.1 = (rule, tag)
      · by_cases same : (rule, tag) = key <;> simp [setRow, replaced, same]
      · by_cases here : row.1 = key
        · have other : ¬ (rule, tag) = key := fun same => replaced (here.trans same.symm)
          rw [setRow, if_neg replaced, if_neg other, List.find?_cons_of_pos (by simp [here]),
            List.find?_cons_of_pos (by simp [here])]
        · simpa [setRow, replaced, here] using ih

/-- The table with the callback of a member, if it has one and is public. -/
def enlist (table : ActionTable) (member : Text × Option Callback) : ActionTable :=
  match member.2 with
  | none => table
  | some callback =>
      if member.1.head? = some (CodePoint.ofChar '_') then table
      else table.register (memberKey member.1).1 (memberKey member.1).2 callback

theorem ofMembers_eq (members : List (Text × Option Callback))
    : ofMembers members
      = (members.mergeSort fun a b => Text.le a.1 b.1).foldl enlist {} := rfl

/-- Enlisting members with other keys leaves what is under a key, by induction on the members. -/
theorem lookup_enlist_of_notMem (absent : key ∉ members.map fun member => memberKey member.1)
    : (members.foldl enlist table).lookup key.1 key.2 = table.lookup key.1 key.2 := by
  induction members generalizing table with
  | nil => rfl
  | cons member rest ih =>
      obtain ⟨other, later⟩ := not_or.mp fun among => absent (List.mem_cons.mpr among)
      rw [List.foldl_cons, ih later, enlist]
      split
      · rfl
      · split
        · rfl
        · rw [lookup_register, if_neg fun same => other same.symm]

/-- A public member among some with keys of their own is found, by induction on the members: those
behind it leave it in the table.
-/
theorem lookup_enlist_of_mem (apart : (members.map fun member => memberKey member.1).Nodup)
    (member : (name, some callback) ∈ members)
    (isPublic : name.head? ≠ some (CodePoint.ofChar '_'))
    : (members.foldl enlist table).lookup (memberKey name).1 (memberKey name).2
      = some callback := by
  induction members generalizing table with
  | nil => cases member
  | cons first rest ih =>
      obtain ⟨new, apart⟩ := List.nodup_cons.mp apart
      rcases List.mem_cons.mp member with rfl | later
      · rw [List.foldl_cons, lookup_enlist_of_notMem new, enlist]
        simp only [if_neg isPublic]
        rw [lookup_register, if_pos rfl]
      · exact ih apart later

theorem lookup_ofMembers_of_mem (apart : (members.map fun member => memberKey member.1).Nodup)
    (member : (name, some callback) ∈ members)
    (isPublic : name.head? ≠ some (CodePoint.ofChar '_'))
    : (ofMembers members).lookup (memberKey name).1 (memberKey name).2 = some callback := by
  have sorted := List.mergeSort_perm members fun a b => Text.le a.1 b.1
  rw [ofMembers_eq]
  exact lookup_enlist_of_mem ((sorted.map _).nodup_iff.mpr apart) (sorted.mem_iff.mpr member)
    isPublic

theorem lookup_ofMembers_of_notMem
    (absent : key ∉ members.map fun member => memberKey member.1)
    : (ofMembers members).lookup key.1 key.2 = none := by
  have sorted := List.mergeSort_perm members fun a b => Text.le a.1 b.1
  rw [ofMembers_eq, lookup_enlist_of_notMem fun among => absent ((sorted.map _).mem_iff.mp among)]
  rfl

end RuleGrammar.ActionTable
