import Mathlib.Data.List.Sort
import RuleGrammar.Text.CodePoint

/-! The order of texts is linear, so that however texts are sorted, the outcome is the same. -/

namespace RuleGrammar

theorem CodePoint.eq_of_value {c d : CodePoint} (same : c.value = d.value) : c = d := by
  obtain ⟨c, _⟩ := c
  obtain ⟨d, _⟩ := d
  obtain rfl : c = d := same
  rfl

namespace Text

theorem le_total (s t : Text) : le s t = true ∨ le t s = true := by
  induction s generalizing t with
  | nil => exact Or.inl rfl
  | cons a s ih =>
      cases t with
      | nil => exact Or.inr rfl
      | cons b t =>
          by_cases same : a.value = b.value
          · simpa [le, same] using ih t
          · simp only [le, same, Ne.symm same, if_false, decide_eq_true_eq]
            omega

theorem le_trans {s t u : Text} (first : le s t = true) (second : le t u = true)
    : le s u = true := by
  induction s generalizing t u with
  | nil => rfl
  | cons a s ih =>
      cases t with
      | nil => cases first
      | cons b t =>
          cases u with
          | nil => cases second
          | cons c u =>
              simp only [le] at first second ⊢
              split at first
              · split at second
                · rw [if_pos (by omega)]
                  exact ih first second
                · simp only [decide_eq_true_eq] at second
                  rw [if_neg (by omega), decide_eq_true_eq]
                  omega
              · simp only [decide_eq_true_eq] at first
                split at second
                · rw [if_neg (by omega), decide_eq_true_eq]
                  omega
                · simp only [decide_eq_true_eq] at second
                  rw [if_neg (by omega), decide_eq_true_eq]
                  omega

theorem le_antisymm {s t : Text} (first : le s t = true) (second : le t s = true) : s = t := by
  induction s generalizing t with
  | nil =>
      cases t with
      | nil => rfl
      | cons b t => cases second
  | cons a s ih =>
      cases t with
      | nil => cases first
      | cons b t =>
          by_cases same : a.value = b.value
          · simp only [le, same, if_true] at first second
            rw [CodePoint.eq_of_value same, ih first second]
          · simp only [le, same, Ne.symm same, if_false, decide_eq_true_eq] at first second
            omega

/-- Texts in order, as a relation. -/
def Precedes (s t : Text) : Prop :=
  le s t = true

instance : DecidableRel Precedes := fun s t => inferInstanceAs (Decidable (le s t = true))

instance : Std.Total Precedes := ⟨le_total⟩

instance : IsTrans Text Precedes := ⟨fun _ _ _ => le_trans⟩

instance : Std.Antisymm Precedes := ⟨fun _ _ => le_antisymm⟩

/-- Sorted texts are the texts inserted in order one by one. -/
theorem sorted_eq_insertionSort (texts : List Text)
    : sorted texts = texts.insertionSort Precedes := by
  have same : (fun s t => decide (Precedes s t)) = le := by
    funext s t
    exact Bool.decide_eq_true
  rw [← List.mergeSort_eq_insertionSort Precedes, same]
  rfl

end Text

end RuleGrammar
