import RuleGrammar.Text.Subject

/-! Offsets that matching can move to. Matching never goes back, and it never goes beyond the end
of the subject, unless it starts there and stays.
-/

namespace RuleGrammar.Subject

/-- An offset lies ahead of another when it is not before it and, if it differs, not beyond the
end.
-/
def Ahead (s : Subject) (pos stop : Int) : Prop :=
  pos ≤ stop ∧ stop ≤ max pos s.size

theorem Ahead.refl (s : Subject) (pos : Int) : s.Ahead pos pos :=
  ⟨Int.le_refl _, Int.le_max_left _ _⟩

theorem Ahead.trans {s : Subject} {pos middle stop : Int} (first : s.Ahead pos middle)
    (second : s.Ahead middle stop)
    : s.Ahead pos stop := by
  obtain ⟨below, above⟩ := first
  obtain ⟨below', above'⟩ := second
  exact ⟨by omega, by omega⟩

/-- A way that ends where it started never left: its first part stayed. -/
theorem Ahead.middle_eq {s : Subject} {pos middle stop : Int} (first : s.Ahead pos middle)
    (second : s.Ahead middle stop) (returned : stop = pos)
    : middle = pos := by
  obtain ⟨below, -⟩ := first
  obtain ⟨below', -⟩ := second
  omega

/-- A way that ends where it started never left: its second part stayed. -/
theorem Ahead.stop_eq {s : Subject} {pos middle stop : Int} (first : s.Ahead pos middle)
    (second : s.Ahead middle stop) (returned : stop = pos)
    : stop = middle :=
  returned.trans (first.middle_eq second returned).symm

/-- From an offset inside the subject, what lies ahead is inside the subject. -/
theorem Ahead.le_size {s : Subject} {pos stop : Int} (ahead : s.Ahead pos stop)
    (inside : pos ≤ s.size)
    : stop ≤ s.size := by
  obtain ⟨below, above⟩ := ahead
  omega

/-- One code point further is ahead of any offset before the end. -/
theorem ahead_succ {s : Subject} {pos : Int} (inside : pos < s.size) : s.Ahead pos (pos + 1) :=
  ⟨by omega, by omega⟩

/-- Moving on leaves less of the subject than there was. -/
theorem Ahead.rest_lt {s : Subject} {pos stop : Int} (ahead : s.Ahead pos stop)
    (moved : stop ≠ pos)
    : (s.size - stop).toNat < (s.size - pos).toNat := by
  obtain ⟨below, above⟩ := ahead
  omega

/-- A literal that stands at an index ends inside the subject, by induction on the literal. -/
theorem holdsFrom_le {s : Subject} {literal : Text} {i : Nat} (inside : i ≤ s.size)
    (holds : s.holdsFrom literal i = true)
    : i + literal.length ≤ s.size := by
  induction literal generalizing i with
  | nil => simpa using inside
  | cons c rest ih =>
      simp only [holdsFrom, Bool.and_eq_true, beq_iff_eq] at holds
      have here : i < s.size := (Array.getElem?_eq_some_iff.mp holds.1).1
      have later := ih here holds.2
      simp only [List.length_cons]
      omega

/-- The end of a literal that stands at an offset lies ahead of it. -/
theorem ahead_of_holds {s : Subject} {literal : Text} {pos : Int}
    (holds : s.holds literal pos = true)
    : s.Ahead pos (pos + literal.length) := by
  simp only [Subject.holds, Bool.and_eq_true, decide_eq_true_eq] at holds
  obtain ⟨inside, stands⟩ := holds
  have start : s.index pos ≤ s.size := by
    unfold index
    split <;> omega
  have stop := holdsFrom_le start stands
  unfold index at stop
  refine ⟨by omega, ?_⟩
  split at stop <;> omega

end RuleGrammar.Subject
