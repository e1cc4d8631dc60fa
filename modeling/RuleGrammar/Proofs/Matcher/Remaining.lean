import RuleGrammar.Text.Subject

/-! The text that is left at an offset. Reading a literal or a code point at an offset is reading
it from what is left there, so that statements about matching can be made about texts.
-/

namespace RuleGrammar.Subject

/-- At an offset of a subject this much of its text is left. -/
def Leaves (subject : Subject) (pos : Int) (rest : Text) : Prop :=
  ∃ before : Text, subject.toText = before ++ rest ∧ pos = before.length

namespace Leaves

variable {subject : Subject} {pos : Int} {t rest : Text}

theorem start (text : Text) : (ofText text).Leaves 0 text :=
  ⟨[], by simp [toText, ofText], rfl⟩

theorem advance (leaves : subject.Leaves pos (t ++ rest))
    : subject.Leaves (pos + t.length) rest := by
  obtain ⟨before, whole, rfl⟩ := leaves
  exact ⟨before ++ t, by simp [whole], by simp⟩

theorem advance_one {c : CodePoint} (leaves : subject.Leaves pos (c :: rest))
    : subject.Leaves (pos + 1) rest :=
  Leaves.advance (show subject.Leaves pos ([c] ++ rest) from leaves)

/-- What is left ends with the subject. -/
theorem add_length (leaves : subject.Leaves pos rest) : pos + rest.length = subject.size := by
  obtain ⟨before, whole, rfl⟩ := leaves
  have size : subject.size = subject.toText.length := by simp [Subject.size, toText]
  simp [size, whole]

/-- Only one text is left at an offset. -/
theorem unique {more : Text} (leaves : subject.Leaves pos rest)
    (again : subject.Leaves pos more)
    : rest = more := by
  obtain ⟨before, whole, rfl⟩ := leaves
  obtain ⟨other, whole', same⟩ := again
  have split : before ++ rest = other ++ more := whole.symm.trans whole'
  exact (List.append_inj split (by omega)).2

/-- The end is where nothing is left. -/
theorem eq_size_iff (leaves : subject.Leaves pos rest) : pos = subject.size ↔ rest = [] := by
  have size := leaves.add_length
  rw [← List.length_eq_zero_iff]
  omega

theorem index_add (leaves : subject.Leaves pos rest) (i : Nat)
    : subject.chars[subject.index pos + i]? = rest[i]? := by
  obtain ⟨before, whole, rfl⟩ := leaves
  have index : subject.index before.length = before.length := by
    unfold Subject.index
    split <;> omega
  have chars : subject.chars.toList = before ++ rest := whole
  rw [index, ← Array.getElem?_toList, chars, List.getElem?_append_right (by omega)]
  congr 1
  omega

theorem at? (leaves : subject.Leaves pos rest) : subject.at? pos = rest.head? := by
  have first := leaves.index_add 0
  have size := leaves.add_length
  rw [Nat.add_zero] at first
  unfold Subject.at?
  split
  · rw [first, ← List.head?_eq_getElem?]
  · have none_left : rest = [] := List.length_eq_zero_iff.mp (by omega)
    simp [none_left]

/-- A literal stands at an index where it begins what is left, by induction on the literal. -/
theorem holdsFrom_iff {i : Nat} (read : ∀ k, subject.chars[i + k]? = rest[k]?)
    : subject.holdsFrom t i = true ↔ t <+: rest := by
  induction t generalizing i rest with
  | nil => simp [holdsFrom]
  | cons c t ih =>
      have first := read 0
      rw [Nat.add_zero] at first
      cases rest with
      | nil => simp [holdsFrom, first]
      | cons d rest =>
          have later : ∀ k, subject.chars[i + 1 + k]? = rest[k]? := by
            intro k
            have next := read (k + 1)
            rw [List.getElem?_cons_succ] at next
            rw [← next]
            congr 1
            omega
          simp only [holdsFrom, first, List.getElem?_cons_zero, Bool.and_eq_true, beq_iff_eq,
            Option.some.injEq, ih later, List.cons_prefix_cons]
          exact and_congr_left fun _ => eq_comm

/-- A literal stands at an offset where it begins what is left. -/
theorem holds_iff (leaves : subject.Leaves pos rest)
    : subject.holds t pos = true ↔ t <+: rest := by
  have size := leaves.add_length
  have inside : pos ≤ subject.size := by omega
  simp only [holds, inside, decide_true, Bool.true_and]
  exact holdsFrom_iff leaves.index_add

/-- The stretch of a subject between two offsets. -/
theorem slice_eq (leaves : subject.Leaves pos (t ++ rest))
    : subject.slice pos (pos + t.length) = t := by
  obtain ⟨before, whole, rfl⟩ := leaves
  have start : subject.index before.length = before.length := by
    unfold Subject.index
    split <;> omega
  have stop : subject.index (before.length + t.length) = before.length + t.length := by
    unfold Subject.index
    split <;> omega
  have chars : subject.chars.toList = before ++ (t ++ rest) := whole
  rw [slice, start, stop, Array.toList_extract, chars, List.extract_eq_take_drop]
  simp

end Leaves

end RuleGrammar.Subject
