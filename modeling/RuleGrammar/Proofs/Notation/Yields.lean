import RuleGrammar.Notation.Cursor

/-! What readers result in, wherever they start and however far they come. -/

namespace RuleGrammar.Notation

/-- Whatever a reader results in has a property. -/
def Reader.Yields {α : Type} (property : α → Prop) (reader : Reader α) : Prop :=
  ∀ cursor a cursor', reader cursor = .ok (a, cursor') → property a

namespace Reader.Yields

variable {α β : Type} {property : α → Prop} {further : β → Prop}

theorem pure {a : α} (holds : property a) : Yields property (Pure.pure a) := by
  intro cursor a' cursor' ran
  cases ran
  exact holds

theorem fail (cause : Cause) : Yields property (Reader.fail cause) := by
  intro cursor a cursor' ran
  cases ran

theorem throw (fault : Fault) : Yields property (MonadExcept.throw fault : Reader α) := by
  intro cursor a cursor' ran
  cases ran

theorem bind {reader : Reader α} {next : α → Reader β} (first : reader.Yields property)
    (later : ∀ a, property a → (next a).Yields further)
    : (reader >>= next).Yields further := by
  intro cursor b cursor' ran
  change (do
    let (a, middle) ← reader cursor
    next a middle) = .ok (b, cursor') at ran
  cases read : reader cursor with
  | error fault =>
      rw [read] at ran
      cases ran
  | ok result =>
      rw [read] at ran
      exact later result.1 (first cursor result.1 result.2 read) result.2 b cursor' ran

/-- What a reader results in does not matter where nothing is asked of it. -/
theorem after {reader : Reader α} {next : α → Reader β} (later : ∀ a, (next a).Yields further)
    : (reader >>= next).Yields further := by
  have any : reader.Yields fun _ => True := fun _ _ _ _ => trivial
  exact any.bind fun a _ => later a

end Reader.Yields

end RuleGrammar.Notation
