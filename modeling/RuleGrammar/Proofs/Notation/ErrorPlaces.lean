import RuleGrammar.Grammar.Program
import RuleGrammar.Proofs.Notation.Watching
import RuleGrammar.Proofs.Text.Lines

/-! The places that faults of grammar notation are reported at. Each is the place of an offset of
the source, but for one slip: hexadecimal digits of an escape are passed over before they are
checked, so a source that ends within such an escape is reported at a column behind its end.
-/

namespace RuleGrammar

/-- A place behind the end of a text is as far behind the place of the end. -/
theorem Subject.place_behind (s : Subject) (past : Nat)
    : s.place (s.size + past : Nat)
      = ⟨(s.place s.size).line, (s.place s.size).column + past⟩ := by
  have whole (more : Nat) : s.before (s.size + more : Nat) = s.toText := by
    rw [before_of_nat, List.take_of_length_le]
    exact Nat.le_add_right s.size more
  have same : s.before (s.size + past : Nat) = s.before s.size := (whole past).trans (whole 0).symm
  simp only [place, lineStart, same, Place.mk.injEq, true_and]
  omega

/-- A place is at most as many columns to the right as there is text before it. -/
theorem Place.Marks.column_le {place : Place} {t line : Text} {pos : Int}
    (marks : place.Marks t pos line)
    : place.column ≤ pos + 1 := by
  have := marks.measured
  omega

/-- The fault of a source lies in it. -/
theorem Notation.document_liesIn {known : List Name} {source : Text} {fault : Fault}
    (refused : document known ⟨0, source⟩ = .error fault)
    : fault.LiesIn source := by
  have enough : RoomFor source ⟨0, source⟩ 10 (8 * source.length + 10) := by
    change _ ≤ 8 * 0 + _
    omega
  have ended := (Watches.document known enough).stays ⟨[], rfl, rfl⟩
  rw [refused] at ended
  cases ended with
  | error lies => exact lies

namespace Grammars

open Notation (CutShort)

variable {known : Grammars} {source : Text} {place : Place} {cause : Notation.Cause}

theorem read_eq_malformed (refused : read known source = .error (.malformed place cause))
    : ∃ offset : Nat,
        (Notation.Fault.malformed offset cause).LiesIn source
        ∧ place = (Subject.ofText source).place offset := by
  cases ended : Notation.document (known.map (·.1)) ⟨0, source⟩ with
  | ok result =>
      rw [read, Notation.read, ended] at refused
      cases refused
  | error fault =>
      rw [read, Notation.read, ended] at refused
      have lies := Notation.document_liesIn ended
      cases fault with
      | malformed offset cause =>
          cases refused
          exact ⟨offset, lies, Notation.cursorPlace_eq source offset⟩
      | numeralTooLong => cases refused
      | grammar error => cases refused

/-- A refused source is reported at the line and column of an offset of it, with one exception: a
hexadecimal digit that it does not have is reported at a column behind its end, two columns behind
if both digits after `x` are missing, and else one.
-/
theorem read_refused_at (refused : read known source = .error (.malformed place cause))
    : (∃ offset : Nat, offset ≤ source.length ∧ ∃ line, place.Marks source offset line)
      ∨ cause = .invalidHexDigit
          ∧ ∃ past line,
              CutShort source past
              ∧ Place.Marks ⟨place.line, place.column - past⟩ source source.length line := by
  obtain ⟨offset, lies, rfl⟩ := read_eq_malformed refused
  have marks {offset : Nat} (within : offset ≤ source.length)
      : ∃ line, ((Subject.ofText source).place offset).Marks source offset line :=
    ⟨_, Subject.marks_of_nat within⟩
  rcases lies with within | ⟨rfl, past, short, rfl⟩
  · exact .inl ⟨offset, within, marks within⟩
  · obtain ⟨line, atEnd⟩ := marks (Nat.le_refl source.length)
    refine .inr ⟨rfl, past, line, short, ?_⟩
    have behind : (Subject.ofText source).place (source.length + past : Nat) = ⟨_, _⟩ :=
      Subject.place_behind _ past
    rw [behind, Int.add_sub_cancel]
    exact atEnd

/-- A computation that refuses a source at a place and for a cause of a decidable kind. -/
theorem exists_malformed {result : Except Notation.Error Grammars}
    {P : Place → Notation.Cause → Prop} [∀ place cause, Decidable (P place cause)]
    (holds
      : (match result with
          | .error (.malformed place cause) => decide (P place cause)
          | _ => false)
        = true)
    : ∃ place cause, result = .error (.malformed place cause) ∧ P place cause := by
  split at holds
  · exact ⟨_, _, rfl, of_decide_eq_true holds⟩
  · cases holds

/-- A comma without quotes on the third line. -/
def unquoted : Text :=
  "grammar G \x7b\n  token t \x7b 'a' \x7d\n  token u \x7b 'a' , \x7d\n\x7d"

theorem read_refused_at_comma
    : ∃ cause,
        read [] unquoted = .error (.malformed ⟨3, 17⟩ cause)
          ∧ ∃ offset : Nat, offset ≤ unquoted.length
              ∧ ∃ line, Place.Marks ⟨3, 17⟩ unquoted offset line := by
  obtain ⟨place, cause, refused, rfl, rfl⟩
      : ∃ place cause,
          read [] unquoted = .error (.malformed place cause)
            ∧ place = ⟨3, 17⟩
            ∧ cause = .punctuation ',' :=
    exists_malformed (by decide +kernel)
  rcases read_refused_at refused with marked | ⟨same, -⟩
  · exact ⟨_, refused, marked⟩
  · cases same

/-- A source that ends right behind the start of a hexadecimal escape. -/
def cutShort : Text :=
  "grammar T \x7b token a \x7b '\\x"

/-- A source may be refused at a line and column that are those of no offset of it. -/
theorem exists_read_refused_behind
    : ∃ source place cause,
        read [] source = .error (.malformed place cause)
          ∧ ∀ offset : Nat, offset ≤ source.length →
              ∀ line, ¬place.Marks source offset line := by
  obtain ⟨place, cause, refused, behind⟩
      : ∃ place cause,
          read [] cutShort = .error (.malformed place cause)
            ∧ (cutShort.length + 1 : Nat) < place.column :=
    exists_malformed (by decide +kernel)
  refine ⟨cutShort, place, cause, refused, fun offset within line marks => ?_⟩
  have := marks.column_le
  omega

end Grammars

end RuleGrammar
