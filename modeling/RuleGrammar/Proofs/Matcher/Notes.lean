import RuleGrammar.Matcher.Furthest

/-! What failures add to the record of the furthest ones. Noted again, they leave a record that has
come as far as it was, except that another goal may be named of those missed at its position.
-/

namespace RuleGrammar.Furthest

/-- A failure to note: a text was expected, or a goal was missed. -/
inductive Note
  | text (rule : Option Name) (pos : Int) (what : Text)
  | goal (rule : Option Name) (pos : Int) (what : Text)

def Note.pos : Note → Int
  | text _ pos _ | goal _ pos _ => pos

/-- The record with one more failure. -/
def note (f : Furthest) : Note → Furthest
  | .text rule pos what => f.record rule pos what
  | .goal rule pos what => f.recordGoal rule pos what

variable {f g h : Furthest} {n : Note} {rule : Option Name} {pos : Int} {what : Text}

-----------------------------------------------------------------------------------------
-- One note
-----------------------------------------------------------------------------------------

theorem note_position (f : Furthest) (n : Note) : (f.note n).position = max f.position n.pos := by
  cases n with
  | text rule pos what =>
      simp only [note, record, Note.pos]
      by_cases further : f.position < pos
      · simp only [further, if_true]
        omega
      · simp only [further, if_false]
        split
        · simp only
          omega
        · omega
  | goal rule pos what =>
      simp only [note, recordGoal, Note.pos]
      split
      · simp only
        omega
      · omega

/-- Behind the record, a note changes nothing. -/
theorem note_of_lt (behind : n.pos < f.position) : f.note n = f := by
  cases n with
  | text rule pos what =>
      have passed : ¬ f.position < pos := Int.not_lt.mpr (Int.le_of_lt behind)
      have elsewhere : pos ≠ f.position := Int.ne_of_lt behind
      simp [note, record, passed, elsewhere]
  | goal rule pos what =>
      have passed : ¬ f.position ≤ pos := Int.not_le.mpr behind
      simp [note, recordGoal, passed]

/-- A goal that is missed no less far than the record replaces it, whatever it was. -/
theorem note_goal (reached : f.position ≤ pos)
    : f.note (.goal rule pos what) = ⟨pos, rule, [what], some what⟩ := by
  simp [note, recordGoal, reached]

/-- Ahead of the record, an expected text replaces it, whatever it was. -/
theorem note_text_ahead (ahead : f.position < pos)
    : f.note (.text rule pos what) = ⟨pos, rule, [what], none⟩ := by
  simp [note, record, ahead]

/-- Ahead of two records, a note makes them the same. -/
theorem note_eq_of_lt (ahead : f.position < n.pos) (ahead' : g.position < n.pos)
    : f.note n = g.note n := by
  cases n with
  | text rule pos what => exact (note_text_ahead ahead).trans (note_text_ahead ahead').symm
  | goal rule pos what =>
      exact (note_goal (Int.le_of_lt ahead)).trans (note_goal (Int.le_of_lt ahead')).symm

/-- Where a goal is recorded, expected texts are not. -/
theorem note_text_of_goal (named : f.goal.isSome = true)
    : f.note (.text rule f.position what) = f := by
  have goal : ¬ f.goal.isNone = true := by simpa using Option.isSome_iff_ne_none.mp named
  simp [note, record, goal]

/-- Where no goal is recorded, an expected text is, unless it is already. -/
theorem note_text_of_goalless (goalless : f.goal = none)
    : f.note (.text rule f.position what)
      = if what ∈ f.expected then f else { f with expected := f.expected ++ [what] } := by
  by_cases member : what ∈ f.expected <;> simp [note, record, goalless, member]

/-- An expected text does not bring about that a goal is named, by cases on where it is noted. -/
theorem note_text_of_named (named : (f.note (.text rule pos what)).goal.isSome = true)
    : f.note (.text rule pos what) = f := by
  rcases Int.lt_trichotomy pos f.position with behind | rfl | ahead
  · exact note_of_lt behind
  · cases goal : f.goal with
    | some what' => exact note_text_of_goal (by rw [goal]; rfl)
    | none =>
        rw [note_text_of_goalless goal] at named
        split at named <;> simp [goal] at named
  · simp [note_text_ahead ahead] at named

/-- A text that is expected no less far than the record is listed, unless a goal is named. -/
theorem mem_expected_note (reached : f.position ≤ pos)
    (goalless : (f.note (.text rule pos what)).goal = none)
    : what ∈ (f.note (.text rule pos what)).expected := by
  rcases Int.lt_or_eq_of_le reached with ahead | rfl
  · simp [note_text_ahead ahead]
  · cases goal : f.goal with
    | some what' =>
        rw [note_text_of_goal (by rw [goal]; rfl), goal] at goalless
        cases goalless
    | none =>
        rw [note_text_of_goalless goal]
        split
        · assumption
        · simp

-----------------------------------------------------------------------------------------
-- Records that agree
-----------------------------------------------------------------------------------------

/-- Two records agree: they have come equally far, and they are the same or both name a goal. -/
structure Agrees (f g : Furthest) : Prop where
  position : f.position = g.position
  goal : f.goal.isSome = g.goal.isSome
  same : f.goal = none → f = g

namespace Agrees

theorem refl (f : Furthest) : f.Agrees f :=
  ⟨rfl, rfl, fun _ => rfl⟩

theorem symm (agrees : f.Agrees g) : g.Agrees f := by
  refine ⟨agrees.position.symm, agrees.goal.symm, fun goalless => (agrees.same ?_).symm⟩
  simpa [goalless] using agrees.goal

theorem trans (agrees : f.Agrees g) (next : g.Agrees h) : f.Agrees h := by
  refine ⟨agrees.position.trans next.position, agrees.goal.trans next.goal, fun goalless => ?_⟩
  obtain rfl := agrees.same goalless
  exact next.same goalless

/-- One note keeps records in agreement, by cases on where it is made. -/
theorem note (agrees : f.Agrees g) (n : Note) : (f.note n).Agrees (g.note n) := by
  have position := agrees.position
  rcases Int.lt_trichotomy n.pos f.position with behind | here | ahead
  · rw [note_of_lt behind, note_of_lt (position ▸ behind)]
    exact agrees
  · cases n with
    | goal rule pos what =>
        obtain rfl : pos = f.position := here
        rw [note_goal (Int.le_refl _), note_goal (Int.le_of_eq position.symm)]
        exact .refl _
    | text rule pos what =>
        obtain rfl : pos = f.position := here
        cases named : f.goal with
        | none =>
            rw [agrees.same named]
            exact .refl _
        | some what' =>
            have left : f.goal.isSome = true := by rw [named]; rfl
            have right : g.goal.isSome = true := agrees.goal ▸ left
            rw [note_text_of_goal left, position, note_text_of_goal right]
            exact agrees
  · rw [note_eq_of_lt ahead (position ▸ ahead)]
    exact .refl _

end Agrees

-----------------------------------------------------------------------------------------
-- Records that hold others
-----------------------------------------------------------------------------------------

/-- A record holds another one: it has passed it, it names a goal at the same position, or it lists
all that the other one expects and that one names no goal.
-/
inductive Within (f g : Furthest) : Prop
  | passed (further : f.position < g.position)
  | named (position : f.position = g.position) (goal : g.goal.isSome = true)
  | listed (position : f.position = g.position) (goalless : f.goal = none)
    (expected : f.expected ⊆ g.expected)

namespace Within

theorem of_agrees (agrees : f.Agrees g) : f.Within g := by
  cases goal : f.goal with
  | none => exact .listed agrees.position goal (by rw [agrees.same goal]; exact List.Subset.refl _)
  | some what => exact .named agrees.position (by rw [← agrees.goal, goal]; rfl)

theorem refl (f : Furthest) : f.Within f :=
  .of_agrees (.refl f)

theorem position_le (within : f.Within g) : f.position ≤ g.position := by
  cases within with
  | passed further => exact Int.le_of_lt further
  | named position _ => exact Int.le_of_eq position
  | listed position _ _ => exact Int.le_of_eq position

theorem trans (within : f.Within g) (next : g.Within h) : f.Within h := by
  cases next with
  | passed further => exact .passed (Int.lt_of_le_of_lt within.position_le further)
  | named position goal =>
      rcases Int.lt_or_eq_of_le within.position_le with further | same
      · exact .passed (position ▸ further)
      · exact .named (same.trans position) goal
  | listed position goalless expected =>
      cases within with
      | passed further => exact .passed (position ▸ further)
      | named _ goal => simp [goalless] at goal
      | listed same goalless' expected' =>
          exact .listed (same.trans position) goalless' (List.Subset.trans expected' expected)

/-- A record with one more failure holds what it held, by cases on where the failure is. -/
theorem note (f : Furthest) (n : Note) : f.Within (f.note n) := by
  rcases Int.lt_trichotomy n.pos f.position with behind | here | ahead
  · rw [note_of_lt behind]
    exact .refl f
  · cases n with
    | goal rule pos what =>
        obtain rfl : pos = f.position := here
        rw [note_goal (Int.le_refl _)]
        exact .named rfl rfl
    | text rule pos what =>
        obtain rfl : pos = f.position := here
        cases goal : f.goal with
        | some what' =>
            rw [note_text_of_goal (by rw [goal]; rfl)]
            exact .refl f
        | none =>
            rw [note_text_of_goalless goal]
            split
            · exact .refl f
            · exact .listed rfl goal (List.subset_append_left _ _)
  · exact .passed (by rw [note_position]; omega)

/-- A failure that a record holds already leaves it in agreement with what it was. -/
theorem note_agrees (within : (g.note n).Within f) : (f.note n).Agrees f := by
  have reached := within.position_le
  rw [note_position] at reached
  rcases Int.lt_trichotomy n.pos f.position with behind | here | ahead
  · rw [note_of_lt behind]
    exact .refl f
  · cases n with
    | goal rule pos what =>
        obtain rfl : pos = f.position := here
        rw [note_goal (show g.position ≤ f.position by omega)] at within
        rw [note_goal (Int.le_refl _)]
        cases within with
        | passed further => exact absurd further (Int.lt_irrefl _)
        | named _ goal => exact ⟨rfl, goal.symm, nofun⟩
        | listed _ goalless _ => cases goalless
    | text rule pos what =>
        obtain rfl : pos = f.position := here
        cases goal : f.goal with
        | some what' =>
            rw [note_text_of_goal (by rw [goal]; rfl)]
            exact .refl f
        | none =>
            have listed : what ∈ f.expected := by
              cases within with
              | passed further =>
                  rw [note_position] at further
                  simp only [Note.pos] at further
                  omega
              | named _ named => simp [goal] at named
              | listed _ goalless expected => exact expected (mem_expected_note (by omega) goalless)
            rw [note_text_of_goalless goal, if_pos listed]
            exact .refl f
  · omega

end Within

end RuleGrammar.Furthest
