import RuleGrammar.Proofs.Matcher.ApplyLockstep

/-! What the record of the furthest failures sums up. In whatever order failures are reported, at
rising, equal or falling offsets, the record says what was reported at the greatest of them: the
goal that was missed there last, or else the texts that were expected there. What is reported in a
quiet scope is not heard.
-/

namespace RuleGrammar

namespace Furthest

-----------------------------------------------------------------------------------------
-- Failures at one offset
-----------------------------------------------------------------------------------------

namespace Note

def rule : Note → Option Name
  | text rule _ _ | goal rule _ _ => rule

def what : Note → Text
  | text _ _ what | goal _ _ what => what

def isGoal : Note → Bool
  | text _ _ _ => false
  | goal _ _ _ => true

end Note

/-- What is to be said of the failures at an offset: the last goal that was missed there and nothing
besides, or else all texts that were expected there, each once and in the order of their first
occurrences, with the rule of the first one.
-/
def sumUp (reach : Int) (there : List Note) : Furthest :=
  match (there.filter Note.isGoal).getLast? with
  | some last =>
      { position := reach, rule := last.rule, expected := [last.what], goal := some last.what }
  | none =>
      { position := reach
        rule := there.head?.bind Note.rule
        expected := (there.map Note.what).eraseDups }

variable {f : Furthest} {n : Note} {notes there : List Note} {reach : Int}

@[simp] theorem sumUp_position (reach : Int) (there : List Note)
    : (sumUp reach there).position = reach := by
  unfold sumUp
  split <;> rfl

/-- A single failure is what is noted of it in any record that has not come so far. -/
theorem sumUp_singleton (ahead : f.position < n.pos) : sumUp n.pos [n] = f.note n := by
  cases n with
  | text rule pos what => exact (note_text_ahead ahead).symm
  | goal rule pos what => exact (note_goal (Int.le_of_lt ahead)).symm

theorem sumUp_of_goal (reach : Int) {last : Note}
    (named : (there.filter Note.isGoal).getLast? = some last)
    : sumUp reach there = ⟨reach, last.rule, [last.what], some last.what⟩ := by
  rw [sumUp, named]

theorem sumUp_of_goalless (reach : Int)
    (goalless : (there.filter Note.isGoal).getLast? = none)
    : sumUp reach there
      = ⟨reach, there.head?.bind Note.rule, (there.map Note.what).eraseDups, none⟩ := by
  rw [sumUp, goalless]

/-- A text behind others stands for one more, if it is new. -/
theorem eraseDups_append_singleton (texts : List Text) (what : Text)
    : (texts ++ [what]).eraseDups
      = if what ∈ texts.eraseDups then texts.eraseDups else texts.eraseDups ++ [what] := by
  have alone : [what].eraseDups = [what] := by simp [List.eraseDups_cons]
  by_cases member : what ∈ texts <;> simp [List.eraseDups_append, List.removeAll, member, alone]

/-- One failure more is summed up by noting it: a goal outranks all that was said, and a text is
added only where no goal is named.
-/
theorem sumUp_append (nonempty : there ≠ [])
    : sumUp n.pos (there ++ [n]) = (sumUp n.pos there).note n := by
  cases n with
  | goal rule pos what =>
      have last : ((there ++ [Note.goal rule pos what]).filter Note.isGoal).getLast?
          = some (Note.goal rule pos what) := by
        simp [Note.isGoal]
      exact (sumUp_of_goal pos last).trans (note_goal (by simp [Note.pos])).symm
  | text rule pos what =>
      have goals : (there ++ [Note.text rule pos what]).filter Note.isGoal
          = there.filter Note.isGoal := by
        simp [Note.isGoal]
      cases named : (there.filter Note.isGoal).getLast? with
      | some last =>
          have before := sumUp_of_goal pos named
          have after := sumUp_of_goal pos ((congrArg List.getLast? goals).trans named)
          have kept : (sumUp pos there).note (.text rule (sumUp pos there).position what)
              = sumUp pos there :=
            note_text_of_goal (by rw [before]; rfl)
          rw [sumUp_position] at kept
          exact (after.trans before.symm).trans kept.symm
      | none =>
          have before := sumUp_of_goalless pos named
          have after := sumUp_of_goalless pos ((congrArg List.getLast? goals).trans named)
          have added : (sumUp pos there).note (.text rule (sumUp pos there).position what)
              = if what ∈ (sumUp pos there).expected then sumUp pos there
                else { sumUp pos there with expected := (sumUp pos there).expected ++ [what] } :=
            note_text_of_goalless (by rw [before])
          rw [sumUp_position, before] at added
          rw [show (Note.text rule pos what).pos = pos from rfl, after, before, added]
          obtain ⟨first, rest, rfl⟩ := List.exists_cons_of_ne_nil nonempty
          rw [List.map_append, List.map_singleton, eraseDups_append_singleton]
          by_cases known : what ∈ ((first :: rest).map Note.what).eraseDups
          · rw [if_pos known, Note.what, if_pos known]
            rfl
          · rw [if_neg known, Note.what, if_neg known]
            rfl

-----------------------------------------------------------------------------------------
-- Failures at any offsets
-----------------------------------------------------------------------------------------

/-- The summary of some failures: what is to be said of those at the greatest offset. -/
def summary (notes : List Note) : Furthest :=
  match (notes.map Note.pos).max? with
  | none => {}
  | some reach => sumUp reach (notes.filter fun n => n.pos = reach)

@[simp] theorem summary_nil : summary [] = {} := rfl

theorem summary_eq_sumUp (reach : Int) (member : ∃ n ∈ notes, n.pos = reach)
    (greatest : ∀ n ∈ notes, n.pos ≤ reach)
    : summary notes = sumUp reach (notes.filter fun n => n.pos = reach) := by
  have found : (notes.map Note.pos).max? = some reach :=
    List.max?_eq_some_iff.mpr ⟨List.mem_map.mpr member, by simpa using greatest⟩
  rw [summary, found]

/-- One failure more is summed up by noting it, by cases on where it is. -/
theorem summary_append (inside : 0 ≤ n.pos) (notes : List Note)
    : summary (notes ++ [n]) = (summary notes).note n := by
  cases furthest : (notes.map Note.pos).max? with
  | none =>
      obtain rfl : notes = [] := by simpa using furthest
      have alone : summary [n] = sumUp n.pos [n] := by
        rw [summary_eq_sumUp n.pos (by simp) (by simp), List.filter_singleton]
        simp
      exact alone.trans (sumUp_singleton (Int.lt_of_lt_of_le (by decide) inside))
  | some reach =>
      obtain ⟨member, greatest⟩ := List.max?_eq_some_iff.mp furthest
      simp only [List.mem_map, forall_exists_index, and_imp, forall_apply_eq_imp_iff₂]
        at member greatest
      obtain ⟨m, inNotes, rfl⟩ := member
      rw [summary_eq_sumUp m.pos ⟨m, inNotes, rfl⟩ greatest]
      rcases Int.lt_trichotomy n.pos m.pos with behind | here | ahead
      · have elsewhere : n.pos ≠ m.pos := Int.ne_of_lt behind
        rw [summary_eq_sumUp m.pos ⟨m, by simp [inNotes], rfl⟩ ?_, note_of_lt (by simpa)]
        · simp [elsewhere]
        · simpa [or_imp, forall_and] using ⟨greatest, Int.le_of_lt behind⟩
      · rw [← here] at greatest ⊢
        rw [summary_eq_sumUp n.pos ⟨n, by simp, rfl⟩ ?_, ← sumUp_append ?_]
        · simp
        · exact List.ne_nil_of_mem (List.mem_filter.mpr ⟨inNotes, by simp [here]⟩)
        · simpa [or_imp, forall_and] using greatest
      · have none : notes.filter (fun k => k.pos = n.pos) = [] := by
          simp only [List.filter_eq_nil_iff, decide_eq_true_eq]
          exact fun k isNote => Int.ne_of_lt (Int.lt_of_le_of_lt (greatest k isNote) ahead)
        rw [summary_eq_sumUp n.pos ⟨n, by simp, rfl⟩ ?_, ← sumUp_singleton (by simpa)]
        · simp [none]
        · simp only [List.mem_append, List.mem_singleton]
          rintro k (isNote | rfl)
          · exact Int.le_trans (greatest k isNote) (Int.le_of_lt ahead)
          · exact Int.le_refl _

/-- Noting failures one after the other sums them up with those before, by induction on them. -/
theorem foldl_note_summary (before : List Note) (inside : ∀ n ∈ notes, 0 ≤ n.pos)
    : notes.foldl note (summary before) = summary (before ++ notes) := by
  induction notes generalizing before with
  | nil => rw [List.append_nil, List.foldl_nil]
  | cons n rest ih =>
      obtain ⟨here, later⟩ := List.forall_mem_cons.mp inside
      rw [List.foldl_cons, ← summary_append here, ih _ later, List.append_assoc,
        List.singleton_append]

end Furthest

-----------------------------------------------------------------------------------------
-- Failures that are reported to a matcher
-----------------------------------------------------------------------------------------

/-- A failure as it is reported to a matcher in a scope: a text was expected at an offset, or a goal
was missed there.
-/
structure Report where
  scope : Scope
  pos : Int
  what : Text
  missedGoal : Bool := false

namespace Report

/-- Reports the failure. -/
def make (report : Report) : MatchM Unit :=
  if report.missedGoal then MatchM.expectGoal report.scope report.pos report.what
  else MatchM.expect report.scope report.pos report.what

/-- What is noted of the failure, where it is heard. -/
def note (report : Report) : Furthest.Note :=
  if report.missedGoal then .goal report.scope.innermost report.pos report.what
  else .text report.scope.innermost report.pos report.what

/-- Whether the failure is heard. -/
def isHeard (report : Report) : Bool :=
  !report.scope.quiet

@[simp] theorem note_pos (report : Report) : report.note.pos = report.pos := by
  unfold note
  split <;> rfl

/-- A failure that is reported is noted where it is heard, and nothing else happens. -/
theorem make_spec (report : Report) (s : MatcherState)
    : report.make s
      = .ok () { s with
          furthest := if report.isHeard then s.furthest.note report.note else s.furthest } := by
  unfold make note isHeard MatchM.expect MatchM.expectGoal
  cases report.missedGoal <;> cases report.scope.quiet <;> rfl

/-- Reporting failures one after the other notes those that are heard, by induction on them. -/
theorem forM_make (reports : List Report) (s : MatcherState)
    : reports.forM make s
      = .ok () { s with
          furthest := ((reports.filter isHeard).map note).foldl Furthest.note s.furthest } := by
  induction reports generalizing s with
  | nil => rfl
  | cons report rest ih =>
      refine (bind_of_ok (report.make_spec s)).trans ((ih _).trans ?_)
      cases heard : report.isHeard <;> simp [heard]

/-- However failures follow each other, a matcher that was fresh before them keeps their summary:
at the greatest offset at which one was heard, the goal that was missed last and its rule, or else
the texts that were expected and the rule of the first one. What is reported in a quiet scope
changes nothing, wherever it stands among the others.
-/
theorem forM_make_summary (reports : List Report)
    (inside : ∀ report ∈ reports, report.isHeard = true → 0 ≤ report.pos)
    : reports.forM make {}
        = .ok () { furthest := Furthest.summary ((reports.filter isHeard).map note) }
      ∧ ∀ s, reports.forM make s = (reports.filter isHeard).forM make s := by
  have heard : ∀ n ∈ (reports.filter isHeard).map note, 0 ≤ n.pos := by
    intro n noted
    obtain ⟨report, member, rfl⟩ := List.mem_map.mp noted
    obtain ⟨reported, heard⟩ := List.mem_filter.mp member
    rw [note_pos]
    exact inside report reported heard
  refine ⟨?_, fun s => ?_⟩
  · rw [forM_make]
    have summed := Furthest.foldl_note_summary [] heard
    rw [Furthest.summary_nil, List.nil_append] at summed
    rw [summed]
  · rw [forM_make, forM_make, List.filter_filter]
    simp

/-- Failures in a rule for brackets: a text is expected at their start, a letter inside them in vain
twice, their end is missed where the letter is, and a last one is not heard.
-/
def bracketed : List Report :=
  let rule : Rule := { name := "brackets", expr := .anyChar }
  let scope : Scope := { frames := [⟨rule, 0⟩] }
  [⟨scope, 0, "x", false⟩, ⟨scope, 2, "y", false⟩, ⟨scope, 2, "z", false⟩, ⟨scope, 2, ")", true⟩,
    ⟨scope, 2, "y", false⟩, ⟨scope, 1, "]", true⟩, ⟨{ scope with quiet := true }, 3, "w", false⟩]

/-- The goal outranks what was expected beside it, before and after, and what was missed behind. -/
theorem forM_make_summary_bracketed
    : (∀ report ∈ bracketed, report.isHeard = true → 0 ≤ report.pos)
      ∧ bracketed.forM make {}
        = .ok () { furthest := ⟨2, some "brackets", [")"], some ")"⟩ } := by
  have inside : ∀ report ∈ bracketed, report.isHeard = true → 0 ≤ report.pos := by decide
  refine ⟨inside, (forM_make_summary bracketed inside).1.trans ?_⟩
  rfl

end Report

end RuleGrammar
