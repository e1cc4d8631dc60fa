import RuleGrammar.Proofs.Matcher.Invariants
import RuleGrammar.Proofs.Matcher.Memoization
import RuleGrammar.Proofs.Matcher.Placement

/-! The shape of reported failures. All notes of a match lie between where it began and the end
of the subject, and the record that they add up to is in order from the first one on; so is the
failure that is reported, whether or not anything was noted.
-/

namespace RuleGrammar

-----------------------------------------------------------------------------------------
-- Records
-----------------------------------------------------------------------------------------

/-- A record in order: its position is one of certain offsets, it lists texts without
duplicates, and its goal is all that it lists. The rule that it names is one of certain names.
-/
structure Furthest.Orderly (offset : Int → Prop) (named : Name → Prop) (f : Furthest) : Prop where
  inside : offset f.position
  listed : f.expected ≠ []
  distinct : f.expected.Nodup
  rule : ∀ name ∈ f.rule, named name
  goal : ∀ goal ∈ f.goal, f.expected = [goal]

/-- A note leaves a record in order, and it makes the empty one orderly, by cases on where it is
noted.
-/
theorem Furthest.Orderly.note {offset : Int → Prop} {named : Name → Prop} {f : Furthest}
    (orderly : f = {} ∨ f.Orderly offset named) (n : Note) (rule : ∀ name ∈ n.rule, named name)
    (inside : offset n.pos) (from_start : 0 ≤ n.pos)
    : (f.note n).Orderly offset named := by
  have behind (passed : n.pos < f.position) : (f.note n).Orderly offset named := by
    rw [note_of_lt passed]
    refine orderly.resolve_left fun empty => ?_
    rw [empty] at passed
    change n.pos < -1 at passed
    omega
  cases n with
  | text name pos what =>
      rcases Int.lt_trichotomy pos f.position with passed | rfl | ahead
      · exact behind passed
      · have before : f.Orderly offset named :=
          orderly.resolve_left fun empty => by rw [empty] at from_start; cases from_start
        cases goal : f.goal with
        | some missed => rwa [note_text_of_goal (by rw [goal]; rfl)]
        | none =>
            rw [note_text_of_goalless goal]
            split
            · exact before
            · rename_i new
              exact {
                before with
                listed := by simp
                distinct := by
                  refine List.nodup_append.mpr
                    ⟨before.distinct, by simp, fun a old b here same => new ?_⟩
                  rwa [← List.mem_singleton.mp here, ← same]
                goal := by simp [goal] }
      · rw [note_text_ahead ahead]
        exact ⟨inside, by simp, by simp, rule, by simp⟩
  | goal name pos what =>
      by_cases reached : f.position ≤ pos
      · rw [note_goal reached]
        exact ⟨inside, by simp, by simp, rule, by simp⟩
      · exact behind (Int.not_le.mp reached)

-----------------------------------------------------------------------------------------
-- Matches
-----------------------------------------------------------------------------------------

/-- A failure in order, for a match of a rule from an offset: it lies between this offset and the
end, it expects something and nothing twice, the rule it is in is the start or one of the grammar,
and a goal is all that it expects.
-/
structure Failure.Orderly (env : MatchEnv) (start : Name) (pos : Int) (f : Failure) : Prop where
  from_start : pos ≤ f.position
  within : f.position ≤ env.subject.size
  listed : f.expected ≠ []
  distinct : f.expected.Nodup
  rule :
    f.rule = start ∨ f.rule ≠ [] ∧ ∃ rule ∈ env.grammar.visibleRules, rule.qualified = f.rule
  goal : ∀ goal ∈ f.goal, f.expected = [goal]

namespace MatchEnv

variable {env : MatchEnv} {start : Name} {pos : Int} {anchored : Bool}

/-- The offsets that a match from an offset can come to. -/
def Within (env : MatchEnv) (pos offset : Int) : Prop :=
  pos ≤ offset ∧ offset ≤ env.subject.size

/-- The names under which reports name the rules of the grammar. -/
def NamesRule (env : MatchEnv) (name : Name) : Prop :=
  ∃ rule ∈ env.grammar.visibleRules, rule.qualified = name

/-- Names are resolved rightly, known matches stop where a match from an offset can come to, and
the record is empty or in order.
-/
structure OrderlyState (env : MatchEnv) (pos : Int) (s : MatcherState) : Prop where
  resolves : s.Resolves env.grammar
  known : ∀ key answer, s.memo.find? key = some answer → ∀ m ∈ answer, env.Within pos m.stop
  record : s.furthest = {} ∨ s.furthest.Orderly (env.Within pos) env.NamesRule

theorem OrderlyState.initial (env : MatchEnv) (pos : Int) : env.OrderlyState pos {} where
  resolves := .initial env.grammar
  known := fun key answer found => by
    rw [Memo.find?_empty] at found
    cases found
  record := .inl rfl

theorem Within.of_ahead {offset stop : Int} (inside : env.Within pos offset)
    (ahead : env.subject.Ahead offset stop) : env.Within pos stop :=
  ⟨Int.le_trans inside.1 ahead.1, ahead.le_size inside.2⟩

/-- Matching keeps its record in order, whatever the grammar and the configuration. -/
theorem orderlyState_invariant (from_start : 0 ≤ pos)
    : env.Invariant (env.OrderlyState pos) (env.Within pos) (· ∈ env.grammar.visibleRules) where
  literal := fun inside holds => inside.of_ahead (Subject.ahead_of_holds holds)
  next := fun inside before_end => inside.of_ahead (Subject.ahead_succ before_end)
  fresh := fun kept => ⟨kept.resolves, kept.known, kept.record⟩
  trace := fun _ kept => ⟨kept.resolves, kept.known, kept.record⟩
  resolve := fun name => maintains_resolveOnce name (·.resolves) fun kept resolves =>
    ⟨resolves, kept.known, kept.record⟩
  known := fun kept _ found => kept.known _ _ found
  note := fun n visible named inside kept => by
    refine ⟨kept.resolves, kept.known, .inr (.note kept.record n (fun name member => ?_) inside ?_)⟩
    · rw [named] at member
      cases member
      exact ⟨_, visible, rfl⟩
    · exact Int.le_trans from_start inside.1
  insert := fun _ _ stops _ kept => by
    refine ⟨kept.resolves, fun key answer found => ?_, kept.record⟩
    rcases Memo.find?_insert_cases found with ⟨-, rfl⟩ | before
    · exact stops
    · exact kept.known key answer before

/-- What a record in order amounts to is a failure in order, and so is what no record does. -/
theorem orderly_ofFurthest {f : Furthest} (from_start : 0 ≤ pos) (within : pos ≤ env.subject.size)
    (orderly : f = {} ∨ f.Orderly (env.Within pos) env.NamesRule)
    : (Failure.ofFurthest start pos f).Orderly env start pos := by
  rcases orderly with rfl | orderly
  · exact ⟨Int.le_refl pos, within, by simp [Failure.ofFurthest], by simp [Failure.ofFurthest],
      .inl rfl, by simp [Failure.ofFurthest]⟩
  · have noted : ¬ f.position < 0 := by have := orderly.inside.1; omega
    rw [Failure.ofFurthest, if_neg noted]
    refine ⟨orderly.inside.1, orderly.inside.2, orderly.listed, orderly.distinct, ?_, orderly.goal⟩
    cases named : f.rule with
    | none => exact .inl rfl
    | some name =>
        cases name with
        | nil => exact .inl rfl
        | cons c rest => exact .inr ⟨List.cons_ne_nil c rest, orderly.rule _ named⟩

/-- A match that fails has called its start and reports what was noted by then; if the start
matched, the end of the input was expected behind it.
-/
theorem exists_record_of_failed {f : Failure}
    (failed : (run env start pos anchored).outcome = .ok (.failed f))
    : ∃ answer t,
        env.call start pos {} = .ok answer t
        ∧ f
          = .ofFurthest start pos (answer.elim t.furthest fun m =>
            t.furthest.note (.text none m.stop "end of input")) := by
  obtain ⟨-, u, ended⟩ := run_outcome_eq_ok.mp failed
  obtain ⟨answer, t, called, ended⟩ := bind_eq_ok.mp ended
  refine ⟨answer, t, called, ?_⟩
  cases answer with
  | none =>
      cases ended
      rfl
  | some m =>
      dsimp only at ended
      split at ended
      · cases ended
      · cases ended
        rfl

/-- Whatever the grammar and the configuration, a reported failure is in order, and it lies no
less far than the start matches if the rest of the text is not asked for.
-/
theorem run_failed_orderly {f : Failure} (from_start : 0 ≤ pos)
    (within : pos ≤ env.subject.size)
    (failed : (run env start pos anchored).outcome = .ok (.failed f))
    : f.Orderly env start pos
        ∧ ∀ m, subparse env start pos = .ok (.matched m) → m.stop ≤ f.position := by
  obtain ⟨answer, t, called, rfl⟩ := exists_record_of_failed failed
  obtain ⟨kept, stops⟩ := ((orderlyState_invariant from_start).call start
    ⟨Int.le_refl pos, within⟩).of_ok (OrderlyState.initial env pos) called
  cases answer with
  | none =>
      refine ⟨orderly_ofFurthest from_start within kept.record, fun m matched => ?_⟩
      obtain ⟨⟨_, again⟩, -⟩ := call_of_run matched
      cases called.symm.trans again
  | some m =>
      have inside : env.Within pos m.stop := stops m rfl
      have behind : 0 ≤ m.stop := Int.le_trans from_start inside.1
      have noted := Furthest.Orderly.note kept.record (.text none m.stop "end of input")
        (by simp [Furthest.Note.rule]) inside behind
      refine ⟨orderly_ofFurthest from_start within (.inr noted), fun other matched => ?_⟩
      obtain ⟨⟨_, again⟩, -⟩ := call_of_run matched
      cases called.symm.trans again
      have reached := Furthest.note_position t.furthest (.text none m.stop "end of input")
      rw [Failure.ofFurthest_position, Option.elim_some, reached]
      change m.stop ≤ if max t.furthest.position m.stop < 0 then pos
        else max t.furthest.position m.stop
      split <;> omega

/-- A matcher for a letter over a text of two. -/
def leftover : MatchEnv where
  grammar := ⟨⟨"letters", [("top", .rule { name := "top", expr := .literal "a" })]⟩, []⟩
  subject := ⟨("ab" : Text).toArray⟩

theorem run_failed_orderly_leftover
    : ∃ f m,
        (run leftover "top" 0 true).outcome = .ok (.failed f)
        ∧ subparse leftover "top" 0 = .ok (.matched m)
        ∧ f.Orderly leftover "top" 0
        ∧ m.stop = 1
        ∧ m.stop ≤ f.position := by
  have failed : ∃ f, (run leftover "top" 0 true).outcome = .ok (.failed f) := ⟨_, rfl⟩
  have matched : ∃ m, subparse leftover "top" 0 = .ok (.matched m) ∧ m.stop = 1 := ⟨_, rfl, rfl⟩
  obtain ⟨f, failed⟩ := failed
  obtain ⟨m, matched, stop⟩ := matched
  obtain ⟨orderly, reached⟩ := run_failed_orderly (by decide) (by decide) failed
  exact ⟨f, m, failed, matched, orderly, stop, reached m matched⟩

end MatchEnv

end RuleGrammar
