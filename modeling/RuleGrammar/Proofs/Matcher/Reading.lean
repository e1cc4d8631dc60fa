import RuleGrammar.Proofs.Matcher.Derivation
import RuleGrammar.Proofs.Matcher.Remaining

/-! Derivations from the text that is left: what an expression reads there, and that it reads
nothing. Each lemma is about one kind of expression, with offsets and texts moved on together.
-/

namespace RuleGrammar.Derives

variable {g : Grammar} {subject : Subject} {rule : Rule} {pos : Int} {t rest : Text}

-----------------------------------------------------------------------------------------
-- Literals, anchors and classes
-----------------------------------------------------------------------------------------

theorem literal_read (leaves : subject.Leaves pos (t ++ rest))
    : Derives g subject (.expr rule (.literal t) pos (some ⟨pos + t.length, []⟩)) := by
  have stands : subject.holds t pos = true := leaves.holds_iff.mpr (List.prefix_append t rest)
  have derived : Derives g subject (.expr rule (.literal t) pos _) := .literal
  rwa [stands, if_pos rfl] at derived

theorem literal_missed (leaves : subject.Leaves pos rest) (differs : ¬ t <+: rest)
    : Derives g subject (.expr rule (.literal t) pos none) := by
  have absent : ¬ subject.holds t pos = true := fun stands => differs (leaves.holds_iff.mp stands)
  have derived : Derives g subject (.expr rule (.literal t) pos _) := .literal
  rwa [if_neg absent] at derived

theorem inputEnd_read (leaves : subject.Leaves pos [])
    : Derives g subject (.expr rule (.anchor .inputEnd) pos (some ⟨pos, []⟩)) := by
  have holds : Anchor.inputEnd.holdsAt subject pos = true :=
    decide_eq_true (leaves.eq_size_iff.mpr rfl)
  have derived : Derives g subject (.expr rule (.anchor .inputEnd) pos _) := .anchor
  rwa [if_pos holds] at derived

section Class

variable {cls : CharClass} {holds : CodePoint → Bool} (compiled : cls.compile = .ok holds)

include compiled

theorem class_read {c : CodePoint} (leaves : subject.Leaves pos (c :: rest))
    (member : holds c = true)
    : Derives g subject (.expr rule (.charClass cls) pos (some ⟨pos + 1, []⟩)) := by
  have derived : Derives g subject (.expr rule (.charClass cls) pos _) := .charClass compiled
  rwa [leaves.at?, List.head?_cons, Option.any_some, member, if_pos rfl] at derived

theorem class_missed (leaves : subject.Leaves pos rest)
    (other : ∀ c ∈ rest.head?, holds c = false)
    : Derives g subject (.expr rule (.charClass cls) pos none) := by
  have derived : Derives g subject (.expr rule (.charClass cls) pos _) := .charClass compiled
  have outside : ¬ (rest.head?.any holds) = true := by
    cases first : rest.head? with
    | none => simp
    | some c => simp [other c first]
  rwa [leaves.at?, if_neg outside] at derived

end Class

-----------------------------------------------------------------------------------------
-- Sequences and repetitions without white space
-----------------------------------------------------------------------------------------

section Token

variable (token : rule.sigspace = false)

include token

/-- In a token, an item of a sequence starts where the one before it stopped. -/
theorem start_token {first : Bool} : Derives g subject (.start rule first pos pos) := by
  cases first with
  | true => exact .startFirst
  | false => exact .startLater (.spaceless token)

theorem items_next {first : Bool} {e : Expr} {items : List Expr} {r l : Reached}
    (item : Derives g subject (.expr rule e pos (some r)))
    (later : Derives g subject (.items rule false items r.stop (some l)))
    : Derives g subject
        (.items rule first (e :: items) pos (some ⟨l.stop, r.caught ++ l.caught⟩)) :=
  .itemsNext (start_token token) item later

theorem items_missed {first : Bool} {e : Expr} {items : List Expr}
    (missed : Derives g subject (.expr rule e pos none))
    : Derives g subject (.items rule first (e :: items) pos none) :=
  .itemsMissed (start_token token) missed

/-- Items are missed together with those behind the first one. -/
theorem items_cut {first : Bool} {e : Expr} {items : List Expr} {r : Reached}
    (item : Derives g subject (.expr rule e pos (some r)))
    (missed : Derives g subject (.items rule false items r.stop none))
    : Derives g subject (.items rule first (e :: items) pos none) :=
  .itemsNext (start_token token) item missed

/-- In a token, nothing stands between rounds without separator. -/
theorem gap_token (p : Progress)
    : Derives g subject (.gap rule none p (some ⟨p.stop, []⟩)) := by
  by_cases first : p.rounds = 0
  · exact .gapFirst first
  · exact .gapPlain first (.spaceless token)

variable {body : Expr} {min : Nat} {max : Option Nat} {p last : Progress}

/-- One more round of a repetition in a token. -/
theorem rounds_next {r : Reached} (below : belowMax max p.rounds = true)
    (round : Derives g subject (.expr rule body p.stop (some r))) (moved : r.stop ≠ p.stop)
    (later
      : Derives g subject (.rounds rule ⟨body, min, max, none⟩
          (p.round r.stop (roundLog max r.caught)) last))
    : Derives g subject (.rounds rule ⟨body, min, max, none⟩ p last) := by
  have more : isLastRound min (p.rounds + 1) p.stop r.stop = false := by
    simp [isLastRound, moved]
  exact .roundsNext below (gap_token token p) round more later

/-- The rounds of a repetition in a token end where its body reads nothing. -/
theorem rounds_done (missed : Derives g subject (.expr rule body p.stop none))
    : Derives g subject (.rounds rule ⟨body, min, max, none⟩ p p) := by
  by_cases below : belowMax max p.rounds = true
  · exact .roundsMissed below (gap_token token p) missed
  · exact .roundsFull (by simpa using below)

end Token

/-- What a rule is called for, its body reads. -/
theorem call_of_rule {name : Name} (stands : g.lookup name = some (.rule rule))
    {answer : Option Reached} (body : Derives g subject (.expr rule rule.expr pos answer))
    : Derives g subject (.call name pos (answer.map (rule.node pos))) :=
  .callRule stands (.apply body)

/-- A repetition from its rounds. -/
theorem repetition_of_rounds {body : Expr} {min : Nat} {max : Option Nat} {sep : Option Expr}
    {p : Progress}
    (rounds : Derives g subject (.rounds rule ⟨body, min, max, sep⟩ ⟨pos, 0, []⟩ p))
    (enough : min ≤ p.rounds)
    : Derives g subject (.expr rule (.repetition body min max sep false) pos
        (some (p.finish max (Expr.repetition body min max sep false).captureNames
          ⟨p.stop, []⟩))) := by
  have trail : Derives g subject (.trail rule sep false p ⟨p.stop, []⟩) :=
    .trailUntried (Or.inr rfl)
  have derived := Derives.repetition rounds trail
  rwa [if_neg (Nat.not_lt.mpr enough)] at derived

theorem repetition_missed {body : Expr} {min : Nat} {max : Option Nat} {sep : Option Expr}
    {p : Progress}
    (rounds : Derives g subject (.rounds rule ⟨body, min, max, sep⟩ ⟨pos, 0, []⟩ p))
    (few : p.rounds < min)
    : Derives g subject (.expr rule (.repetition body min max sep false) pos none) := by
  have trail : Derives g subject (.trail rule sep false p ⟨p.stop, []⟩) :=
    .trailUntried (Or.inr rfl)
  have derived := Derives.repetition rounds trail
  rwa [if_pos few] at derived

/-- Rounds that capture nothing leave nothing but marks. -/
theorem log_round_nil (p : Progress) (max : Option Nat) (stop : Int)
    : (p.round stop (roundLog max [])).log = p.log := by
  have nothing : roundLog max [] = [] := by unfold roundLog; split <;> rfl
  rw [nothing, Progress.log_round, List.append_nil]

section Class

variable {cls : CharClass} {holds : CodePoint → Bool} (compiled : cls.compile = .ok holds)
  (token : rule.sigspace = false)

include compiled token

/-- The rounds of a class read the members that come first, by induction on them. -/
theorem class_rounds {min : Nat} (p : Progress) (leaves : subject.Leaves p.stop (t ++ rest))
    (members : ∀ c ∈ t, holds c = true) (other : ∀ c ∈ rest.head?, holds c = false)
    : ∃ q : Progress,
        Derives g subject (.rounds rule ⟨.charClass cls, min, none, none⟩ p q)
        ∧ q.stop = p.stop + t.length
        ∧ q.rounds = p.rounds + t.length
        ∧ q.log = p.log := by
  induction t generalizing p with
  | nil =>
      have missed : Derives g subject (.expr rule (.charClass cls) p.stop none) :=
        class_missed compiled leaves other
      exact ⟨p, rounds_done token missed, by simp, by simp, rfl⟩
  | cons c t ih =>
      have read : Derives g subject (.expr rule (.charClass cls) p.stop (some ⟨p.stop + 1, []⟩)) :=
        class_read compiled leaves (members c List.mem_cons_self)
      obtain ⟨q, later, stop, rounds, log⟩ := ih (p.round (p.stop + 1) (roundLog none []))
        leaves.advance_one fun d member => members d (List.mem_cons_of_mem c member)
      have moved : p.stop + 1 ≠ p.stop := by omega
      refine ⟨q, rounds_next token rfl read moved later, ?_, ?_, ?_⟩
      · simp only [stop, Progress.round, List.length_cons]
        omega
      · simp only [rounds, Progress.round, List.length_cons]
        omega
      · rw [log, log_round_nil]

/-- A repeated class reads all members that come first, if there are enough of them. -/
theorem class_many {min : Nat} (enough : min ≤ t.length)
    (leaves : subject.Leaves pos (t ++ rest)) (members : ∀ c ∈ t, holds c = true)
    (other : ∀ c ∈ rest.head?, holds c = false)
    : Derives g subject (.expr rule (.repetition (.charClass cls) min none none false) pos
        (some ⟨pos + t.length, []⟩)) := by
  obtain ⟨q, rounds, stop, count, log⟩ :=
    class_rounds compiled token ⟨pos, 0, []⟩ leaves members other
  have finished : q.finish none
      (Expr.repetition (.charClass cls) min none none false).captureNames ⟨q.stop, []⟩
      = ⟨pos + t.length, []⟩ := by
    simp only [Progress.finish, stop, log]
    simp [Progress.log, Expr.captureNames, Expr.captures, Expr.capturesOfOption, Expr.distinct]
  rw [← finished]
  exact repetition_of_rounds rounds (by omega)

/-- A repeated class that has to read a member and finds none reads nothing. -/
theorem class_many_missed {min : Nat} (leaves : subject.Leaves pos rest)
    (other : ∀ c ∈ rest.head?, holds c = false)
    : Derives g subject
        (.expr rule (.repetition (.charClass cls) (min + 1) none none false) pos none) := by
  have missed : Derives g subject (.expr rule (.charClass cls) pos none) :=
    class_missed compiled leaves other
  exact repetition_missed (rounds_done token missed) (Nat.succ_pos min)

end Class

section Optional

variable {body : Expr} (token : rule.sigspace = false)

include token

/-- What may be left out is read where it stands. -/
theorem optional_read {r : Reached} (read : Derives g subject (.expr rule body pos (some r)))
    (moved : r.stop ≠ pos) (silent : r.caught = [])
    : Derives g subject (.expr rule (.repetition body 0 (some 1) none false) pos
        (some ⟨r.stop, []⟩)) := by
  have done : Derives g subject (.rounds rule ⟨body, 0, some 1, none⟩
      (Progress.round ⟨pos, 0, []⟩ r.stop (roundLog (some 1) r.caught))
      (Progress.round ⟨pos, 0, []⟩ r.stop (roundLog (some 1) r.caught))) := .roundsFull rfl
  have derived := repetition_of_rounds (rounds_next token rfl read moved done) (Nat.zero_le _)
  simpa [Progress.finish, Progress.round, Progress.log, roundLog, Expr.repeats, silent]
    using derived

/-- What may be left out is left out where it does not stand. -/
theorem optional_missed (missed : Derives g subject (.expr rule body pos none))
    : Derives g subject (.expr rule (.repetition body 0 (some 1) none false) pos
        (some ⟨pos, []⟩)) := by
  have rounds : Derives g subject
      (.rounds rule ⟨body, 0, some 1, none⟩ ⟨pos, 0, []⟩ ⟨pos, 0, []⟩) :=
    rounds_done token missed
  simpa [Progress.finish, Progress.log, Expr.repeats]
    using repetition_of_rounds rounds (Nat.zero_le _)

end Optional

end RuleGrammar.Derives
