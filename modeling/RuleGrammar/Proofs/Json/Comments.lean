import RuleGrammar.Proofs.Json.Spacing

/-! Gaps of JSON with comments. The rule for white space reads runs of white space and comments by
turns; a comment ends before a line feed, which is white space again, or with the text.
-/

namespace RuleGrammar.Json

/-- A line feed, which ends a comment. -/
def lineFeed : CodePoint :=
  '\n'

/-- What a comment starts with. -/
def slashes : Text :=
  "//"

theorem slashes_not_white (t : Text) : ∀ c ∈ (slashes ++ t).head?, c.isWhiteSpace = false := by
  intro c first
  obtain rfl : CodePoint.ofChar '/' = c := Option.some.inj first
  rfl

/-- White space and comments by turns. What follows a comment starts with a line feed; only at the
end may nothing follow.
-/
inductive Commented (atEnd : Prop) : Text → Prop
  | white {w : Text} (white : ∀ c ∈ w, c.isWhiteSpace = true) : Commented atEnd w
  | last {w line : Text} (white : ∀ c ∈ w, c.isWhiteSpace = true)
    (inLine : ∀ c ∈ line, c ≠ lineFeed) (done : atEnd)
    : Commented atEnd (w ++ (slashes ++ line))
  | comment {w line rest : Text} (white : ∀ c ∈ w, c.isWhiteSpace = true)
    (inLine : ∀ c ∈ line, c ≠ lineFeed) (next : Commented atEnd (lineFeed :: rest))
    : Commented atEnd (w ++ (slashes ++ line ++ lineFeed :: rest))

/-- White space and comments, a comment at the end of a text without its line feed. -/
def commented : Spacing where
  inner := Commented False
  final := Commented True

namespace Commented

variable {atEnd atEnd' : Prop} {t u w : Text}

theorem mono (gap : Commented atEnd t) (weaken : atEnd → atEnd') : Commented atEnd' t := by
  induction gap with
  | white white => exact .white white
  | last white inLine done => exact .last white inLine (weaken done)
  | comment white inLine _ ih => exact .comment white inLine ih

/-- White space may stand in front of a gap. -/
theorem prepend (white : ∀ c ∈ w, c.isWhiteSpace = true) (gap : Commented atEnd t)
    : Commented atEnd (w ++ t) := by
  have both {v : Text} (white' : ∀ c ∈ v, c.isWhiteSpace = true)
      : ∀ c ∈ w ++ v, c.isWhiteSpace = true :=
    fun c member => (List.mem_append.mp member).elim (white c) (white' c)
  cases gap with
  | white white' => exact .white (both white')
  | last white' inLine done =>
      rw [← List.append_assoc]
      exact .last (both white') inLine done
  | comment white' inLine next =>
      rw [← List.append_assoc]
      exact .comment (both white') inLine next

/-- A gap starts with white space or with a comment. -/
theorem head (gap : Commented atEnd t) : ∀ c ∈ t.head?, c.isWhiteSpace = true ∨ c = '/' := by
  intro c first
  have start {w u : Text} (white : ∀ c ∈ w, c.isWhiteSpace = true)
      (first : c ∈ (w ++ (slashes ++ u)).head?)
      : c.isWhiteSpace = true ∨ c = '/' := by
    cases w with
    | nil => exact Or.inr (Option.some.inj first).symm
    | cons d w =>
        obtain rfl : d = c := Option.some.inj first
        exact Or.inl (white d List.mem_cons_self)
  cases gap with
  | white white => exact Or.inl (white c (List.mem_of_head? first))
  | last white _ _ => exact start white first
  | comment white _ _ => exact start white (by rwa [List.append_assoc slashes] at first)

/-- A gap between tokens may stand in front of a gap, by induction on it. -/
theorem append (first : Commented False t) (second : Commented atEnd u)
    : Commented atEnd (t ++ u) := by
  induction first with
  | white white => exact second.prepend white
  | last _ _ done => cases done
  | @comment w line rest white inLine _ ih =>
      have whole : w ++ (slashes ++ line ++ lineFeed :: rest) ++ u
          = w ++ (slashes ++ line ++ lineFeed :: (rest ++ u)) := by simp
      rw [whole]
      exact .comment white inLine ih

end Commented

-----------------------------------------------------------------------------------------
-- Single rounds
-----------------------------------------------------------------------------------------

/-- The rule for white space in JSON with comments. -/
def commentRule : Rule where
  name := "ws"
  expr := commentSpace

theorem lookup_comment : commentedGrammar.lookup "ws" = some (.rule commentRule) := rfl

/-- What one round of that rule reads: white space, or a comment. -/
def spaceOrComment : Expr :=
  .choice
    [atLeastOne (Grammar.escapeClass .space),
      .sequence [lit "//", many (.charClass { negated := true, singles := "\n" })]]

variable {subject : Subject} {pos : Int} {t w line rest : Text}

/-- Rounds of the rule for white space. -/
abbrev Skips (subject : Subject) (p last : Progress) : Prop :=
  Derives commentedGrammar subject
    (.rounds commentRule ⟨spaceOrComment, 0, none, none⟩ p last)

theorem white_read (white : ∀ c ∈ w, c.isWhiteSpace = true) (nonempty : w ≠ [])
    (other : ∀ c ∈ rest.head?, c.isWhiteSpace = false) (leaves : subject.Leaves pos (w ++ rest))
    : Derives commentedGrammar subject
        (.expr commentRule spaceOrComment pos (some ⟨pos + w.length, []⟩)) :=
  .choice (.choiceHere (.class_many space_compiles rfl (List.length_pos_iff.mpr nonempty)
    leaves white other))

theorem comment_read (inLine : ∀ c ∈ line, c ≠ lineFeed) (ends : ∀ c ∈ rest.head?, c = lineFeed)
    (leaves : subject.Leaves pos (slashes ++ line ++ rest))
    : Derives commentedGrammar subject
        (.expr commentRule spaceOrComment pos
          (some ⟨pos + (slashes ++ line).length, []⟩)) := by
  have notWhite : Derives commentedGrammar subject
      (.expr commentRule (atLeastOne (Grammar.escapeClass .space)) pos none) :=
    .class_many_missed space_compiles rfl leaves (by
      rw [List.append_assoc]
      exact slashes_not_white _)
  rw [List.append_assoc] at leaves
  have text : Derives commentedGrammar subject
      (.expr commentRule (many (.charClass { negated := true, singles := "\n" }))
        (pos + slashes.length)
        (some ⟨pos + slashes.length + line.length, []⟩)) := by
    refine .class_many line_compiles rfl (Nat.zero_le _) leaves.advance ?_ ?_
    · exact fun c member => bne_iff_ne.mpr (inLine c member)
    · exact fun c first => by simp [ends c first, lineFeed]
  have opening : Derives commentedGrammar subject
      (.expr commentRule (.literal slashes) pos (some ⟨pos + slashes.length, []⟩)) :=
    .literal_read leaves
  have both : Derives commentedGrammar subject (.items commentRule true
      [.literal slashes, many (.charClass { negated := true, singles := "\n" })] pos
      (some ⟨pos + slashes.length + line.length, []⟩)) :=
    .items_next rfl opening (.items_next rfl text .itemsDone)
  have length : pos + slashes.length + line.length
      = pos + ((slashes ++ line).length : Int) := by
    rw [List.length_append]
    omega
  rw [← length]
  exact .choice (.choiceLater notWhite (.choiceHere (.sequence both)))

/-- In front of a code point that is solid, or at the end, nothing is read. -/
theorem spaceOrComment_missed (solid : ∀ c ∈ rest.head?, IsSolid c)
    (leaves : subject.Leaves pos rest)
    : Derives commentedGrammar subject (.expr commentRule spaceOrComment pos none) := by
  have notWhite : Derives commentedGrammar subject
      (.expr commentRule (atLeastOne (Grammar.escapeClass .space)) pos none) :=
    .class_many_missed space_compiles rfl leaves fun c first => (solid c first).1
  have noSlash : ¬ slashes <+: rest := by
    rintro ⟨more, rfl⟩
    exact (solid '/' rfl).2 rfl
  have notComment : Derives commentedGrammar subject
      (.expr commentRule (.sequence
        [lit "//", many (.charClass { negated := true, singles := "\n" })]) pos none) :=
    .sequence (.items_missed rfl (.literal_missed leaves noSlash))
  exact .choice (.choiceLater notWhite (.choiceLater notComment .choiceNone))

-----------------------------------------------------------------------------------------
-- Whole gaps
-----------------------------------------------------------------------------------------

/-- White space is skipped in a round, if there is any, before what comes after it. -/
theorem skips_white {p : Progress} {stop : Int} (white : ∀ c ∈ w, c.isWhiteSpace = true)
    (other : ∀ c ∈ rest.head?, c.isWhiteSpace = false)
    (leaves : subject.Leaves p.stop (w ++ rest))
    (later
      : ∀ p' : Progress,
          p'.stop = p.stop + w.length
          → ∃ q, Skips subject p' q ∧ q.stop = stop)
    : ∃ q, Skips subject p q ∧ q.stop = stop := by
  by_cases empty : w = []
  · subst empty
    exact later p (by simp)
  · have round := white_read white empty other leaves
    obtain ⟨q, skips, same⟩ := later (p.round (p.stop + w.length) (roundLog none [])) rfl
    have moved : p.stop + w.length ≠ p.stop := by
      have := List.length_pos_iff.mpr empty
      omega
    exact ⟨q, .rounds_next rfl rfl round moved skips, same⟩

/-- A comment is skipped in a round before what comes after it. -/
theorem skips_comment {p : Progress} {stop : Int} (inLine : ∀ c ∈ line, c ≠ lineFeed)
    (ends : ∀ c ∈ rest.head?, c = lineFeed)
    (leaves : subject.Leaves p.stop (slashes ++ line ++ rest))
    (later
      : ∀ p' : Progress,
          p'.stop = p.stop + (slashes ++ line).length
          → ∃ q, Skips subject p' q ∧ q.stop = stop)
    : ∃ q, Skips subject p q ∧ q.stop = stop := by
  have round := comment_read inLine ends leaves
  obtain ⟨q, skips, same⟩ :=
    later (p.round (p.stop + (slashes ++ line).length) (roundLog none [])) rfl
  have moved : p.stop + ((slashes ++ line).length : Int) ≠ p.stop := by
    have two : (slashes ++ line).length = 2 + line.length := List.length_append
    omega
  exact ⟨q, .rounds_next rfl rfl round moved skips, same⟩

/-- A gap is skipped whole, by induction on it. -/
theorem skips_gap {atEnd : Prop} (gap : Commented atEnd t) (done : atEnd → rest = [])
    (solid : ∀ c ∈ rest.head?, IsSolid c) (p : Progress)
    (leaves : subject.Leaves p.stop (t ++ rest))
    : ∃ q, Skips subject p q ∧ q.stop = p.stop + t.length := by
  have ends {p : Progress} (leaves : subject.Leaves p.stop rest) : Skips subject p p :=
    .rounds_done rfl (spaceOrComment_missed solid leaves)
  induction gap generalizing p with
  | white white =>
      refine skips_white white (fun c first => (solid c first).1) leaves fun p' stop => ?_
      exact ⟨p', ends (stop ▸ leaves.advance), stop⟩
  | @last w line white inLine atEnd =>
      obtain rfl := done atEnd
      rw [List.append_assoc] at leaves
      refine skips_white white ?_ leaves fun p' stop => ?_
      · rw [List.append_assoc]
        exact slashes_not_white _
      have leaves : subject.Leaves p'.stop (slashes ++ line ++ []) := stop ▸ leaves.advance
      refine skips_comment inLine (by simp) leaves fun p'' stop' => ?_
      have leaves : subject.Leaves p''.stop [] := stop' ▸ leaves.advance
      have whole : (w ++ (slashes ++ line)).length = w.length + (slashes ++ line).length :=
        List.length_append
      exact ⟨p'', ends leaves, by omega⟩
  | @comment w line more white inLine _ ih =>
      rw [List.append_assoc] at leaves
      refine skips_white white ?_ leaves fun p' stop => ?_
      · rw [List.append_assoc]
        exact slashes_not_white _
      have leaves : subject.Leaves p'.stop (slashes ++ line ++ (lineFeed :: more ++ rest)) := by
        rw [stop]
        simpa using leaves.advance
      refine skips_comment inLine (by simp) leaves fun p'' stop' => ?_
      have leaves : subject.Leaves p''.stop (lineFeed :: more ++ rest) := stop' ▸ leaves.advance
      obtain ⟨q, skips, same⟩ := ih p'' leaves
      refine ⟨q, skips, ?_⟩
      have whole : (w ++ (slashes ++ line ++ lineFeed :: more)).length
          = w.length + ((slashes ++ line).length + (lineFeed :: more).length) := by
        rw [List.length_append, List.length_append]
      omega

theorem comment_reads {atEnd : Prop} (gap : Commented atEnd t) (done : atEnd → rest = [])
    (solid : ∀ c ∈ rest.head?, IsSolid c) (leaves : subject.Leaves pos (t ++ rest))
    : ∃ m,
        Derives commentedGrammar subject (.call "ws" pos (some m))
        ∧ m.stop = pos + t.length := by
  obtain ⟨q, skips, stop⟩ := skips_gap gap done solid ⟨pos, 0, []⟩ leaves
  obtain ⟨m, called, same⟩ :=
    ws_read lookup_comment (.repetition_of_rounds skips (Nat.zero_le _))
  exact ⟨m, called, same.trans stop⟩

/-- What one round takes: white space as far as it goes, or a comment up to its end. -/
def SpaceOrComment : Takes :=
  fun t more =>
    (t ≠ [] ∧ ∀ c ∈ t, c.isWhiteSpace = true)
    ∨ ∃ line : Text,
        t = slashes ++ line
        ∧ (∀ c ∈ line, c ≠ lineFeed)
        ∧ ∀ c ∈ more.head?, c = lineFeed

theorem consumes_spaceOrComment {limit : Nat}
    : Consumes commentedGrammar subject limit commentRule spaceOrComment SpaceOrComment := by
  refine consumes_choice fun e member => ?_
  rcases List.mem_cons.mp member with rfl | member
  · refine (consumes_class_many rfl space_compiles).mono ?_
    rintro t more ⟨some, white, -⟩
    exact Or.inl ⟨List.length_pos_iff.mp some, white⟩
  · obtain rfl := List.mem_singleton.mp member
    have text : Consumes commentedGrammar subject limit commentRule
        (many (.charClass { negated := true, singles := "\n" })) _ :=
      consumes_class_many rfl line_compiles
    refine (consumes_sequence (itemsConsume_first (consumes_literal slashes)
      (itemsConsume_token rfl text itemsConsume_nil))).mono ?_
    rintro t more ⟨_, _, rfl, rfl, line, _, rfl, ⟨-, inLine, ends⟩, rfl⟩
    refine Or.inr ⟨line, by rw [List.append_nil], fun c inside => ?_, fun c first => ?_⟩
    · exact bne_iff_ne.mp (inLine c inside)
    · exact bne_eq_false_iff_eq.mp (ends c first)

/-- What rounds take is a gap, if no white space is left behind them. Induction on the rounds. -/
theorem commented_of_times {n : Nat} {more : Text} (took : SpaceOrComment.times n t more)
    (ended : ∀ c ∈ more.head?, c.isWhiteSpace = false)
    : Commented (more = []) t := by
  induction took with
  | none => exact .white (by simp)
  | @next n a b more first _ ih =>
      rcases first with ⟨-, white⟩ | ⟨line, rfl, inLine, ends⟩
      · exact (ih ended).prepend white
      · cases b with
        | nil =>
            have done : more = [] := by
              cases more with
              | nil => rfl
              | cons c more =>
                  have feed : c = lineFeed := ends c rfl
                  have solid : c.isWhiteSpace = false := ended c rfl
                  rw [feed] at solid
                  cases solid
            have alone : Commented (more = []) ([] ++ (slashes ++ line)) :=
              .last (by simp) inLine done
            rw [List.append_nil]
            exact alone
        | cons c rest =>
            obtain rfl : c = lineFeed := ends c rfl
            have whole : Commented (more = []) ([] ++ (slashes ++ line ++ lineFeed :: rest)) :=
              .comment (by simp) inLine (ih ended)
            exact whole

/-- Where a round reads nothing there is no white space, which it would have read. -/
theorem white_ended
    (missed : Derives commentedGrammar subject (.expr commentRule spaceOrComment pos none))
    (leaves : subject.Leaves pos rest)
    : ∀ c ∈ rest.head?, c.isWhiteSpace = false := by
  intro c first
  by_contra white
  have white : c.isWhiteSpace = true := by simpa using white
  obtain ⟨more, rfl⟩ : ∃ more, rest = c :: more := ⟨rest.tail, (List.cons_head?_tail first).symm⟩
  let run := (c :: more).takeWhile CodePoint.isWhiteSpace
  let after := (c :: more).dropWhile CodePoint.isWhiteSpace
  have split : run ++ after = c :: more := List.takeWhile_append_dropWhile
  have all : ∀ d ∈ run, d.isWhiteSpace = true := List.all_eq_true.mp List.all_takeWhile
  have nonempty : run ≠ [] := by simp [run, white]
  have other : ∀ d ∈ after.head?, d.isWhiteSpace = false := by
    intro d next
    have stops := List.head?_dropWhile_not CodePoint.isWhiteSpace (c :: more)
    rw [show ((c :: more).dropWhile CodePoint.isWhiteSpace).head? = some d from next] at stops
    simpa using stops
  have read := white_read all nonempty other (split.symm ▸ leaves)
  cases missed.unique read

/-- JSON with comments has white space and comments between its tokens. -/
theorem spaces_commentedGrammar : Spaces commentedGrammar commented where
  reads gap solid leaves := comment_reads gap (fun none => none.elim) (by simpa using solid) leaves
  readsFinal {subject pos t} gap leaves := by
    have whole : subject.Leaves pos (t ++ []) := by rwa [List.append_nil]
    exact comment_reads gap (fun _ => rfl) (by simp) whole
  takes {subject} pos rest answer leaves derived := by
    have consumes : Consumes commentedGrammar subject rest.length commentRule commentRule.expr
        commented.gap := by
      intro pos rest r short leaves derived
      obtain ⟨last, looped, stop, -⟩ := looped_of_repetition derived
      obtain ⟨n, -, t, more, rfl, took, left⟩ :=
        looped.times rfl rfl consumes_spaceOrComment short leaves
      have missed := looped.missed rfl consumes_spaceOrComment
        (by
          rintro t more (⟨some, -⟩ | ⟨line, rfl, -⟩)
          · exact some
          · exact List.cons_ne_nil _ _)
        (Nat.le_refl _) left
      have ended := white_ended missed left
      have gap := commented_of_times took ended
      rw [stop]
      exact ⟨t, more, rfl, ⟨fun some => gap.mono some, fun none => gap.mono fun _ => trivial⟩, left⟩
    exact ws_taken lookup_comment (fun _ => many_not_missed) consumes leaves derived
  empty := .white (by simp)
  joins := Commented.append
  starts := Commented.head

end RuleGrammar.Json
