import RuleGrammar.Proofs.MatchTree.Alike
import RuleGrammar.Proofs.Matcher.Naming
import RuleGrammar.Proofs.Matcher.Rounds

/-! Separated repetitions unrolled. After its first round, a repetition with a separator goes on as
one of separator and body without a separator does, round for round and state for state. Only a
first round that makes no progress ends the one and not the other.
-/

namespace RuleGrammar

/-- An expression once or more often, with a separator in between. -/
def Expr.separated (body sep : Expr) : Expr :=
  .repetition body 1 none (some sep) false

/-- A separator with an expression after it, any number of times. -/
def Expr.pairs (body sep : Expr) : Expr :=
  .repetition (.sequence [sep, body]) 0 none none false

/-- An expression, and then any number of times a separator with the expression after it. -/
def Expr.unrolled (body sep : Expr) : Expr :=
  .sequence [body, .pairs body sep]

/-- The marks that a repetition leaves for the names that it captures. -/
def Expr.marks (e : Expr) : List Caught :=
  e.captureNames.map Caught.mark

/-- Two evaluations end alike: in one fault, both without a match, or at one offset with captures
that are the same in every node that encloses them.
-/
inductive EndsAlike
    : EStateM.Result Fault MatcherState (Option Reached)
      → EStateM.Result Fault MatcherState (Option Reached)
      → Prop
  | stopped {fault s t} : EndsAlike (.error fault s) (.error fault t)
  | missed {s t} : EndsAlike (.ok none s) (.ok none t)
  | reached {stop log log' s t}
    (alike
      : ∀ way,
          Encloses way
          → ∀ info, (Match.ofLog info (way log)).SameCaptures (Match.ofLog info (way log')))
    : EndsAlike (.ok (some ⟨stop, log⟩) s) (.ok (some ⟨stop, log'⟩) t)

-----------------------------------------------------------------------------------------
-- Without white space
-----------------------------------------------------------------------------------------

section Spaceless

variable {site : Site} {body sep : Expr} {pos : Int} {s t u : MatcherState}

theorem Site.skipSpace_of_spaceless (spaceless : site.rule.sigspace = false) (pos : Int)
    : site.skipSpace pos = pure pos := by
  rw [Site.skipSpace, if_neg (by simp [spaceless])]

/-- Without white space, what stands between two rounds is the separator. -/
theorem betweenRounds_of_spaceless (spaceless : site.rule.sigspace = false)
    (separator : Int → MatchM (Option Reached)) (pos : Int)
    : betweenRounds site (some separator) pos = separator pos := by
  simp only [betweenRounds, Site.skipSpace_of_spaceless spaceless, pure_bind]
  refine Eq.trans (congrArg _ (funext fun found => ?_)) (bind_pure (separator pos))
  cases found <;> rfl

theorem betweenRounds_none_of_spaceless (spaceless : site.rule.sigspace = false) (pos : Int)
    : betweenRounds site none pos = pure (some ⟨pos, []⟩) := by
  simp only [betweenRounds, Site.skipSpace_of_spaceless spaceless, pure_bind]

/-- Without white space, a sequence of two goes on where the first one stops. -/
theorem eval_pair_of_spaceless (spaceless : site.rule.sigspace = false) (first second : Expr)
    (pos : Int)
    : eval site (.sequence [first, second]) pos = do
        match ← eval site first pos with
        | none => return none
        | some r =>
            match ← eval site second r.stop with
            | none => return none
            | some later => return some ⟨later.stop, r.caught ++ later.caught⟩ := by
  simp only [eval, evalItems, Site.itemStart, Site.skipSpace_of_spaceless spaceless, pure_bind,
    if_true, Bool.false_eq_true, if_false]
  refine congrArg _ (funext fun found => ?_)
  cases found with
  | none => rfl
  | some r =>
      simp only [bind_assoc]
      refine congrArg _ (funext fun later => ?_)
      cases later with
      | none => rfl
      | some later => simp only [List.append_nil, pure_bind]

end Spaceless

-----------------------------------------------------------------------------------------
-- Rounds side by side
-----------------------------------------------------------------------------------------

/-- The progress with one more round in front, that captured this. -/
def Progress.after (p : Progress) (first : List Caught) : Progress :=
  ⟨p.stop, p.rounds + 1, p.caught ++ [first]⟩

theorem Progress.log_after (p : Progress) (first : List Caught)
    : (p.after first).log = first ++ p.log := by
  simp [log, after]

namespace Site

/-- The rounds of an expression with a separator in between. -/
def separatedRounds (site : Site) (body sep : Expr) (bound : Nat) (p : Progress)
    : MatchM Progress :=
  site.rounds ⟨body, 1, none, some sep⟩ bound p

/-- The rounds of a separator and an expression together. -/
def pairRounds (site : Site) (body sep : Expr) (bound : Nat) (p : Progress) : MatchM Progress :=
  site.rounds ⟨.sequence [sep, body], 0, none, none⟩ bound p

variable {site : Site} {body sep : Expr}

/-- Where there was a round, the next one of a separated repetition is a separator and a body. -/
theorem separatedRounds_succ (spaceless : site.rule.sigspace = false) (bound : Nat) {p : Progress}
    (later : p.rounds ≠ 0)
    : site.separatedRounds body sep (bound + 1) p
      = (do
          match ← eval site (.sequence [sep, body]) p.stop with
          | none => return p
          | some r =>
              let next := p.round r.stop (roundLog none r.caught)
              if isLastRound 1 next.rounds p.stop r.stop then return next
              else site.separatedRounds body sep bound next) := by
  rw [separatedRounds, rounds, repeatRounds, if_pos (belowMax_iff.mpr (by simp)), gapBefore,
    if_neg later, evalOption, betweenRounds_of_spaceless spaceless,
    eval_pair_of_spaceless spaceless, bind_assoc]
  refine congrArg _ (funext fun gap => ?_)
  cases gap with
  | none => rfl
  | some gap =>
      simp only [bind_assoc]
      refine congrArg _ (funext fun r => ?_)
      cases r <;> rfl

theorem pairRounds_succ (spaceless : site.rule.sigspace = false) (bound : Nat) (p : Progress)
    : site.pairRounds body sep (bound + 1) p
      = (do
          match ← eval site (.sequence [sep, body]) p.stop with
          | none => return p
          | some r =>
              let next := p.round r.stop (roundLog none r.caught)
              if isLastRound 0 next.rounds p.stop r.stop then return next
              else site.pairRounds body sep bound next) := by
  have gap : gapBefore (betweenRounds site none) p = pure (some ⟨p.stop, []⟩) := by
    unfold gapBefore
    split
    · rfl
    · exact betweenRounds_none_of_spaceless spaceless p.stop
  rw [pairRounds, rounds, repeatRounds, if_pos (belowMax_iff.mpr (by simp)), evalOption, gap,
    pure_bind]
  dsimp only
  refine congrArg _ (funext fun r => ?_)
  cases r <;> rfl

end Site

namespace MatchEnv

variable {env : MatchEnv} {room : Nat} {scope : Scope} {rule : Rule} {body sep : Expr}

/-- With a round in front, a separated repetition goes through its rounds as one of separators and
bodies together does, if neither uses its bound up. Induction on the bound: a round leads ahead, so
one that is not the last leaves less of the subject.
-/
theorem separatedRounds_after (spaceless : rule.sigspace = false) (first : List Caught)
    {bound bound' : Nat} {p : Progress} {s : MatcherState} (sane : s.Sane env)
    (enough : (env.subject.size - p.stop).toNat < bound)
    (enough' : (env.subject.size - p.stop).toNat < bound')
    : (env.siteWithin room scope rule).separatedRounds body sep bound (p.after first) s
      = (do
          let last ← (env.siteWithin room scope rule).pairRounds body sep bound' p
          return last.after first) s := by
  induction bound generalizing bound' p s with
  | zero => omega
  | succ bound ih =>
      obtain ⟨bound', rfl⟩ : ∃ more, bound' = more + 1 := ⟨bound' - 1, by omega⟩
      rw [Site.separatedRounds_succ spaceless bound (Nat.succ_ne_zero p.rounds),
        Site.pairRounds_succ spaceless bound' p, bind_assoc (m := MatchM)]
      have stop : (p.after first).stop = p.stop := rfl
      rw [stop]
      cases ended : eval (env.siteWithin room scope rule) (.sequence [sep, body]) p.stop s with
      | error fault t =>
          exact (bind_eq_error.mpr (Or.inl ended)).trans (bind_eq_error.mpr (Or.inl ended)).symm
      | ok found t =>
          obtain ⟨resolves, memo, ahead⟩ := Ensures.eval_ahead room scope rule p.stop
            (.sequence [sep, body]) s sane.resolves sane.memo _ _ ended
          rw [bind_of_ok ended, bind_of_ok ended]
          cases found with
          | none => rfl
          | some r =>
              have round : (p.after first).round r.stop (roundLog none r.caught)
                  = (p.round r.stop (roundLog none r.caught)).after first := rfl
              have same
                  : isLastRound 1 ((p.after first).round r.stop (roundLog none r.caught)).rounds
                      p.stop r.stop
                    = isLastRound 0 (p.round r.stop (roundLog none r.caught)).rounds p.stop
                      r.stop := by
                simp [isLastRound, Progress.after, Progress.round]
              dsimp only
              rw [same]
              by_cases last : isLastRound 0 (p.round r.stop (roundLog none r.caught)).rounds p.stop
                  r.stop = true
              · rw [if_pos last, if_pos last]
                rfl
              · have moved : r.stop ≠ p.stop := by simpa [isLastRound] using last
                have less := (ahead r rfl).rest_lt moved
                rw [if_neg last, if_neg last, round]
                exact ih ⟨resolves, memo⟩ (show (env.subject.size - r.stop).toNat < bound by omega)
                  (show (env.subject.size - r.stop).toNat < bound' by omega)

-----------------------------------------------------------------------------------------
-- Whole repetitions
-----------------------------------------------------------------------------------------

section Whole

variable {site : Site}

/-- A separated repetition is its rounds, with marks for all names that it captures. -/
theorem eval_separated (site : Site) (body sep : Expr) (pos : Int)
    : eval site (.separated body sep) pos = do
        let p ← site.separatedRounds body sep ((site.subject.size - pos).toNat + 1 + 1) ⟨pos, 0, []⟩
        return if p.rounds < 1 then none
          else some ⟨p.stop,
            p.log ++ (Expr.separated body sep).marks⟩ := by
  simp only [Expr.separated, eval, evalOption, evalRepetition, Site.separatedRounds,
    Site.rounds, trailingSeparator, Bool.false_and, Bool.false_eq_true, if_false, pure_bind]
  refine congrArg _ (funext fun p => ?_)
  by_cases none : p.rounds < 1
  · rw [if_pos none, if_pos none]
  · rw [if_neg none, if_neg none, List.append_nil]
    rfl

/-- The first round of a separated repetition is its body alone. -/
theorem separatedRounds_first (site : Site) (body sep : Expr) (bound : Nat) (pos : Int)
    : site.separatedRounds body sep (bound + 1) ⟨pos, 0, []⟩
      = (do
          match ← eval site body pos with
          | none => return ⟨pos, 0, []⟩
          | some r =>
              let next := (⟨r.stop, 0, []⟩ : Progress).after (r.caught.map Caught.listed)
              if r.stop = pos then return next else site.separatedRounds body sep bound next) := by
  rw [Site.separatedRounds, Site.rounds, repeatRounds, if_pos (belowMax_iff.mpr (by simp)),
    gapBefore, if_pos rfl, pure_bind]
  dsimp only
  refine congrArg _ (funext fun found => ?_)
  cases found with
  | none => rfl
  | some r =>
      by_cases stays : r.stop = pos
      · simp only [if_pos stays]
        rw [if_pos (by simp [isLastRound, stays, Progress.round])]
        rfl
      · simp only [if_neg stays]
        rw [if_neg (by simp [isLastRound, stays])]
        rfl

/-- A repetition of separators and bodies is its rounds, with marks for all names. -/
theorem eval_pairs (site : Site) (body sep : Expr) (pos : Int)
    : eval site (.pairs body sep) pos = do
        let p ← site.pairRounds body sep ((site.subject.size - pos).toNat + 1) ⟨pos, 0, []⟩
        return some ⟨p.stop, p.log ++ (Expr.pairs body sep).marks⟩ := by
  simp only [Expr.pairs, eval, evalOption, evalRepetition, Site.pairRounds, Site.rounds,
    trailingSeparator, pure_bind]
  refine congrArg _ (funext fun p => ?_)
  rw [if_neg (Nat.not_lt_zero _), List.append_nil]
  rfl

end Whole

/-- Entries that are listed, and marks for the same names, capture as entries do behind which marks
for all of their names follow.
-/
theorem captureAlike_listed {caught rest : List Caught} {names names' : List Name}
    (among : NamedAmong names caught) (same : ∀ key, key ∈ names ↔ key ∈ names')
    : CaptureAlike (caught.map Caught.listed ++ rest ++ names.map Caught.mark)
        (caught ++ (rest ++ names'.map Caught.mark)) where
  nodes key := by
    simp only [List.filterMap_append, nodesNamed_listed, nodesNamed_marks, List.append_nil]
  positional := by
    simp only [List.filterMap_append, positionals_listed, positionals_marks, List.append_nil]
  names key _ := by
    simp [same]
  lists key counts := by
    simp only [listsName_append, listsName_map_listed, listsName_marks, same]
    by_cases marked : key ∈ names'
    · simp [marked]
    · have absent : key ∉ caught.filterMap Caught.name := fun stands =>
        marked ((same key).mp (among key counts stands))
      have unlisted : listsName caught key = false :=
        Bool.eq_false_iff.mpr (mt mem_names_of_listsName absent)
      rw [decide_eq_false absent, unlisted, Bool.false_or, Bool.false_or]

/-- The names that a separated repetition marks are those that its unrolled form marks. -/
theorem mem_captureNames_separated (body sep : Expr) (key : Name)
    : key ∈ (Expr.separated body sep).captureNames
      ↔ key ∈ (Expr.pairs body sep).captureNames := by
  simp only [Expr.captureNames, mem_distinct, Expr.separated, Expr.pairs, Expr.captures,
    Expr.capturesOfOption, Expr.capturesOfList, List.append_nil, List.mem_append]
  exact Or.comm

section Items

variable {pos : Int} {s t u : MatcherState} {r : Reached}
  (matched : eval (env.siteWithin room scope rule) body pos s = .ok (some r) t)

include matched

/-- A first round that makes no progress is the whole of a separated repetition. -/
theorem eval_separated_of_stays (stays : r.stop = pos)
    : eval (env.siteWithin room scope rule) (.separated body sep) pos s
      = .ok (some ⟨pos, r.caught.map Caught.listed ++ [] ++ (Expr.separated body sep).marks⟩)
          t := by
  have rounds : (env.siteWithin room scope rule).separatedRounds body sep
      ((env.subject.size - pos).toNat + 1 + 1) ⟨pos, 0, []⟩ s
        = .ok ((⟨pos, 0, []⟩ : Progress).after (r.caught.map Caught.listed)) t := by
    rw [separatedRounds_first]
    refine (bind_of_ok matched).trans ?_
    simp only [if_pos stays]
    rw [stays]
    rfl
  rw [eval_separated]
  refine (bind_of_ok rounds).trans ?_
  rw [Progress.log_after]
  rfl

/-- After a first round that makes progress, a separated repetition does what the repetition of
separators and bodies does from there.
-/
theorem separatedRounds_of_moves (spaceless : rule.sigspace = false) (sane : s.Sane env)
    (moves : r.stop ≠ pos)
    : (env.siteWithin room scope rule).separatedRounds body sep
          ((env.subject.size - pos).toNat + 1 + 1) ⟨pos, 0, []⟩ s
      = (do
          let last ← (env.siteWithin room scope rule).pairRounds body sep
            ((env.subject.size - r.stop).toNat + 1) ⟨r.stop, 0, []⟩
          return last.after (r.caught.map Caught.listed)) t := by
  obtain ⟨resolves, memo, ahead⟩ :=
    Ensures.eval_ahead room scope rule pos body s sane.resolves sane.memo _ _ matched
  have less := (ahead r rfl).rest_lt moves
  rw [separatedRounds_first]
  refine (bind_of_ok matched).trans ?_
  simp only [if_neg moves]
  exact separatedRounds_after spaceless _ ⟨resolves, memo⟩
    (show (env.subject.size - r.stop).toNat < _ by omega)
    (show (env.subject.size - r.stop).toNat < _ by omega)

/-- The first item, listed, with what later items captured and the marks of a separated repetition
captures as it does unlisted, with the marks that the unrolled form leaves.
-/
theorem captureAlike_unrolled (sep : Expr) (rest : List Caught)
    : CaptureAlike (r.caught.map Caught.listed ++ rest ++ (Expr.separated body sep).marks)
        (r.caught ++ (rest ++ (Expr.pairs body sep).marks)) := by
  have among := CapturesAmong.eval (env.siteWithin room scope rule) body pos _ _ _ matched r rfl
  refine captureAlike_listed (among.mono fun key member => ?_) (mem_captureNames_separated body sep)
  exact mem_distinct.mpr (List.mem_append_left _ member)

/-- The unrolled form goes on behind its first item as the repetition of separators and bodies. -/
theorem eval_unrolled (spaceless : rule.sigspace = false)
    : eval (env.siteWithin room scope rule) (.unrolled body sep) pos s
      = (do
          let p ← (env.siteWithin room scope rule).pairRounds body sep
            ((env.subject.size - r.stop).toNat + 1) ⟨r.stop, 0, []⟩
          return some ⟨p.stop, r.caught ++ (p.log ++ (Expr.pairs body sep).marks)⟩
        : MatchM (Option Reached)) t := by
  have spaceless : (env.siteWithin room scope rule).rule.sigspace = false := spaceless
  rw [Expr.unrolled, eval_pair_of_spaceless spaceless, bind_of_ok matched]
  dsimp only
  rw [eval_pairs, bind_assoc (m := MatchM)]
  rfl

/-- If the first item makes no progress and no other one follows, both forms end with it. -/
theorem endsAlike_of_stays (spaceless : rule.sigspace = false) (stays : r.stop = pos)
    (missed : eval (env.siteWithin room scope rule) (.sequence [sep, body]) pos t = .ok none u)
    : EndsAlike (eval (env.siteWithin room scope rule) (.separated body sep) pos s)
        (eval (env.siteWithin room scope rule) (.unrolled body sep) pos s) := by
  have rounds : (env.siteWithin room scope rule).pairRounds body sep
      ((env.subject.size - r.stop).toNat + 1) ⟨r.stop, 0, []⟩ t = .ok ⟨r.stop, 0, []⟩ u := by
    rw [Site.pairRounds_succ spaceless, stays, bind_of_ok missed]
    rfl
  have captures := captureAlike_unrolled matched sep []
  rw [eval_separated_of_stays matched stays, eval_unrolled matched spaceless, bind_of_ok rounds]
  subst stays
  exact .reached fun way encloses info => (captures.enclosed encloses).ofLog info

/-- If the first item makes progress, both forms go through the same rounds behind it. -/
theorem endsAlike_of_moves (spaceless : rule.sigspace = false) (sane : s.Sane env)
    (moves : r.stop ≠ pos)
    : EndsAlike (eval (env.siteWithin room scope rule) (.separated body sep) pos s)
        (eval (env.siteWithin room scope rule) (.unrolled body sep) pos s) := by
  have first : (env.siteWithin room scope rule).separatedRounds body sep
      ((env.subject.size - pos).toNat + 1 + 1) ⟨pos, 0, []⟩ s = _ :=
    separatedRounds_of_moves matched spaceless sane moves
  rw [eval_separated, eval_unrolled matched spaceless]
  cases rounds : (env.siteWithin room scope rule).pairRounds body sep
      ((env.subject.size - r.stop).toNat + 1) ⟨r.stop, 0, []⟩ t with
  | error fault u =>
      have stopped := first.trans (bind_eq_error.mpr (Or.inl rounds))
      rw [bind_eq_error.mpr (Or.inl rounds)]
      refine Eq.subst (motive := fun left => EndsAlike left _)
        (bind_eq_error.mpr (Or.inl stopped)).symm .stopped
  | ok q u =>
      have ended : (env.siteWithin room scope rule).separatedRounds body sep
          ((env.subject.size - pos).toNat + 1 + 1) ⟨pos, 0, []⟩ s = .ok _ u :=
        first.trans (bind_of_ok rounds)
      have captures := captureAlike_unrolled matched sep q.log
      rw [← Progress.log_after] at captures
      rw [bind_of_ok rounds]
      refine Eq.subst (motive := fun left => EndsAlike left _) (bind_of_ok ended).symm ?_
      exact .reached fun way encloses info => (captures.enclosed encloses).ofLog info

end Items

/-- Without white space, an expression with a separator in between ends as its unrolled form does,
unless its first item makes no progress and separator and item can follow it. An item that makes no
progress is the only one of the separated form.
-/
theorem endsAlike_unrolled (spaceless : rule.sigspace = false) {pos : Int} {s : MatcherState}
    (sane : s.Sane env)
    : (∀ r t,
        eval (env.siteWithin room scope rule) body pos s = .ok (some r) t
        → r.stop = pos
        → ∃ log,
            eval (env.siteWithin room scope rule) (.separated body sep) pos s
            = .ok (some ⟨pos, log⟩) t)
      ∧ ((∀ r t,
          eval (env.siteWithin room scope rule) body pos s = .ok (some r) t
          → r.stop = pos
          → ∃ u, eval (env.siteWithin room scope rule) (.sequence [sep, body]) pos t = .ok none u)
        → EndsAlike (eval (env.siteWithin room scope rule) (.separated body sep) pos s)
            (eval (env.siteWithin room scope rule) (.unrolled body sep) pos s)) := by
  refine ⟨fun r t matched stays => ⟨_, eval_separated_of_stays matched stays⟩, fun missed => ?_⟩
  have unrolled : eval (env.siteWithin room scope rule) (.unrolled body sep) pos = _ :=
    eval_pair_of_spaceless spaceless body _ pos
  cases matched : eval (env.siteWithin room scope rule) body pos s with
  | error fault t =>
      rw [unrolled, eval_separated, separatedRounds_first, bind_assoc (m := MatchM),
        bind_eq_error.mpr (Or.inl matched), bind_eq_error.mpr (Or.inl matched)]
      exact .stopped
  | ok found t =>
      cases found with
      | none =>
          rw [unrolled, eval_separated, separatedRounds_first, bind_assoc (m := MatchM),
            bind_of_ok matched, bind_of_ok matched]
          exact .missed
      | some r =>
          by_cases stays : r.stop = pos
          · obtain ⟨u, missed⟩ := missed r t matched stays
            exact endsAlike_of_stays matched spaceless stays missed
          · exact endsAlike_of_moves matched spaceless sane stays

/-- A matcher over a row of two letters with a comma behind each of them. -/
def commaRow : MatchEnv where
  grammar := ⟨{ name := "rows" }, []⟩
  subject := ⟨#['a', ',', 'a', ',']⟩

/-- A rule for letters with commas between them. -/
def commaRowRule : Rule where
  name := "row"
  expr := .repetition (.literal "a") 1 none (some (.literal ",")) false

/-- In a row of letters with commas, every letter makes progress. -/
theorem endsAlike_unrolled_commaRow
    : commaRowRule.sigspace = false
      ∧ MatcherState.Sane {} commaRow
      ∧ EndsAlike
          (eval (commaRow.siteWithin 0 {} commaRowRule) (.separated (.literal "a") (.literal ",")) 0
            {})
          (eval (commaRow.siteWithin 0 {} commaRowRule) (.unrolled (.literal "a") (.literal ",")) 0
            {}) := by
  refine ⟨rfl, .initial commaRow, (endsAlike_unrolled rfl (.initial commaRow)).2 ?_⟩
  rintro r t ⟨⟩ stays
  exact absurd stays (by decide)

/-- A matcher over a row of which the first field is empty. -/
def emptyFirst : MatchEnv where
  grammar := ⟨{ name := "rows" }, []⟩
  subject := ⟨#[',', 'a']⟩

/-- Of a row of which the first field is empty, the separated form takes that field alone, the
unrolled form the others too.
-/
theorem exists_separated_stops_short
    : ∃ body sep r r' t t',
        commaRowRule.sigspace = false
        ∧ eval (emptyFirst.siteWithin 0 {} commaRowRule) (.separated body sep) 0 {} = .ok (some r) t
        ∧ eval (emptyFirst.siteWithin 0 {} commaRowRule) (.unrolled body sep) 0 {}
          = .ok (some r') t'
        ∧ r.stop = 0
        ∧ r'.stop = 2 :=
  ⟨.repetition (.literal "a") 0 (some 1) none false, .literal ",", _, _, _, _, rfl, rfl, rfl, rfl,
    rfl⟩

end MatchEnv

end RuleGrammar
