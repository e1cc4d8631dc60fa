import RuleGrammar.Proofs.Matcher.Participation

/-! Evaluations and their accounts. To keep an account of what takes part changes nothing: the
evaluation ends as it does without, and what took part shows in the log that it leaves.
-/

namespace RuleGrammar

-----------------------------------------------------------------------------------------
-- Mirrored computations
-----------------------------------------------------------------------------------------

/-- A computation ends as another one: in the same state, whether it answers or stops in a fault,
and its answer, which is of a kind, has the answer of the other as its image.
-/
def Mirrors {α β : Type} (image : α → β) (kind : α → Prop) (m : MatchM α) (n : MatchM β) : Prop :=
  ∀ s,
    (∃ a t, m s = .ok a t ∧ n s = .ok (image a) t ∧ kind a)
    ∨ ∃ fault t, m s = .error fault t ∧ n s = .error fault t

namespace Mirrors

variable {α β γ δ : Type} {image : α → β} {kind : α → Prop} {m : MatchM α} {n : MatchM β}

theorem pure {a : α} (value : kind a) : Mirrors image kind (Pure.pure a) (Pure.pure (image a)) :=
  fun s => .inl ⟨a, s, rfl, rfl, value⟩

theorem throw (fault : Fault)
    : Mirrors image kind (MonadExcept.throw fault) (MonadExcept.throw fault) :=
  fun s => .inr ⟨fault, s, rfl, rfl⟩

theorem bind {image' : γ → δ} {kind' : γ → Prop} {f : α → MatchM γ} {g : β → MatchM δ}
    (first : Mirrors image kind m n)
    (later : ∀ a, kind a → Mirrors image' kind' (f a) (g (image a)))
    : Mirrors image' kind' (m >>= f) (n >>= g) := by
  intro s
  rcases first s with ⟨a, t, ran, ran', value⟩ | ⟨fault, t, stopped, stopped'⟩
  · rw [bind_of_ok ran, bind_of_ok ran']
    exact later a value t
  · exact .inr ⟨fault, t, bind_eq_error.mpr (.inl stopped), bind_eq_error.mpr (.inl stopped')⟩

/-- What is done on both sides. -/
theorem shared {f : δ → MatchM α} {g : δ → MatchM β} (first : MatchM δ)
    (later : ∀ d, Mirrors image kind (f d) (g d))
    : Mirrors image kind (first >>= f) (first >>= g) :=
  have same : Mirrors id (fun _ => True) first first := fun s => by
    cases ran : first s with
    | ok d t => exact .inl ⟨d, t, rfl, rfl, trivial⟩
    | error fault t => exact .inr ⟨fault, t, rfl, rfl⟩
  same.bind fun d _ => later d

theorem ite {p : Prop} [Decidable p] {m' : MatchM α} {n' : MatchM β}
    (yes : Mirrors image kind m n) (no : Mirrors image kind m' n')
    : Mirrors image kind (if p then m else m') (if p then n else n') := by
  split
  · exact yes
  · exact no

theorem mono {wider : α → Prop} (mirrors : Mirrors image kind m n)
    (weaken : ∀ a, kind a → wider a)
    : Mirrors image wider m n := by
  intro s
  rcases mirrors s with ⟨a, t, ran, ran', value⟩ | stopped
  · exact .inl ⟨a, t, ran, ran', weaken a value⟩
  · exact .inr stopped

/-- Where the other computation answers, the one that mirrors it does so with an image. -/
theorem of_ok (mirrors : Mirrors image kind m n) {s t : MatcherState} {b : β}
    (ran : n s = .ok b t)
    : ∃ a, m s = .ok a t ∧ image a = b ∧ kind a := by
  rcases mirrors s with ⟨a, _, ran', same, value⟩ | ⟨_, _, -, stopped⟩
  · cases ran.symm.trans same
    exact ⟨a, ran', rfl, value⟩
  · cases ran.symm.trans stopped

end Mirrors

namespace Accounted

/-- An evaluation mirrors another one, and what it reaches shows in the log, under some names. -/
abbrev Accounts (names : List Name) (m : MatchM (Option (Account Reached)))
    (n : MatchM (Option Reached)) : Prop :=
  Mirrors (Option.map Account.value)
    (fun answer => ∀ a ∈ answer, Shows names false a.value.caught a.parts) m n

variable {names more : List Name} {site : Site}

theorem Accounts.wider {m : MatchM (Option (Account Reached))} {n : MatchM (Option Reached)}
    (accounts : Accounts names m n) (wide : names ⊆ more)
    : Accounts more m n :=
  accounts.mono fun _ found a member => (found a member).mono wide

theorem failed : Accounts names (pure none) (pure none) :=
  .pure (by simp)

theorem reached {a : Account Reached} (shows_ : Shows names false a.value.caught a.parts)
    : Accounts names (pure (some a)) (pure (some a.value)) :=
  @Mirrors.pure _ _ (Option.map Account.value) _ (some a) (by simpa using shows_)

/-- An atom makes no list, and what it captures is its account. -/
theorem accounts_atom (site : Site) {e : Expr} (atomic : e.isAtom = true) (pos : Int)
    : Accounts e.captures (atom (RuleGrammar.eval site e pos)) (RuleGrammar.eval site e pos) := by
  have shown : Answers (RuleGrammar.eval site e pos) fun reached => ∀ r ∈ reached,
      Shows e.captures false r.caught (r.caught.filterMap Part.ofCaught?) := by
    refine .atom atomic (by simp) (fun stop => ?_) (fun stop name m among => ?_) pos
    · rintro _ ⟨⟩
      exact .nil _ false
    · rintro _ ⟨⟩
      exact .single among m
  intro s
  cases ran : RuleGrammar.eval site e pos s with
  | error fault t => exact .inr ⟨fault, t, bind_eq_error.mpr (.inl ran), rfl⟩
  | ok answer t =>
      cases answer with
      | none => exact .inl ⟨none, t, bind_of_ok ran, rfl, by simp⟩
      | some r =>
          refine .inl ⟨some _, t, bind_of_ok ran, rfl, ?_⟩
          rintro _ ⟨⟩
          exact shown s (some r) t ran r rfl

-----------------------------------------------------------------------------------------
-- Repetitions and goals
-----------------------------------------------------------------------------------------

section Loops

variable {body between opener closer : Int → MatchM (Option Reached)}
  {body' between' opener' closer' : Int → MatchM (Option (Account Reached))}
  {sep : Option (Int → MatchM (Option Reached))}
  {sep' : Option (Int → MatchM (Option (Account Reached)))}

/-- The rounds that were completed show in their log, by induction on the bound. -/
theorem accounts_repeatRounds (rule : Name) (min : Nat) (max : Option Nat)
    (bodies : ∀ pos, Accounts names (body' pos) (body pos))
    (gaps : ∀ pos, Accounts names (between' pos) (between pos)) (bound : Nat)
    {p : Account Progress} (before : Shows names (Expr.repeats max) p.value.log p.parts)
    : Mirrors Account.value
        (fun last => Shows names (Expr.repeats max) last.value.log last.parts)
        (repeatRounds rule body' between' min max bound p)
        (RuleGrammar.repeatRounds rule body between min max bound p.value) := by
  induction bound generalizing p with
  | zero => exact .throw _
  | succ bound ih =>
      have gap : Accounts names (gapBefore between' p.value)
          (RuleGrammar.gapBefore between p.value) :=
        .ite (reached (.nil names false)) (gaps p.value.stop)
      refine .ite (.bind gap fun gap shown => ?_) (.pure before)
      cases gap with
      | none => exact .pure before
      | some gap =>
          refine .bind (bodies gap.value.stop) fun r found => ?_
          cases r with
          | none => exact .pure before
          | some r =>
              have round := ((shown gap rfl).append (found r rfl)).roundLog max
              have next : Shows names (Expr.repeats max)
                  (p.value.round r.value.stop
                    (roundLog max (gap.value.caught ++ r.value.caught))).log
                  (p.parts ++ gap.parts ++ r.parts) := by
                rw [Progress.log_round, List.append_assoc]
                exact before.append round
              exact .ite (.pure next) (ih next)

/-- The separator of an account goes with that of the evaluation. -/
def Separators (names : List Name) (sep' : Option (Int → MatchM (Option (Account Reached))))
    (sep : Option (Int → MatchM (Option Reached))) : Prop :=
  Option.Rel (fun f g => ∀ pos, Accounts names (f pos) (g pos)) sep' sep

theorem accounts_betweenRounds (separators : Separators names sep' sep) (pos : Int)
    : Accounts names (betweenRounds site sep' pos) (RuleGrammar.betweenRounds site sep pos) := by
  refine .shared _ fun start => ?_
  cases separators with
  | none => exact reached (.nil names false)
  | some each =>
      refine .bind (each start) fun r found => ?_
      cases r with
      | none => exact failed
      | some r =>
          exact .shared _ fun stop =>
            @reached _ ⟨⟨stop, r.value.caught⟩, r.parts⟩ (found r rfl)

theorem accounts_trailingSeparator (separators : Separators names sep' sep) (trailing : Bool)
    (p : Progress)
    : Mirrors Account.value (fun last => Shows names false last.value.caught last.parts)
        (trailingSeparator site sep' trailing p)
        (RuleGrammar.trailingSeparator site sep trailing p) := by
  cases separators with
  | none => exact .pure (.nil names false)
  | some each =>
      refine .ite (.shared _ fun start => ?_) (.pure (.nil names false))
      refine .bind (each start) fun r found => ?_
      cases r with
      | none => exact .pure (.nil names false)
      | some r => exact .pure (found r rfl)

/-- Behind the rounds of a repetition and what it takes of its separator stand its marks. -/
theorem accounts_evalRepetition {body : Expr} {min : Nat} {max : Option Nat} {sep : Option Expr}
    {trailing : Bool}
    (bodies
      : ∀ pos,
          Accounts (Expr.repetition body min max sep trailing).captures (eval site body pos)
            (RuleGrammar.eval site body pos))
    (separators
      : Separators (Expr.repetition body min max sep trailing).captures (evalOption site sep)
          (RuleGrammar.evalOption site sep))
    (pos : Int)
    : Accounts (Expr.repetition body min max sep trailing).captures
        (eval site (.repetition body min max sep trailing) pos)
        (RuleGrammar.eval site (.repetition body min max sep trailing) pos) := by
  refine .bind (accounts_repeatRounds site.rule.name min max bodies
    (accounts_betweenRounds separators) _ (.nil _ _)) fun p rounds => ?_
  refine .bind (accounts_trailingSeparator separators trailing p.value) fun last trail => ?_
  refine .ite failed ?_
  exact @reached _ ⟨⟨last.value.stop, _⟩, _⟩ (rounds.append (trail.loosen _)).repeated

theorem accounts_evalGoal (openers : ∀ pos, Accounts names (opener' pos) (opener pos))
    (closers : ∀ pos, Accounts names (closer' pos) (closer pos))
    (bodies : ∀ pos, Accounts names (body' pos) (body pos)) (closerName : Text) (pos : Int)
    : Accounts names (evalGoal site opener' closer' body' closerName pos)
        (RuleGrammar.evalGoal site opener closer body closerName pos) := by
  refine .bind (openers pos) fun o opened => ?_
  cases o with
  | none => exact failed
  | some o =>
      refine .shared _ fun inner => .bind (bodies inner) fun b filled => ?_
      cases b with
      | none => exact failed
      | some b =>
          refine .shared _ fun closing => .bind (closers closing) fun c closed => ?_
          cases c with
          | none => exact .shared _ fun _ => failed
          | some c =>
              have before := (opened o rfl).append (filled b rfl)
              exact @reached _ ⟨⟨c.value.stop, _⟩, _⟩ (before.append (closed c rfl).closer)

end Loops

-----------------------------------------------------------------------------------------
-- All expressions
-----------------------------------------------------------------------------------------

theorem value_further (best next : Option (Account Reached))
    : (further best next).map Account.value
      = furtherReached (best.map Account.value) (next.map Account.value) := by
  cases best with
  | none => rfl
  | some b =>
      cases next with
      | none => rfl
      | some n =>
          by_cases further : b.value.stop < n.value.stop <;>
            simp [Accounted.further, furtherReached, further]

theorem forall_mem_further {holds : Account Reached → Prop} {best next : Option (Account Reached)}
    (bests : ∀ a ∈ best, holds a) (nexts : ∀ a ∈ next, holds a)
    : ∀ a ∈ further best next, holds a := by
  cases best with
  | none => exact nexts
  | some b =>
      cases next with
      | none => exact bests
      | some n =>
          unfold further
          dsimp only
          split
          · exact nexts
          · exact bests

mutual

/-- The account of an evaluation goes with it, and what took part shows in its log. Induction on
the expression: what is given back leaves both the log and the account as they were.
-/
theorem accounts_eval (site : Site) (e : Expr) (pos : Int)
    : Accounts e.captures (eval site e pos) (RuleGrammar.eval site e pos) := by
  cases e with
  | literal text => exact accounts_atom site rfl pos
  | charClass cls => exact accounts_atom site rfl pos
  | anyChar => exact accounts_atom site rfl pos
  | anchor a => exact accounts_atom site rfl pos
  | reference rule capture => exact accounts_atom site rfl pos
  | sym => exact accounts_atom site rfl pos
  | lookahead body negated => exact accounts_atom site rfl pos
  | capture body name => exact accounts_atom site rfl pos
  | repetition body min max sep trailing =>
      refine accounts_evalRepetition
        (fun pos => (accounts_eval site body pos).wider (List.subset_append_left _ _)) ?_ pos
      cases sep with
      | none => exact .none
      | some e =>
          exact .some fun pos => (accounts_eval site e pos).wider (List.subset_append_right _ _)
  | sequence items => exact accounts_evalItems site true items pos
  | choice alternatives => exact accounts_evalChoice site alternatives pos
  | longest alternatives =>
      exact accounts_evalLongest site alternatives none (by simp) (fun _ => id) pos
  | goal opener closer body =>
      exact accounts_evalGoal
        (fun pos => (accounts_eval site opener pos).wider
          (List.subset_append_of_subset_left _ (List.subset_append_left _ _)))
        (fun pos => (accounts_eval site closer pos).wider
          (List.subset_append_of_subset_left _ (List.subset_append_right _ _)))
        (fun pos => (accounts_eval site body pos).wider (List.subset_append_right _ _)) _ pos

theorem accounts_evalItems (site : Site) (first : Bool) (items : List Expr) (pos : Int)
    : Accounts (Expr.capturesOfList items) (evalItems site first items pos)
        (RuleGrammar.evalItems site first items pos) := by
  cases items with
  | nil => exact reached (.nil _ false)
  | cons e rest =>
      refine .shared _ fun start => .bind (accounts_eval site e start) fun r found => ?_
      cases r with
      | none => exact failed
      | some r =>
          refine .bind (accounts_evalItems site false rest r.value.stop) fun later shown => ?_
          cases later with
          | none => exact failed
          | some later =>
              have here := (found r rfl).mono
                (List.subset_append_left e.captures (Expr.capturesOfList rest))
              have there := (shown later rfl).mono
                (List.subset_append_right e.captures (Expr.capturesOfList rest))
              exact @reached _ ⟨⟨later.value.stop, _⟩, _⟩ (here.append there)

theorem accounts_evalChoice (site : Site) (alternatives : List Expr) (pos : Int)
    : Accounts (Expr.capturesOfList alternatives) (evalChoice site alternatives pos)
        (RuleGrammar.evalChoice site alternatives pos) := by
  cases alternatives with
  | nil => exact failed
  | cons e rest =>
      refine .bind (accounts_eval site e pos) fun r found => ?_
      cases r with
      | none => exact (accounts_evalChoice site rest pos).wider (List.subset_append_right _ _)
      | some r => exact reached ((found r rfl).mono (List.subset_append_left _ _))

theorem accounts_evalLongest (site : Site) (alternatives : List Expr)
    (best : Option (Account Reached)) {names : List Name}
    (bests : ∀ a ∈ best, Shows names false a.value.caught a.parts)
    (known : Expr.capturesOfList alternatives ⊆ names) (pos : Int)
    : Accounts names (evalLongest site alternatives best pos)
        (RuleGrammar.evalLongest site alternatives (best.map Account.value) pos) := by
  cases alternatives with
  | nil => exact .pure bests
  | cons e rest =>
      obtain ⟨here, there⟩ := List.append_subset.mp known
      refine .bind ((accounts_eval site e pos).wider here) fun next found => ?_
      rw [← value_further]
      exact accounts_evalLongest site rest _ (forall_mem_further bests found) there pos

end

end Accounted

end RuleGrammar
