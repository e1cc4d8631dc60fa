import RuleGrammar.Proofs.Grammar.Visible
import RuleGrammar.Proofs.Matcher.Derivation

/-! The names under which evaluation captures. They are those that can be read off an expression,
so that the marks which a repetition leaves cover every name that its rounds captured under. This
holds of any site and any state, for it does not matter what calls answer.
-/

namespace RuleGrammar

-----------------------------------------------------------------------------------------
-- Answers of a kind
-----------------------------------------------------------------------------------------

/-- Whatever a computation answers is of a kind. -/
def Answers {α : Type} (m : MatchM α) (kind : α → Prop) : Prop :=
  ∀ s a t, m s = .ok a t → kind a

namespace Answers

variable {α β : Type} {m : MatchM α} {kind : α → Prop}

theorem trivial (m : MatchM α) : Answers m fun _ => True :=
  fun _ _ _ _ => True.intro

theorem pure {a : α} (value : kind a) : Answers (Pure.pure a) kind := by
  rintro s _ _ ⟨⟩
  exact value

theorem throw (fault : Fault) : Answers (MonadExcept.throw fault) kind := by
  rintro s _ _ ⟨⟩

theorem bind {next : α → MatchM β} {wider : β → Prop} (first : Answers m kind)
    (then_ : ∀ a, kind a → Answers (next a) wider)
    : Answers (m >>= next) wider := by
  intro s b u ended
  obtain ⟨a, t, ran, ended⟩ := bind_eq_ok.mp ended
  exact then_ a (first s a t ran) t b u ended

theorem ite {p : Prop} [Decidable p] {n : MatchM α} (yes : Answers m kind) (no : Answers n kind)
    : Answers (if p then m else n) kind := by
  split
  · exact yes
  · exact no

end Answers

-----------------------------------------------------------------------------------------
-- Atoms
-----------------------------------------------------------------------------------------

/-- Whether an expression captures one node at most: it does not pass on what its parts capture. -/
def Expr.isAtom : Expr → Bool
  | repetition _ _ _ _ _ | sequence _ | choice _ | longest _ | goal _ _ _ => false
  | _ => true

/-- A name that is not empty captures. -/
theorem Expr.mem_capturing {name : Option Name} {key : Name} (counts : key ≠ [])
    (named : name = some key)
    : key ∈ capturing name := by
  subst named
  cases key with
  | nil => exact absurd rfl counts
  | cons first rest => exact List.mem_singleton.mpr rfl

namespace Answers

variable {kind : Option Reached → Prop} {site : Site}

theorem miss (failed : kind none) (site : Site) (pos : Int) (what : Text)
    : Answers (site.miss pos what) kind :=
  .bind (.trivial _) fun _ _ => .pure failed

theorem charClass (failed : kind none) (empty : ∀ stop, kind (some ⟨stop, []⟩)) (cls : CharClass)
    (pos : Int)
    : Answers (eval site (.charClass cls) pos) kind := by
  simp only [eval]
  refine .ite ?_ (miss failed site pos _)
  cases cls.compile with
  | error fault => exact .throw _
  | ok holds =>
      cases site.subject.at? pos with
      | none => exact miss failed site pos _
      | some c => exact .ite (.pure (empty _)) (miss failed site pos _)

theorem anchor (failed : kind none) (empty : ∀ stop, kind (some ⟨stop, []⟩)) (a : Anchor)
    (pos : Int)
    : Answers (eval site (.anchor a) pos) kind := by
  simp only [eval]
  cases a with
  | inputStart => exact .ite (.pure (empty _)) (miss failed site pos _)
  | inputEnd => exact .ite (.pure (empty _)) (miss failed site pos _)
  | other mark => exact miss failed site pos _

/-- A reference captures under its name, unless that is empty. -/
theorem reference (failed : kind none) (empty : ∀ stop, kind (some ⟨stop, []⟩)) (name : Name)
    {capture : Option Name}
    (node : ∀ stop m, kind (some ⟨stop, [.node capture m false]⟩)) (pos : Int)
    : Answers (eval site (.reference name capture) pos) kind := by
  simp only [eval]
  refine .bind (.trivial _) fun answer _ => ?_
  cases answer with
  | none => exact miss failed site pos _
  | some m =>
      refine .pure ?_
      cases capture with
      | none => exact empty m.stop
      | some key => cases key with
        | nil => exact empty m.stop
        | cons first rest => exact node m.stop m

theorem sym (failed : kind none)
    (node : ∀ stop m, kind (some ⟨stop, [.node (some (Text.ofString "sym")) m false]⟩)) (pos : Int)
    : Answers (eval site .sym pos) kind := by
  simp only [eval]
  cases site.rule.tag with
  | none => exact .throw _
  | some tag =>
      exact .ite (.bind (.trivial _) fun m _ => .pure (node _ m)) (miss failed site pos _)

/-- An atom captures nothing, or one node under its name, which it does not make a list. -/
theorem atom {e : Expr} (atomic : e.isAtom = true) (failed : kind none)
    (empty : ∀ stop, kind (some ⟨stop, []⟩))
    (node
      : ∀ stop name m,
          (∀ key ≠ [], name = some key → key ∈ e.captures)
          → kind (some ⟨stop, [.node name m false]⟩))
    (pos : Int)
    : Answers (eval site e pos) kind := by
  cases e with
  | literal text => exact .ite (.pure (empty _)) (miss failed site pos _)
  | charClass cls => exact charClass failed empty cls pos
  | anyChar => exact .ite (.pure (empty _)) (miss failed site pos _)
  | anchor a => exact anchor failed empty a pos
  | reference rule capture =>
      refine reference failed empty rule (fun stop m => node stop capture m ?_) pos
      exact fun key counts named => Expr.mem_capturing counts named
  | sym =>
      refine sym failed (fun stop m => node stop _ m ?_) pos
      rintro key - ⟨⟩
      exact List.mem_singleton.mpr rfl
  | lookahead body negated =>
      exact .bind (.trivial _) fun _ _ => .ite (.pure (empty _)) (miss failed site pos _)
  | capture body name =>
      refine .bind (.trivial _) fun r _ => ?_
      cases r with
      | none => exact .pure failed
      | some r =>
          refine .bind (.trivial _) fun m _ => .pure (node r.stop name m ?_)
          exact fun key counts named => Expr.mem_capturing counts named
  | repetition body min max sep trailing => cases atomic
  | sequence items => cases atomic
  | choice alternatives => cases atomic
  | longest alternatives => cases atomic
  | goal opener closer body => cases atomic

end Answers

-----------------------------------------------------------------------------------------
-- Logs under names
-----------------------------------------------------------------------------------------

/-- Whatever stands under a name in a log stands under one of these, the empty name aside. -/
def NamedAmong (names : List Name) (log : List Caught) : Prop :=
  ∀ key ≠ [], key ∈ log.filterMap Caught.name → key ∈ names

namespace NamedAmong

variable {names more : List Name} {log later : List Caught}

theorem nil (names : List Name) : NamedAmong names [] := by
  simp [NamedAmong]

theorem mono (among : NamedAmong names log) (wider : names ⊆ more) : NamedAmong more log :=
  fun key counts member => wider (among key counts member)

theorem append (among : NamedAmong names log) (amongLater : NamedAmong names later)
    : NamedAmong names (log ++ later) := by
  intro key counts member
  rw [List.filterMap_append] at member
  exact (List.mem_append.mp member).elim (among key counts) (amongLater key counts)

theorem sublist (among : NamedAmong names log) (shorter : later.Sublist log)
    : NamedAmong names later :=
  fun key counts member => among key counts ((shorter.filterMap _).subset member)

theorem roundLog (among : NamedAmong names log) (max : Option Nat)
    : NamedAmong names (RuleGrammar.roundLog max log) := by
  unfold RuleGrammar.roundLog
  split
  · intro key counts member
    obtain ⟨_, listed, named⟩ := List.mem_filterMap.mp member
    obtain ⟨entry, inLog, rfl⟩ := List.mem_map.mp listed
    refine among key counts (List.mem_filterMap.mpr ⟨entry, inLog, ?_⟩)
    cases entry <;> exact named
  · exact among

theorem marks (names : List Name) : NamedAmong names (names.map Caught.mark) := by
  intro key _ member
  obtain ⟨_, marked, named⟩ := List.mem_filterMap.mp member
  obtain ⟨name, inNames, rfl⟩ := List.mem_map.mp marked
  cases named
  exact inNames

theorem single {name : Option Name} (among : ∀ key ≠ [], name = some key → key ∈ names) (m : Match)
    (listed : Bool)
    : NamedAmong names [.node name m listed] := by
  intro key counts member
  exact among key counts (by simpa [Caught.name] using member)

end NamedAmong

/-- What a computation reaches, it reaches by captures under these names. -/
abbrev CapturesAmong (names : List Name) (m : MatchM (Option Reached)) : Prop :=
  Answers m fun reached => ∀ r ∈ reached, NamedAmong names r.caught

namespace CapturesAmong

variable {names more : List Name} {site : Site}

theorem failed : CapturesAmong names (pure none) :=
  .pure (by simp)

theorem reached {r : Reached} (among : NamedAmong names r.caught)
    : CapturesAmong names (pure (some r)) :=
  .pure (by simpa using among)

theorem wider {m : MatchM (Option Reached)} (among : CapturesAmong names m) (wider : names ⊆ more)
    : CapturesAmong more m :=
  fun s r t ran reached member => (among s r t ran reached member).mono wider

-----------------------------------------------------------------------------------------
-- Repetitions and goals
-----------------------------------------------------------------------------------------

section Loops

variable {body between opener closer : Int → MatchM (Option Reached)}
  {sep : Option (Int → MatchM (Option Reached))}

/-- Rounds capture under the names of their bodies and of what stands between them, by induction on
the bound.
-/
theorem repeatRounds (rule : Name) (min : Nat) (max : Option Nat)
    (bodies : ∀ pos, CapturesAmong names (body pos))
    (gaps : ∀ pos, CapturesAmong names (between pos)) (bound : Nat) {p : Progress}
    (before : NamedAmong names p.log)
    : Answers (repeatRounds rule body between min max bound p) fun last =>
        NamedAmong names last.log := by
  induction bound generalizing p with
  | zero => exact .throw _
  | succ bound ih =>
      have gap : CapturesAmong names (gapBefore between p) :=
        .ite (reached (.nil names)) (gaps p.stop)
      refine .ite (.bind gap fun gap caught => ?_) (.pure before)
      cases gap with
      | none => exact .pure before
      | some gap =>
          refine .bind (bodies gap.stop) fun r found => ?_
          cases r with
          | none => exact .pure before
          | some r =>
              have round := (caught gap rfl).append (found r rfl)
              have next : NamedAmong names
                  (p.round r.stop (roundLog max (gap.caught ++ r.caught))).log := by
                rw [Progress.log_round]
                exact before.append (round.roundLog max)
              exact .ite (.pure next) (ih next)

theorem betweenRounds (separators : ∀ f ∈ sep, ∀ pos, CapturesAmong names (f pos)) (pos : Int)
    : CapturesAmong names (betweenRounds site sep pos) := by
  refine .bind (.trivial _) fun start _ => ?_
  cases sep with
  | none => exact reached (.nil names)
  | some separator =>
      refine .bind (separators separator rfl start) fun r found => ?_
      cases r with
      | none => exact failed
      | some r => exact .bind (.trivial _) fun _ _ => reached (found r rfl)

theorem trailingSeparator (separators : ∀ f ∈ sep, ∀ pos, CapturesAmong names (f pos))
    (trailing : Bool) (p : Progress)
    : Answers (trailingSeparator site sep trailing p) fun last => NamedAmong names last.caught := by
  cases sep with
  | none => exact .pure (.nil names)
  | some separator =>
      refine .ite (.bind (.trivial _) fun start _ => ?_) (.pure (.nil names))
      refine .bind (separators separator rfl start) fun r found => ?_
      cases r with
      | none => exact .pure (.nil names)
      | some r => exact .pure (found r rfl)

theorem evalRepetition (bodies : ∀ pos, CapturesAmong names (body pos))
    (separators : ∀ f ∈ sep, ∀ pos, CapturesAmong names (f pos)) (min : Nat) (max : Option Nat)
    (trailing : Bool) {marked : List Name} (known : marked ⊆ names) (pos : Int)
    : CapturesAmong names (evalRepetition site body sep min max trailing marked pos) := by
  refine .bind (repeatRounds site.rule.name min max bodies (betweenRounds separators) _ (.nil _))
    fun p rounds => ?_
  refine .bind (trailingSeparator separators trailing p) fun last trail => ?_
  refine .ite failed (reached ((rounds.append trail).append ?_))
  split
  · exact (NamedAmong.marks marked).mono known
  · exact .nil names

theorem evalGoal (openers : ∀ pos, CapturesAmong names (opener pos))
    (closers : ∀ pos, CapturesAmong names (closer pos))
    (bodies : ∀ pos, CapturesAmong names (body pos)) (closerName : Text) (pos : Int)
    : CapturesAmong names (evalGoal site opener closer body closerName pos) := by
  refine .bind (openers pos) fun o opened => ?_
  cases o with
  | none => exact failed
  | some o =>
      refine .bind (.trivial _) fun inner _ => ?_
      refine .bind (bodies inner) fun b filled => ?_
      cases b with
      | none => exact failed
      | some b =>
          refine .bind (.trivial _) fun closing _ => ?_
          refine .bind (closers closing) fun c closed => ?_
          cases c with
          | none => exact .bind (.trivial _) fun _ _ => failed
          | some c =>
              have before := (opened o rfl).append (filled b rfl)
              exact reached (before.append ((closed c rfl).sublist List.filter_sublist))

end Loops

-----------------------------------------------------------------------------------------
-- All expressions
-----------------------------------------------------------------------------------------

theorem atom (site : Site) {e : Expr} (atomic : e.isAtom = true) (pos : Int)
    : CapturesAmong e.captures (eval site e pos) := by
  refine Answers.atom atomic (by simp) (fun stop => ?_) (fun stop name m among => ?_) pos
  · rintro _ ⟨⟩
    exact .nil _
  · rintro _ ⟨⟩
    exact .single among m false

mutual

/-- Evaluation captures under the names that can be read off the expression, by induction on it. -/
theorem eval (site : Site) (e : Expr) (pos : Int)
    : CapturesAmong e.captures (RuleGrammar.eval site e pos) := by
  cases e with
  | literal text => exact atom site rfl pos
  | charClass cls => exact atom site rfl pos
  | anyChar => exact atom site rfl pos
  | anchor a => exact atom site rfl pos
  | reference rule capture => exact atom site rfl pos
  | sym => exact atom site rfl pos
  | lookahead body negated => exact atom site rfl pos
  | capture body name => exact atom site rfl pos
  | repetition body min max sep trailing =>
      have bodies pos : CapturesAmong (Expr.repetition body min max sep trailing).captures
          (RuleGrammar.eval site body pos) :=
        (eval site body pos).wider (List.subset_append_left _ _)
      refine evalRepetition bodies (fun f found pos => ?_) min max trailing
        (fun name member => mem_distinct.mp member) pos
      cases sep with
      | none => cases found
      | some e =>
          cases found
          exact (eval site e pos).wider (List.subset_append_right _ _)
  | sequence items => exact evalItems site true items pos
  | choice alternatives => exact evalChoice site alternatives pos
  | longest alternatives => exact evalLongest site alternatives (by simp) (fun _ => id) pos
  | goal opener closer body =>
      exact evalGoal
        (fun pos => (eval site opener pos).wider
          (List.subset_append_of_subset_left _ (List.subset_append_left _ _)))
        (fun pos => (eval site closer pos).wider
          (List.subset_append_of_subset_left _ (List.subset_append_right _ _)))
        (fun pos => (eval site body pos).wider (List.subset_append_right _ _)) _ pos

theorem evalItems (site : Site) (first : Bool) (items : List Expr) (pos : Int)
    : CapturesAmong (Expr.capturesOfList items) (RuleGrammar.evalItems site first items pos) := by
  cases items with
  | nil => exact reached (.nil _)
  | cons e rest =>
      refine .bind (.trivial _) fun start _ => ?_
      refine .bind (eval site e start) fun r found => ?_
      cases r with
      | none => exact failed
      | some r =>
          refine .bind (evalItems site false rest r.stop) fun later foundLater => ?_
          cases later with
          | none => exact failed
          | some later =>
              have here := (found r rfl).mono
                (List.subset_append_left e.captures (Expr.capturesOfList rest))
              have there := (foundLater later rfl).mono
                (List.subset_append_right e.captures (Expr.capturesOfList rest))
              exact reached (here.append there)

theorem evalChoice (site : Site) (alternatives : List Expr) (pos : Int)
    : CapturesAmong (Expr.capturesOfList alternatives)
        (RuleGrammar.evalChoice site alternatives pos) := by
  cases alternatives with
  | nil => exact failed
  | cons e rest =>
      refine .bind (eval site e pos) fun r found => ?_
      cases r with
      | none => exact (evalChoice site rest pos).wider (List.subset_append_right _ _)
      | some r => exact reached ((found r rfl).mono (List.subset_append_left _ _))

theorem evalLongest (site : Site) (alternatives : List Expr) {best : Option Reached}
    {names : List Name} (bests : ∀ r ∈ best, NamedAmong names r.caught)
    (known : Expr.capturesOfList alternatives ⊆ names) (pos : Int)
    : CapturesAmong names (RuleGrammar.evalLongest site alternatives best pos) := by
  cases alternatives with
  | nil => exact .pure bests
  | cons e rest =>
      obtain ⟨here, there⟩ := List.append_subset.mp known
      refine .bind ((eval site e pos).wider here) fun next found => ?_
      exact evalLongest site rest (Reached.forall_mem_further bests found) there pos

end

end CapturesAmong

end RuleGrammar
