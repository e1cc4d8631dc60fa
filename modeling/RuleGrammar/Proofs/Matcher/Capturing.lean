import RuleGrammar.Proofs.MatchTree.Order
import RuleGrammar.Proofs.Matcher.Derivation
import RuleGrammar.Proofs.Matcher.Ensuring

/-! What evaluation captures: answers of calls, and nodes that no rule made, which hold such nodes
in turn. A property of nodes that passes from what such a node captured to the node therefore holds
of all captures if it holds of the answers.
-/

namespace RuleGrammar

-----------------------------------------------------------------------------------------
-- Kinds of nodes
-----------------------------------------------------------------------------------------

/-- All nodes of a log are of a kind. -/
def LogOf (kind : Match → Prop) (log : List Caught) : Prop :=
  ∀ m ∈ logNodes log, kind m

/-- A node that no rule made is of a kind if what it captured is. -/
def PassesUp (kind : Match → Prop) : Prop :=
  ∀ id start stop log, LogOf kind log → kind (.ofLog { id, start, stop } log)

namespace LogOf

variable {kind : Match → Prop} {log more : List Caught}

theorem nil : LogOf kind [] := by
  simp [LogOf]

theorem single {m : Match} (node : kind m) (name : Option Name) (listed : Bool)
    : LogOf kind [.node name m listed] := by
  simpa [LogOf, Caught.node?] using node

theorem append (first : LogOf kind log) (second : LogOf kind more) : LogOf kind (log ++ more) := by
  intro m member
  rw [logNodes, List.filterMap_append] at member
  exact (List.mem_append.mp member).elim (first m) (second m)

theorem filter (all : LogOf kind log) (kept : Caught → Bool) : LogOf kind (log.filter kept) :=
  fun m member => all m ((List.filter_sublist.filterMap _).subset member)

theorem roundLog (all : LogOf kind log) (max : Option Nat)
    : LogOf kind (RuleGrammar.roundLog max log) := by
  rwa [LogOf, logNodes_roundLog]

theorem marks (names : List Name) : LogOf kind (names.map Caught.mark) := by
  rw [LogOf, logNodes_marks]
  simp

end LogOf

namespace MatchEnv

/-- From states with a property of the memo, what a computation reaches, it reaches by captures of a
kind.
-/
abbrev Catches (env : MatchEnv) (keeps : Memo → Prop) (kind : Match → Prop)
    (m : MatchM (Option Reached))
    : Prop :=
  env.Ensures keeps m fun reached => ∀ r ∈ reached, LogOf kind r.caught

/-- The calls of a site answer with nodes of a kind. -/
def CallsOf (env : MatchEnv) (keeps : Memo → Prop) (kind : Match → Prop) (site : Site) : Prop :=
  ∀ scope name pos, env.Ensures keeps (site.call scope name pos) fun answer => ∀ m ∈ answer, kind m

namespace Catches

variable {env : MatchEnv} {keeps : Memo → Prop} {kind : Match → Prop} {site : Site} {pos : Int}

-----------------------------------------------------------------------------------------
-- Single steps
-----------------------------------------------------------------------------------------

theorem failed : env.Catches keeps kind (pure none) :=
  .pure (by simp)

theorem reached {r : Reached} (log : LogOf kind r.caught)
    : env.Catches keeps kind (pure (some r)) :=
  .pure (by simpa using log)

theorem miss (site : Site) (pos : Int) (what : Text)
    : env.Catches keeps kind (site.miss pos what) :=
  (Ensures.miss site pos what).mono fun r missed => by simp [missed]

theorem anonymous (passes : PassesUp kind) {start stop : Int} {log : List Caught}
    (all : LogOf kind log)
    : env.Ensures keeps (Site.anonymous start stop log) kind := by
  rintro s resolves kept _ _ ⟨⟩
  exact ⟨resolves, kept, passes _ _ _ _ all⟩

theorem skipSpace (calls : env.CallsOf keeps kind site) (pos : Int)
    : env.Ensures keeps (site.skipSpace pos) fun _ => True := by
  refine .ite (fun _ => .bind (calls site.quiet.scope "ws" pos) fun answer _ => ?_)
    fun _ => .pure trivial
  cases answer <;> exact .pure trivial

theorem itemStart (calls : env.CallsOf keeps kind site) (first : Bool) (pos : Int)
    : env.Ensures keeps (site.itemStart first pos) fun _ => True :=
  .ite (fun _ => .pure trivial) fun _ => skipSpace calls pos

-----------------------------------------------------------------------------------------
-- Repetitions and goals
-----------------------------------------------------------------------------------------

section Loops

variable {body between : Int → MatchM (Option Reached)}
  {sep : Option (Int → MatchM (Option Reached))}

/-- Rounds capture nodes of a kind where their bodies and what stands between them do, by induction
on the bound.
-/
theorem repeatRounds (rule : Name) (min : Nat) (max : Option Nat)
    (bodies : ∀ pos, env.Catches keeps kind (body pos))
    (gaps : ∀ pos, env.Catches keeps kind (between pos)) (bound : Nat) {p : Progress}
    (before : LogOf kind p.log)
    : env.Ensures keeps (repeatRounds rule body between min max bound p) fun last =>
        LogOf kind last.log := by
  induction bound generalizing p with
  | zero => exact .throw _
  | succ bound ih =>
      have gap : env.Catches keeps kind (gapBefore between p) :=
        .ite (fun _ => reached .nil) fun _ => gaps p.stop
      refine .ite (fun _ => .bind gap fun gap caught => ?_) fun _ => .pure before
      cases gap with
      | none => exact .pure before
      | some gap =>
          refine .bind (bodies gap.stop) fun r found => ?_
          cases r with
          | none => exact .pure before
          | some r =>
              have round := (caught gap rfl).append (found r rfl)
              have next : LogOf kind
                  (p.round r.stop (roundLog max (gap.caught ++ r.caught))).log := by
                rw [Progress.log_round]
                exact before.append (round.roundLog max)
              exact .ite (fun _ => .pure next) fun _ => ih next

variable (calls : env.CallsOf keeps kind site)

include calls

theorem betweenRounds (separators : ∀ f ∈ sep, ∀ pos, env.Catches keeps kind (f pos)) (pos : Int)
    : env.Catches keeps kind (betweenRounds site sep pos) := by
  refine .bind (skipSpace calls pos) fun start _ => ?_
  cases sep with
  | none => exact reached .nil
  | some separator =>
      refine .bind (separators separator rfl start) fun r found => ?_
      cases r with
      | none => exact failed
      | some r => exact .bind (skipSpace calls r.stop) fun _ _ => reached (found r rfl)

theorem trailingSeparator (separators : ∀ f ∈ sep, ∀ pos, env.Catches keeps kind (f pos))
    (trailing : Bool) (p : Progress)
    : env.Ensures keeps (trailingSeparator site sep trailing p) fun last =>
        LogOf kind last.caught := by
  cases sep with
  | none => exact .pure .nil
  | some separator =>
      refine .ite (fun _ => .bind (skipSpace calls p.stop) fun start _ => ?_) fun _ => .pure .nil
      refine .bind (separators separator rfl start) fun r found => ?_
      cases r with
      | none => exact .pure .nil
      | some r => exact .pure (found r rfl)

theorem evalRepetition (bodies : ∀ pos, env.Catches keeps kind (body pos))
    (separators : ∀ f ∈ sep, ∀ pos, env.Catches keeps kind (f pos)) (min : Nat) (max : Option Nat)
    (trailing : Bool) (names : List Name) (pos : Int)
    : env.Catches keeps kind (evalRepetition site body sep min max trailing names pos) := by
  refine .bind (repeatRounds site.rule.name min max bodies (betweenRounds calls separators) _ .nil)
    fun p rounds => ?_
  refine .bind (trailingSeparator calls separators trailing p) fun last trail => ?_
  refine .ite (fun _ => failed) fun _ => reached ?_
  refine (rounds.append trail).append ?_
  split
  · exact .marks names
  · exact .nil

theorem evalGoal {opener closer : Int → MatchM (Option Reached)}
    (openers : ∀ pos, env.Catches keeps kind (opener pos))
    (closers : ∀ pos, env.Catches keeps kind (closer pos))
    (bodies : ∀ pos, env.Catches keeps kind (body pos)) (closerName : Text) (pos : Int)
    : env.Catches keeps kind (evalGoal site opener closer body closerName pos) := by
  refine .bind (openers pos) fun o opened => ?_
  cases o with
  | none => exact failed
  | some o =>
      refine .bind (skipSpace calls o.stop) fun inner _ => ?_
      refine .bind (bodies inner) fun b filled => ?_
      cases b with
      | none => exact failed
      | some b =>
          refine .bind (skipSpace calls b.stop) fun closing _ => ?_
          refine .bind (closers closing) fun c closed => ?_
          cases c with
          | none =>
              have notes := (Ensures.carries env keeps).notes (rfl : site.scope = site.scope) rfl
              exact .bind (.of_lockstep (notes.expectGoal closing closerName)) fun _ _ => failed
          | some c =>
              have before := (opened o rfl).append (filled b rfl)
              exact reached (before.append ((closed c rfl).filter _))

end Loops

-----------------------------------------------------------------------------------------
-- All expressions
-----------------------------------------------------------------------------------------

theorem charClass (site : Site) (cls : CharClass) (pos : Int)
    : env.Catches keeps kind (eval site (.charClass cls) pos) := by
  simp only [eval]
  refine .ite (fun _ => ?_) fun _ => miss site pos _
  cases cls.compile with
  | error fault => exact .throw _
  | ok holds =>
      cases site.subject.at? pos with
      | none => exact miss site pos _
      | some c => exact .ite (fun _ => reached .nil) fun _ => miss site pos _

theorem anchor (site : Site) (a : Anchor) (pos : Int)
    : env.Catches keeps kind (eval site (.anchor a) pos) := by
  simp only [eval]
  cases a with
  | inputStart => exact .ite (fun _ => reached .nil) fun _ => miss site pos _
  | inputEnd => exact .ite (fun _ => reached .nil) fun _ => miss site pos _
  | other mark => exact miss site pos _

theorem reference (calls : env.CallsOf keeps kind site) (name : Name) (capture : Option Name)
    (pos : Int)
    : env.Catches keeps kind (eval site (.reference name capture) pos) := by
  simp only [eval]
  refine .bind (calls site.scope name pos) fun answer found => ?_
  cases answer with
  | none => exact miss site pos _
  | some m =>
      have node := found m rfl
      refine reached fun n member => ?_
      obtain ⟨entry, inLog, isNode⟩ := List.mem_filterMap.mp member
      obtain ⟨key, -, rfl⟩ := List.mem_map.mp inLog
      cases isNode
      exact node

theorem sym (passes : PassesUp kind) (site : Site) (pos : Int)
    : env.Catches keeps kind (eval site .sym pos) := by
  simp only [eval]
  cases site.rule.tag with
  | none => exact .throw _
  | some tag =>
      refine .ite (fun _ => .bind (anonymous passes .nil) fun m node => ?_) fun _ => miss site pos _
      exact reached (.single node _ _)

mutual

/-- Where calls answer with nodes of a kind, evaluation captures nodes of the kind, by induction on
the expression.
-/
theorem eval (passes : PassesUp kind) {site : Site} (calls : env.CallsOf keeps kind site) (e : Expr)
    (pos : Int)
    : env.Catches keeps kind (RuleGrammar.eval site e pos) := by
  have quietCalls : env.CallsOf keeps kind site.quiet := calls
  cases e with
  | literal text =>
      exact .ite (fun _ => reached .nil) fun _ => miss site pos _
  | charClass cls => exact charClass site cls pos
  | anyChar => exact .ite (fun _ => reached .nil) fun _ => miss site pos _
  | anchor a => exact anchor site a pos
  | reference rule capture => exact reference calls rule capture pos
  | sym => exact sym passes site pos
  | lookahead body negated =>
      refine .bind (eval passes quietCalls body pos) fun found _ => ?_
      exact .ite (fun _ => reached .nil) fun _ => miss site pos _
  | repetition body min max sep trailing =>
      have bodies := eval passes calls body
      refine evalRepetition calls bodies (fun f found => ?_) min max trailing _ pos
      cases sep with
      | none => cases found
      | some e =>
          cases found
          exact eval passes calls e
  | sequence items => exact evalItems passes calls true items pos
  | choice alternatives => exact evalChoice passes calls alternatives pos
  | longest alternatives => exact evalLongest passes calls alternatives (by simp) pos
  | goal opener closer body =>
      exact evalGoal calls (eval passes calls opener) (eval passes calls closer)
        (eval passes calls body) _ pos
  | capture body name =>
      refine .bind (eval passes calls body pos) fun r found => ?_
      cases r with
      | none => exact failed
      | some r =>
          refine .bind (anonymous passes (found r rfl)) fun m node => ?_
          exact reached (.single node _ _)

theorem evalItems (passes : PassesUp kind) {site : Site} (calls : env.CallsOf keeps kind site)
    (first : Bool) (items : List Expr) (pos : Int)
    : env.Catches keeps kind (RuleGrammar.evalItems site first items pos) := by
  cases items with
  | nil => exact reached .nil
  | cons e rest =>
      refine .bind (itemStart calls first pos) fun start _ => ?_
      refine .bind (eval passes calls e start) fun r found => ?_
      cases r with
      | none => exact failed
      | some r =>
          refine .bind (evalItems passes calls false rest r.stop) fun later foundLater => ?_
          cases later with
          | none => exact failed
          | some later => exact reached ((found r rfl).append (foundLater later rfl))

theorem evalChoice (passes : PassesUp kind) {site : Site} (calls : env.CallsOf keeps kind site)
    (alternatives : List Expr) (pos : Int)
    : env.Catches keeps kind (RuleGrammar.evalChoice site alternatives pos) := by
  cases alternatives with
  | nil => exact failed
  | cons e rest =>
      refine .bind (eval passes calls e pos) fun r found => ?_
      cases r with
      | none => exact evalChoice passes calls rest pos
      | some r => exact reached (found r rfl)

theorem evalLongest (passes : PassesUp kind) {site : Site} (calls : env.CallsOf keeps kind site)
    (alternatives : List Expr) {best : Option Reached} (bests : ∀ r ∈ best, LogOf kind r.caught)
    (pos : Int)
    : env.Catches keeps kind (RuleGrammar.evalLongest site alternatives best pos) := by
  cases alternatives with
  | nil => exact .pure bests
  | cons e rest =>
      refine .bind (eval passes calls e pos) fun next found => ?_
      exact evalLongest passes calls rest (Reached.forall_mem_further bests found) pos

end

end Catches

end MatchEnv

end RuleGrammar
