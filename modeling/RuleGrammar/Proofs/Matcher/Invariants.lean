import RuleGrammar.Proofs.Matcher.Derivation
import RuleGrammar.Proofs.Matcher.Summary

/-! Invariants of what the matcher keeps. What every single step keeps up at the offsets that it
can reach, whole evaluations and applications keep up, and they stay among these offsets, however
they end.
-/

namespace RuleGrammar

/-- From states with a property, a computation ends in such a state, whether it answers or stops
in a fault, and its answer is of a kind.
-/
def Maintains (inv : MatcherState → Prop) {α : Type} (m : MatchM α) (kind : α → Prop) : Prop :=
  ∀ s,
    inv s
    → (∃ a t, m s = .ok a t ∧ inv t ∧ kind a) ∨ ∃ fault t, m s = .error fault t ∧ inv t

namespace Maintains

variable {inv : MatcherState → Prop} {α β : Type} {kind : α → Prop}

theorem pure {a : α} (value : kind a) : Maintains inv (Pure.pure a) kind :=
  fun s kept => .inl ⟨a, s, rfl, kept, value⟩

theorem throw (fault : Fault) : Maintains inv (MonadExcept.throw fault) kind :=
  fun s kept => .inr ⟨fault, s, rfl, kept⟩

theorem mono {m : MatchM α} {wider : α → Prop} (maintains : Maintains inv m kind)
    (weaken : ∀ a, kind a → wider a)
    : Maintains inv m wider := by
  intro s kept
  rcases maintains s kept with ⟨a, t, ran, after, value⟩ | stopped
  · exact .inl ⟨a, t, ran, after, weaken a value⟩
  · exact .inr stopped

theorem bind {m : MatchM α} {next : α → MatchM β} {wider : β → Prop}
    (first : Maintains inv m kind) (later : ∀ a, kind a → Maintains inv (next a) wider)
    : Maintains inv (m >>= next) wider := by
  intro s kept
  rcases first s kept with ⟨a, t, ran, after, value⟩ | ⟨fault, t, ran, after⟩
  · rw [bind_of_ok ran]
    exact later a value t after
  · exact .inr ⟨fault, t, bind_eq_error.mpr (.inl ran), after⟩

theorem ite {p : Prop} [Decidable p] {m n : MatchM α} (yes : p → Maintains inv m kind)
    (no : ¬ p → Maintains inv n kind)
    : Maintains inv (if p then m else n) kind := by
  by_cases condition : p
  · rw [if_pos condition]
    exact yes condition
  · rw [if_neg condition]
    exact no condition

/-- A change of the state that never stops. -/
theorem modify {change : MatcherState → MatcherState} (kept : ∀ s, inv s → inv (change s))
    : Maintains inv (MonadStateOf.modifyGet fun s => ((), change s)) fun _ => True :=
  fun s before => .inl ⟨(), change s, rfl, kept s before, trivial⟩

/-- What a computation answers, it answered from some state. -/
theorem ran {m : MatchM α} (maintains : Maintains inv m kind)
    : Maintains inv m fun a => kind a ∧ ∃ s t, m s = .ok a t := by
  intro s kept
  rcases maintains s kept with ⟨a, t, ran, after, value⟩ | stopped
  · exact .inl ⟨a, t, ran, after, value, s, t, ran⟩
  · exact .inr stopped

/-- What a computation maintains shows when it answers. -/
theorem of_ok {m : MatchM α} (maintains : Maintains inv m kind) {s t : MatcherState} {a : α}
    (kept : inv s) (ran : m s = .ok a t) : inv t ∧ kind a := by
  rcases maintains s kept with ⟨_, _, ran', after⟩ | ⟨_, _, stopped, -⟩
  · cases ran.symm.trans ran'
    exact after
  · cases ran.symm.trans stopped

end Maintains

-----------------------------------------------------------------------------------------
-- Bodies of rules
-----------------------------------------------------------------------------------------

/-- An invariant that the steps of a site keep up at certain offsets, which they do not leave. -/
structure Site.Upholds (site : Site) (inv : MatcherState → Prop) (offset : Int → Prop) : Prop where
  literal : ∀ {text pos},
    offset pos → site.subject.holds text pos = true → offset (pos + text.length)
  next : ∀ {pos}, offset pos → pos < site.subject.size → offset (pos + 1)
  fresh : Maintains inv MatchM.freshId fun _ => True
  expect : ∀ {pos} what,
    offset pos → Maintains inv (MatchM.expect site.scope pos what) fun _ => True
  expectGoal : ∀ {pos} what,
    offset pos → Maintains inv (MatchM.expectGoal site.scope pos what) fun _ => True
  call : ∀ {scope} name {pos},
    scope = site.scope ∨ scope = site.quiet.scope
    → offset pos
    → Maintains inv (site.call scope name pos) fun answer => ∀ m ∈ answer, offset m.stop

namespace Site.Upholds

/-- What an evaluation reaches, it reaches at certain offsets. -/
abbrev Reaches (inv : MatcherState → Prop) (offset : Int → Prop) (m : MatchM (Option Reached))
    : Prop :=
  Maintains inv m fun reached => ∀ r ∈ reached, offset r.stop

variable {site : Site} {inv : MatcherState → Prop} {offset : Int → Prop} {pos : Int}

theorem failed : Reaches inv offset (pure none) :=
  .pure (by simp)

theorem reached {r : Reached} (inside : offset r.stop) : Reaches inv offset (pure (some r)) :=
  .pure (by simpa using inside)

section Site

variable (upholds : site.Upholds inv offset)

include upholds

/-- In a quiet scope nothing is noted. -/
theorem quiet : site.quiet.Upholds inv offset where
  literal := upholds.literal
  next := upholds.next
  fresh := upholds.fresh
  expect := fun _ _ => .pure trivial
  expectGoal := fun _ _ => .pure trivial
  call := fun name _ inner here => upholds.call name (.inr (inner.elim id id)) here

theorem miss (what : Text) (here : offset pos) : Reaches inv offset (site.miss pos what) :=
  (upholds.expect what here).bind fun _ _ => failed

theorem anonymous (start stop : Int) (log : List Caught)
    : Maintains inv (Site.anonymous start stop log) fun _ => True :=
  upholds.fresh.bind fun _ _ => .pure trivial

theorem skipSpace (here : offset pos) : Maintains inv (site.skipSpace pos) offset := by
  refine .ite (fun _ => (upholds.call "ws" (.inr rfl) here).bind fun answer found => ?_)
    fun _ => .pure here
  cases answer with
  | none => exact .pure here
  | some m => exact .pure (found m rfl)

theorem itemStart (first : Bool) (here : offset pos)
    : Maintains inv (site.itemStart first pos) offset :=
  .ite (fun _ => .pure here) fun _ => upholds.skipSpace here

end Site

-----------------------------------------------------------------------------------------
-- Repetitions and goals
-----------------------------------------------------------------------------------------

section Loops

variable {body between : Int → MatchM (Option Reached)}
  {sep : Option (Int → MatchM (Option Reached))}

/-- Rounds stay among the offsets where their bodies and what stands between them do, by
induction on the bound.
-/
theorem repeatRounds (rule : Name) (min : Nat) (max : Option Nat)
    (bodies : ∀ {pos}, offset pos → Reaches inv offset (body pos))
    (gaps : ∀ {pos}, offset pos → Reaches inv offset (between pos)) (bound : Nat) {p : Progress}
    (here : offset p.stop)
    : Maintains inv (repeatRounds rule body between min max bound p) fun last =>
        offset last.stop := by
  induction bound generalizing p with
  | zero => exact .throw _
  | succ bound ih =>
      have gap : Reaches inv offset (gapBefore between p) :=
        .ite (fun _ => reached here) fun _ => gaps here
      refine .ite (fun _ => gap.bind fun gap left => ?_) fun _ => .pure here
      cases gap with
      | none => exact .pure here
      | some gap =>
          refine (bodies (left gap rfl)).bind fun r found => ?_
          cases r with
          | none => exact .pure here
          | some r =>
              have there : offset r.stop := found r rfl
              exact .ite (fun _ => .pure there) fun _ => ih there

variable (upholds : site.Upholds inv offset)

include upholds

theorem betweenRounds
    (separators : ∀ f ∈ sep, ∀ {pos}, offset pos → Reaches inv offset (f pos)) (here : offset pos)
    : Reaches inv offset (betweenRounds site sep pos) := by
  refine (upholds.skipSpace here).bind fun start left => ?_
  cases sep with
  | none => exact reached left
  | some separator =>
      refine (separators separator rfl left).bind fun r found => ?_
      cases r with
      | none => exact failed
      | some r => exact (upholds.skipSpace (found r rfl)).bind fun _ inside => reached inside

theorem trailingSeparator
    (separators : ∀ f ∈ sep, ∀ {pos}, offset pos → Reaches inv offset (f pos)) (trailing : Bool)
    {p : Progress} (here : offset p.stop)
    : Maintains inv (trailingSeparator site sep trailing p) fun last => offset last.stop := by
  cases sep with
  | none => exact .pure here
  | some separator =>
      refine .ite (fun _ => (upholds.skipSpace here).bind fun start left => ?_) fun _ => .pure here
      refine (separators separator rfl left).bind fun r found => ?_
      cases r with
      | none => exact .pure here
      | some r => exact .pure (found r rfl)

theorem evalRepetition (bodies : ∀ {pos}, offset pos → Reaches inv offset (body pos))
    (separators : ∀ f ∈ sep, ∀ {pos}, offset pos → Reaches inv offset (f pos)) (min : Nat)
    (max : Option Nat) (trailing : Bool) (names : List Name) (here : offset pos)
    : Reaches inv offset (evalRepetition site body sep min max trailing names pos) := by
  refine (repeatRounds site.rule.name min max bodies (upholds.betweenRounds separators) _
    here).bind fun p there => ?_
  refine (upholds.trailingSeparator separators trailing there).bind fun last behind => ?_
  exact .ite (fun _ => failed) fun _ => reached behind

theorem evalGoal {opener closer : Int → MatchM (Option Reached)}
    (openers : ∀ {pos}, offset pos → Reaches inv offset (opener pos))
    (closers : ∀ {pos}, offset pos → Reaches inv offset (closer pos))
    (bodies : ∀ {pos}, offset pos → Reaches inv offset (body pos)) (closerName : Text)
    (here : offset pos)
    : Reaches inv offset (evalGoal site opener closer body closerName pos) := by
  refine (openers here).bind fun o opened => ?_
  cases o with
  | none => exact failed
  | some o =>
      refine (upholds.skipSpace (opened o rfl)).bind fun inner left => ?_
      refine (bodies left).bind fun b filled => ?_
      cases b with
      | none => exact failed
      | some b =>
          refine (upholds.skipSpace (filled b rfl)).bind fun closing behind => ?_
          refine (closers behind).bind fun c closed => ?_
          cases c with
          | none => exact (upholds.expectGoal closerName behind).bind fun _ _ => failed
          | some c => exact reached (closed c rfl)

end Loops

-----------------------------------------------------------------------------------------
-- All expressions
-----------------------------------------------------------------------------------------

theorem charClass (upholds : site.Upholds inv offset) (cls : CharClass) (here : offset pos)
    : Reaches inv offset (eval site (.charClass cls) pos) := by
  simp only [eval]
  refine .ite (fun inside => ?_) fun _ => upholds.miss _ here
  cases cls.compile with
  | error fault => exact .throw _
  | ok holds =>
      cases site.subject.at? pos with
      | none => exact upholds.miss _ here
      | some c =>
          exact .ite (fun _ => reached (upholds.next here inside)) fun _ => upholds.miss _ here

theorem anchor (upholds : site.Upholds inv offset) (a : Anchor) (here : offset pos)
    : Reaches inv offset (eval site (.anchor a) pos) := by
  simp only [eval]
  cases a with
  | inputStart => exact .ite (fun _ => reached here) fun _ => upholds.miss _ here
  | inputEnd => exact .ite (fun _ => reached here) fun _ => upholds.miss _ here
  | other mark => exact upholds.miss _ here

theorem reference (upholds : site.Upholds inv offset) (name : Name) (capture : Option Name)
    (here : offset pos)
    : Reaches inv offset (eval site (.reference name capture) pos) := by
  simp only [eval]
  refine (upholds.call name (.inl rfl) here).bind fun answer found => ?_
  cases answer with
  | none => exact upholds.miss _ here
  | some m => exact reached (found m rfl)

theorem sym (upholds : site.Upholds inv offset) (here : offset pos)
    : Reaches inv offset (eval site .sym pos) := by
  simp only [eval]
  cases site.rule.tag with
  | none => exact .throw _
  | some tag =>
      refine .ite (fun holds => ?_) fun _ => upholds.miss _ here
      exact (upholds.anonymous _ _ _).bind fun _ _ => reached (upholds.literal here holds)

mutual

/-- Evaluation keeps up what the steps of its site do, by induction on the expression. -/
theorem eval {site : Site} (upholds : site.Upholds inv offset) (e : Expr) {pos : Int}
    (here : offset pos)
    : Reaches inv offset (RuleGrammar.eval site e pos) := by
  cases e with
  | literal text =>
      exact .ite (fun holds => reached (upholds.literal here holds)) fun _ => upholds.miss _ here
  | charClass cls => exact upholds.charClass cls here
  | anyChar =>
      exact .ite (fun inside => reached (upholds.next here inside)) fun _ => upholds.miss _ here
  | anchor a => exact upholds.anchor a here
  | reference rule capture => exact upholds.reference rule capture here
  | sym => exact upholds.sym here
  | lookahead body negated =>
      refine (eval upholds.quiet body here).bind fun found _ => ?_
      exact .ite (fun _ => reached here) fun _ => upholds.miss _ here
  | repetition body min max sep trailing =>
      refine upholds.evalRepetition (eval upholds body) (fun f found => ?_) min max trailing _ here
      cases sep with
      | none => cases found
      | some e =>
          cases found
          exact eval upholds e
  | sequence items => exact evalItems upholds true items here
  | choice alternatives => exact evalChoice upholds alternatives here
  | longest alternatives => exact evalLongest upholds alternatives (by simp) here
  | goal opener closer body =>
      exact upholds.evalGoal (eval upholds opener) (eval upholds closer) (eval upholds body) _ here
  | capture body name =>
      refine (eval upholds body here).bind fun r found => ?_
      cases r with
      | none => exact failed
      | some r => exact (upholds.anonymous _ _ _).bind fun _ _ => reached (found r rfl)

theorem evalItems {site : Site} (upholds : site.Upholds inv offset) (first : Bool)
    (items : List Expr) {pos : Int} (here : offset pos)
    : Reaches inv offset (RuleGrammar.evalItems site first items pos) := by
  cases items with
  | nil => exact reached here
  | cons e rest =>
      refine (upholds.itemStart first here).bind fun start left => ?_
      refine (eval upholds e left).bind fun r found => ?_
      cases r with
      | none => exact failed
      | some r =>
          refine (evalItems upholds false rest (found r rfl)).bind fun later foundLater => ?_
          cases later with
          | none => exact failed
          | some later => exact reached (foundLater later rfl)

theorem evalChoice {site : Site} (upholds : site.Upholds inv offset) (alternatives : List Expr)
    {pos : Int} (here : offset pos)
    : Reaches inv offset (RuleGrammar.evalChoice site alternatives pos) := by
  cases alternatives with
  | nil => exact failed
  | cons e rest =>
      refine (eval upholds e here).bind fun r found => ?_
      cases r with
      | none => exact evalChoice upholds rest here
      | some r => exact reached (found r rfl)

theorem evalLongest {site : Site} (upholds : site.Upholds inv offset) (alternatives : List Expr)
    {best : Option Reached} (bests : ∀ r ∈ best, offset r.stop) {pos : Int} (here : offset pos)
    : Reaches inv offset (RuleGrammar.evalLongest site alternatives best pos) := by
  cases alternatives with
  | nil => exact .pure bests
  | cons e rest =>
      refine (eval upholds e here).bind fun next found => ?_
      exact evalLongest upholds rest (Reached.forall_mem_further bests found) here

end

end Site.Upholds

-----------------------------------------------------------------------------------------
-- Applications of rules
-----------------------------------------------------------------------------------------

namespace MatchEnv

/-- A name is resolved to visible rules, if what is known stays as it is. -/
theorem maintains_resolveOnce {inv : MatcherState → Prop} {env : MatchEnv} (name : Name)
    (resolves : ∀ {s}, inv s → s.Resolves env.grammar)
    (kept
      : ∀ {s : MatcherState} {resolved},
          inv s
          → MatcherState.Resolves { s with resolved } env.grammar
          → inv { s with resolved })
    : Maintains inv (resolveOnce env name) fun entry =>
        ∀ rule ∈ entry.rules, rule ∈ env.grammar.visibleRules := by
  intro s before
  rcases resolveOnce_spec name (resolves before) with ⟨entry, _, found, ran, after⟩ | ⟨-, stopped⟩
  · refine .inl ⟨entry, _, ran, kept before after, fun rule member => ?_⟩
    exact Grammar.mem_visibleRules.mpr ⟨name, entry, found, member⟩
  · exact .inr ⟨_, s, stopped, before⟩

/-- An answer that a rule gives at an offset when its body is evaluated there, whatever is known
and in progress.
-/
def Evaluates (env : MatchEnv) (rule : Rule) (pos : Int) (answer : Option Match) : Prop :=
  ∃ room scope s t, answerRule env scope rule pos (callWithin env room) s = .ok answer t

/-- An invariant that the steps of a quiet matcher keep up at certain offsets, which they do not
leave, while it applies rules of a kind.
-/
structure QuietInvariant (env : MatchEnv) (inv : MatcherState → Prop) (offset : Int → Prop)
    (among : Rule → Prop) : Prop where
  literal : ∀ {text pos},
    offset pos → env.subject.holds text pos = true → offset (pos + text.length)
  next : ∀ {pos}, offset pos → pos < env.subject.size → offset (pos + 1)
  fresh : ∀ {s}, inv s → inv { s with nextId := s.nextId + 1 }
  trace : ∀ {s} line, inv s → inv { s with trace := line :: s.trace }
  resolve : ∀ name,
    Maintains inv (resolveOnce env name) fun entry => ∀ rule ∈ entry.rules, among rule
  known : ∀ {s rule pos answer},
    inv s
    → among rule
    → s.memo.find? ⟨rule.name, rule.tag, pos⟩ = some answer
    → ∀ m ∈ answer, offset m.stop

/-- An invariant that all steps of a matcher keep up: also notes, and answers that are kept. -/
structure Invariant (env : MatchEnv) (inv : MatcherState → Prop) (offset : Int → Prop)
    (among : Rule → Prop) : Prop extends env.QuietInvariant inv offset among where
  note : ∀ {s} {rule : Rule} (n : Furthest.Note),
    among rule
    → n.rule = some rule.qualified
    → offset n.pos
    → inv s
    → inv { s with furthest := s.furthest.note n }
  insert : ∀ {s} {rule : Rule} {pos} {answer : Option Match},
    among rule
    → offset pos
    → (∀ m ∈ answer, offset m.stop)
    → env.Evaluates rule pos answer
    → inv s
    → inv { s with memo := s.memo.insert ⟨rule.name, rule.tag, pos⟩ answer }

namespace QuietInvariant

variable {env : MatchEnv} {inv : MatcherState → Prop} {offset : Int → Prop} {among : Rule → Prop}
  {scope : Scope} {rule : Rule} {pos : Int}

/-- What an application answers, it answers at certain offsets. -/
abbrev Answers (inv : MatcherState → Prop) (offset : Int → Prop) (m : MatchM (Option Match))
    : Prop :=
  Maintains inv m fun answer => ∀ m ∈ answer, offset m.stop

theorem traceLine (quietly : env.QuietInvariant inv offset among) (line : Text)
    : Maintains inv (MatchM.traceLine line) fun _ => True :=
  .modify fun _ => quietly.trace line

/-- The steps of a rule's body keep up what those of the matcher do. -/
theorem upholds (quietly : env.QuietInvariant inv offset among)
    (loud : scope.quiet = false → env.Invariant inv offset among) (rule_among : among rule)
    {call : Scope → Name → Int → MatchM (Option Match)}
    (calls : ∀ {inner} name {pos}, (inner.quiet = false → scope.quiet = false) → offset pos →
      Answers inv offset (call inner name pos))
    (pos : Int)
    : (⟨env.subject, rule, scope.enter rule pos, call⟩ : Site).Upholds inv offset where
  literal := quietly.literal
  next := quietly.next
  fresh := fun s kept => .inl ⟨_, _, rfl, quietly.fresh kept, trivial⟩
  expect := fun what here => .ite (fun _ => .pure trivial) fun heard =>
    .modify fun s => (loud (Bool.eq_false_iff.mpr heard)).note (.text (some rule.qualified) _ what)
      rule_among rfl here
  expectGoal := fun what here => .ite (fun _ => .pure trivial) fun heard =>
    .modify fun s => (loud (Bool.eq_false_iff.mpr heard)).note (.goal (some rule.qualified) _ what)
      rule_among rfl here
  call := fun name _ inner here => by
    refine calls name (fun heard => ?_) here
    rcases inner with rfl | rfl
    · exact heard
    · cases heard

/-- The answer of a rule lies where its body comes to. -/
theorem answerRule (quietly : env.QuietInvariant inv offset among)
    (loud : scope.quiet = false → env.Invariant inv offset among) (rule_among : among rule)
    {call : Scope → Name → Int → MatchM (Option Match)}
    (calls : ∀ {inner} name {pos}, (inner.quiet = false → scope.quiet = false) → offset pos →
      Answers inv offset (call inner name pos))
    (here : offset pos)
    : Answers inv offset (answerRule env scope rule pos call) := by
  have traced (line : Text) : Maintains inv
      (if env.config.debug then MatchM.traceLine line else pure ()) fun _ => True :=
    .ite (fun _ => quietly.traceLine line) fun _ => .pure trivial
  refine (traced _).bind fun _ _ => ?_
  refine ((quietly.upholds loud rule_among calls pos).eval rule.expr here).bind
    fun reached found => ?_
  have made : Answers inv offset (ruleMatch rule pos reached) := by
    cases reached with
    | none => exact .pure (by simp)
    | some r =>
        have fresh : Maintains inv MatchM.freshId fun _ => True :=
          fun s kept => .inl ⟨_, _, rfl, quietly.fresh kept, trivial⟩
        refine fresh.bind fun id _ => .pure fun m member => ?_
        cases member
        exact found r rfl
  exact made.bind fun answer inside => (traced _).bind fun _ _ => .pure inside

/-- Behind a guard is what is known, or what is done where nothing is. -/
theorem guarded (quietly : env.QuietInvariant inv offset among) (rule_among : among rule)
    {fresh : MatchM (Option Match)} (new : Answers inv offset fresh)
    : Answers inv offset (guarded env scope rule pos fresh) := by
  have asked : Maintains inv (knownAnswer env ⟨rule.name, rule.tag, pos⟩) fun found =>
      ∀ answer ∈ found, ∀ m ∈ answer, offset m.stop := by
    refine .ite (fun _ => ?_) fun _ => .pure (by simp)
    exact fun s kept =>
      .inl ⟨_, s, rfl, kept, fun answer found => quietly.known kept rule_among found⟩
  refine asked.bind fun found each => ?_
  cases found with
  | some answer => exact .pure (each answer rfl)
  | none =>
      refine .ite (fun _ => .throw _) fun _ => ?_
      cases env.config.depthReached scope with
      | some limit => exact .throw _
      | none => exact new

/-- A name that is called stands for rules of the kind, each of which is applied. -/
theorem callName (quietly : env.QuietInvariant inv offset among)
    {apply : Rule → Int → MatchM (Option Match)}
    (applies : ∀ {rule}, among rule → Answers inv offset (apply rule pos)) (name : Name)
    : Answers inv offset (callName env apply name pos) := by
  refine (quietly.resolve name).bind fun entry among_rules => ?_
  cases entry with
  | rule rule => exact applies (among_rules rule (List.mem_singleton_self rule))
  | group group =>
      have dispatched (rules : List Rule) (each : ∀ rule ∈ rules, among rule) (best : Option Match)
          (bests : ∀ m ∈ best, offset m.stop)
          : Answers inv offset (dispatch apply pos rules best) := by
        induction rules generalizing best with
        | nil => exact .pure bests
        | cons rule rules ih =>
            obtain ⟨first, later⟩ := List.forall_mem_cons.mp each
            exact (applies first).bind fun next nexts =>
              ih later _ (Match.forall_mem_further bests nexts)
      exact dispatched group.alternatives among_rules none (by simp)

/-- Applying rules keeps up what the steps do, by induction on the room. Only where the matcher
is loud, it notes failures and keeps answers.
-/
theorem applyRule (quietly : env.QuietInvariant inv offset among) (room : Nat)
    (loud : scope.quiet = false → env.Invariant inv offset among) (rule_among : among rule)
    (here : offset pos)
    : Answers inv offset (applyRule env room scope rule pos) := by
  induction room generalizing scope rule pos with
  | zero => exact quietly.guarded rule_among (.throw _)
  | succ room ih =>
      refine quietly.guarded rule_among ?_
      have calls {inner : Scope} (name : Name) {pos : Int}
          (as_loud : inner.quiet = false → scope.quiet = false) (here : offset pos)
          : Answers inv offset (callWithin env room inner name pos) :=
        quietly.callName (fun also => ih (fun heard => loud (as_loud heard)) also here) name
      refine (quietly.answerRule loud rule_among calls here).ran.bind fun answer inside => ?_
      obtain ⟨stops, s, t, ran⟩ := inside
      have kept : Maintains inv (remember env scope ⟨rule.name, rule.tag, pos⟩ answer)
          fun _ => True := by
        refine .ite (fun kept => .modify fun _ => ?_) fun _ => .pure trivial
        have heard : scope.quiet = false := by simpa using (Bool.and_eq_true_iff.mp kept).2
        exact (loud heard).insert rule_among here stops ⟨room, scope, s, t, ran⟩
      exact kept.bind fun _ _ => .pure stops

end QuietInvariant

/-- Calls keep up what the steps of the matcher do. -/
theorem Invariant.call {env : MatchEnv} {inv : MatcherState → Prop} {offset : Int → Prop}
    {among : Rule → Prop} (invariant : env.Invariant inv offset among) (name : Name) {pos : Int}
    (here : offset pos)
    : Maintains inv (env.call name pos) fun answer => ∀ m ∈ answer, offset m.stop :=
  fun s kept => invariant.callName
    (fun among => invariant.applyRule (env.room s.resolved pos) (fun _ => invariant) among here)
    name s kept

end MatchEnv

end RuleGrammar
