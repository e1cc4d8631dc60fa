import RuleGrammar.Proofs.Grammar.Checked
import RuleGrammar.Proofs.Matcher.Ends
import RuleGrammar.Proofs.Matcher.Trials

/-! Evaluation is sound: what it gives can be derived, and the goals that it notes are missed where
it says. It never stops with a fault of the grammar if the grammar has none, though it may run out
of fuel.
-/

namespace RuleGrammar

/-- What is tried at a site, unless failures there are not noted. -/
abbrev Site.Tries (site : Site) (g : Grammar) (begins : Trial → Prop) (trial : Trial) : Prop :=
  site.scope.quiet = false → Tried g site.subject begins trial

/-- A site for which calls give what can be derived, and missed goals may be noted. -/
structure Site.Sound (site : Site) (g : Grammar) (terms : Terms) (begins : Trial → Prop)
    : Prop where
  call
    : ∀ scope name pos,
        (scope.quiet = false → Tried g site.subject begins (.call name pos))
        → terms.Stands g name
        → Ends g terms (site.call scope name pos) fun m =>
            Derives g site.subject (.call name pos (m.map Match.bare))
  goal
    : ∀ {pos what},
        site.scope.quiet = false
        → MissedGoal g site.subject begins site.rule pos what
        → ∀ {memo f},
            terms.keeps memo f
            → terms.keeps memo (f.note (.goal site.scope.innermost pos what))
  room : ∀ rule pos, terms.allowed (.outOfRoom rule pos)

/-- What evaluating an expression at a site gives, where it is tried, can be derived. -/
abbrev Site.Derived (site : Site) (g : Grammar) (terms : Terms) (begins : Trial → Prop) (e : Expr)
    : Prop :=
  ∀ pos,
    site.Tries g begins (.expr site.rule e pos)
    → Ends g terms (eval site e pos) fun r =>
        Derives g site.subject (.expr site.rule e pos (r.map Reached.bare))

theorem Site.Sound.quiet {site : Site} {g : Grammar} {terms : Terms} {begins : Trial → Prop}
    (sound : site.Sound g terms begins)
    : site.quiet.Sound g terms begins :=
  ⟨sound.call, nofun, sound.room⟩

/-- An expression of a rule is fit to be evaluated on terms: its classes compile, its names stand
for something and its rule has the tag that it asks for, or those may be faults.
-/
structure Expr.Fit (g : Grammar) (terms : Terms) (rule : Rule) (e : Expr) : Prop where
  names : ∀ {name capture}, (Expr.reference name capture).Part e → terms.Stands g name
  tags
    : Expr.sym.Part e
      → (∃ tag, rule.tag = some tag)
        ∨ terms.allowed (.grammar (.symOutsideAlternative rule.name))
  classes : ∀ {cls}, (Expr.charClass cls).Part e → ∃ holds, cls.compile = .ok holds

namespace Expr.Fit

variable {g : Grammar} {terms : Terms} {rule : Rule} {inner whole : Expr}

theorem part (fit : whole.Fit g terms rule) (inside : inner.Part whole)
    : inner.Fit g terms rule where
  names reference := fit.names (inside.trans reference)
  tags sym := fit.tags (inside.trans sym)
  classes cls := fit.classes (inside.trans cls)

theorem of_faultless (faultless : whole.Faultless g rule) : whole.Fit g terms rule where
  names reference := Or.inl (faultless.names reference)
  tags sym := Or.inl (faultless.tags sym)
  classes := faultless.classes

end Expr.Fit

namespace Site.Sound

variable {site : Site} {g : Grammar} {terms : Terms} {begins : Trial → Prop} {pos : Int}

theorem skipSpace (sound : site.Sound g terms begins)
    : Ends g terms (site.skipSpace pos) fun stop =>
        Derives g site.subject (.space site.rule pos stop) := by
  have call := Ends.skipSpace (fun answer => Derives g site.subject (.call "ws" pos answer))
    fun _ => sound.call site.quiet.scope "ws" pos nofun (Or.inl g.exists_lookup_ws)
  refine call.mono fun stop ended => ?_
  rcases ended with ⟨none, rfl⟩ | ⟨some, answer, called, rfl⟩
  · exact .spaceless none
  · exact .space some called

theorem itemStart (sound : site.Sound g terms begins) (first : Bool)
    : Ends g terms (site.itemStart first pos) fun stop =>
        Derives g site.subject (.start site.rule first pos stop) := by
  cases first with
  | true => exact .pure .startFirst
  | false => exact sound.skipSpace.mono fun _ space => .startLater space

/-- A separator ends well where white space leads from an offset. -/
abbrev Separates (site : Site) (g : Grammar) (terms : Terms) (sep : Option Expr) (pos : Int)
    : Prop :=
  ∀ e ∈ sep, ∀ start,
    Derives g site.subject (.space site.rule pos start)
    → Ends g terms (eval site e start) fun r =>
        Derives g site.subject (.expr site.rule e start (r.map Reached.bare))

/-- What stands before a round, derived where a separator is. -/
theorem gapBefore (sound : site.Sound g terms begins) (sep : Option Expr) (p : Progress)
    (separates : p.rounds ≠ 0 → Separates site g terms sep p.stop)
    : Ends g terms (gapBefore (betweenRounds site (evalOption site sep)) p) fun r =>
        Derives g site.subject (.gap site.rule sep p.bare (r.map Reached.bare)) := by
  unfold RuleGrammar.gapBefore
  by_cases first : p.rounds = 0
  · simp only [first, if_true]
    exact .pure (.gapFirst first)
  · simp only [first, if_false]
    have later : p.bare.rounds ≠ 0 := first
    refine sound.skipSpace.bind fun start space => ?_
    cases sep with
    | none => exact .pure (.gapPlain later space)
    | some e =>
        refine (separates first e rfl start space).bind fun r found => ?_
        cases r with
        | none => exact .pure (.gapMissed later space found)
        | some s =>
            refine sound.skipSpace.bind fun stop spaceAfter => .pure ?_
            exact .gapSeparated later space found spaceAfter

/-- The rounds of a repetition, derived where its body and its separator are. Induction on the
bound, which may be used up.
-/
theorem repeatRounds (sound : site.Sound g terms begins) (loop : Loop)
    (body : site.Derived g terms begins loop.body)
    (separator : ∀ e ∈ loop.sep, site.Derived g terms begins e) (bound : Nat) (p : Progress)
    (tries : site.Tries g begins (.rounds site.rule loop p.bare))
    : Ends g terms
        (repeatRounds site.rule.name (eval site loop.body)
          (betweenRounds site (evalOption site loop.sep)) loop.min loop.max bound p)
        fun last => Derives g site.subject (.rounds site.rule loop p.bare last.bare) := by
  induction bound generalizing p with
  | zero => exact .throw (sound.room _ _)
  | succ bound ih =>
      unfold RuleGrammar.repeatRounds
      by_cases below : belowMax loop.max p.rounds = true
      · simp only [below, if_true]
        have separates (later : p.rounds ≠ 0) : Separates site g terms loop.sep p.stop :=
          fun e member start space => separator e member start fun loud =>
            (tries loud).separator below member later space
        refine (sound.gapBefore loop.sep p separates).bind fun before gap => ?_
        cases before with
        | none => exact .pure (.roundsUnseparated below gap)
        | some before =>
            refine (body before.stop fun loud => ((tries loud).round below gap :)).bind
              fun r round => ?_
            cases r with
            | none => exact .pure (.roundsMissed below gap round)
            | some r =>
                have next := p.bare_round loop.max before r
                by_cases last : isLastRound loop.min (p.rounds + 1) p.stop r.stop = true
                · simp only [Progress.round, last, if_true]
                  refine .pure ?_
                  rw [show (⟨r.stop, p.rounds + 1, _⟩ : Progress) = p.round r.stop _ from rfl,
                    next]
                  exact .roundsLast below gap round last
                · simp only [Progress.round, last, if_false, Bool.false_eq_true]
                  have more := Bool.eq_false_iff.mpr last
                  refine (ih _ fun loud => ?_).mono fun final later => ?_
                  · have onward := (tries loud).roundsLater below gap round more
                    rw [← next] at onward
                    exact onward
                  · refine .roundsNext below gap round more ?_
                    rw [← next]
                    exact later
      · simp only [below, if_false, Bool.false_eq_true]
        exact .pure (.roundsFull (Bool.eq_false_iff.mpr below))

/-- What stands after the rounds, derived where a separator is. -/
theorem trailingSeparator (sound : site.Sound g terms begins) (sep : Option Expr)
    (trailing : Bool) (p : Progress)
    (separates : (trailing && p.rounds ≠ 0) = true → Separates site g terms sep p.stop)
    : Ends g terms (trailingSeparator site (evalOption site sep) trailing p) fun last =>
        Derives g site.subject (.trail site.rule sep trailing p.bare last.bare) := by
  cases sep with
  | none => exact .pure (.trailUntried (Or.inl rfl))
  | some e =>
      by_cases tried : (trailing && decide (p.rounds ≠ 0)) = true
      · have triedBare : (trailing && decide (p.bare.rounds ≠ 0)) = true := tried
        simp only [RuleGrammar.trailingSeparator, evalOption, tried, if_true]
        refine sound.skipSpace.bind fun start space => ?_
        refine (separates tried e rfl start space).bind fun r found => ?_
        cases r with
        | none => exact .pure (.trailMissed triedBare space found)
        | some s => exact .pure (.trailFound triedBare space found)
      · simp only [RuleGrammar.trailingSeparator, evalOption, tried, if_false,
          Bool.false_eq_true]
        exact .pure (.trailUntried (Or.inr (Bool.eq_false_iff.mpr tried)))

/-- A whole repetition, derived where its body and its separator are. -/
theorem repetition (sound : site.Sound g terms begins) {body : Expr} {sep : Option Expr}
    (bodies : site.Derived g terms begins body)
    (separators : ∀ e ∈ sep, site.Derived g terms begins e) (min : Nat) (max : Option Nat)
    (trailing : Bool)
    : site.Derived g terms begins (.repetition body min max sep trailing) := by
  intro pos tries
  simp only [eval, evalRepetition]
  refine (sound.repeatRounds ⟨body, min, max, sep⟩ bodies separators _ ⟨pos, 0, []⟩
    fun loud => (tries loud).rounds).bind fun p rounds => ?_
  have separates (after : (trailing && p.rounds ≠ 0) = true)
      : Separates site g terms sep p.stop := by
    intro e member start space
    subst member
    exact separators e rfl start fun loud => (tries loud).trailing rounds after space
  refine (sound.trailingSeparator sep trailing p separates).bind fun last trail => ?_
  have derived := Derives.repetition rounds trail
  by_cases few : p.rounds < min
  · simp only [few, if_true]
    simp only [Progress.bare_rounds, few, if_true] at derived
    exact .pure derived
  · simp only [few, if_false]
    simp only [Progress.bare_rounds, few, if_false, ← Progress.bare_finish] at derived
    exact .pure derived

/-- A goal, derived where its parts are. -/
theorem goalDerived (sound : site.Sound g terms begins) {opener closer body : Expr}
    (openers : site.Derived g terms begins opener) (bodies : site.Derived g terms begins body)
    (closers : site.Derived g terms begins closer)
    : site.Derived g terms begins (.goal opener closer body) := by
  intro pos tries
  simp only [eval, evalGoal]
  refine (openers pos fun loud => (tries loud).opener).bind fun o opened => ?_
  cases o with
  | none => exact .pure (.goalUnopened opened)
  | some o =>
      refine sound.skipSpace.bind fun start space => ?_
      refine (bodies start fun loud => (tries loud).goalBody opened space).bind
        fun b filled => ?_
      cases b with
      | none => exact .pure (.goalUnfilled opened space filled)
      | some b =>
          refine sound.skipSpace.bind fun closing spaceAfter => ?_
          refine (closers closing fun loud =>
            (tries loud).closer opened space filled spaceAfter).bind fun c closed => ?_
          have derived := Derives.goal opened space filled spaceAfter closed
          cases c with
          | none =>
              refine (Ends.expectGoal site.scope closing closer.describe fun loud => ?_).bind
                fun _ _ => .pure derived
              exact sound.goal loud (.intro (tries loud) opened space filled spaceAfter closed)
          | some c =>
              refine .pure ?_
              simpa only [Option.map_some, Reached.bare, logThrough, List.map_append,
                ← Coupling.logThrough_filter_named] using derived

end Site.Sound

-----------------------------------------------------------------------------------------
-- All expressions
-----------------------------------------------------------------------------------------

mutual

/-- What evaluation gives can be derived, if the expression is fit for that and calls give what can
be derived, by induction on the expression.
-/
theorem eval_derives {site : Site} {g : Grammar} {terms : Terms} {begins : Trial → Prop}
    (sound : site.Sound g terms begins) (e : Expr) (fit : e.Fit g terms site.rule)
    : site.Derived g terms begins e := by
  intro pos tries
  cases e with
  | literal text => exact (Ends.literal text).mono fun _ same => same ▸ .literal
  | charClass cls =>
      obtain ⟨holds, compiled⟩ := fit.classes .self
      exact (Ends.charClass compiled).mono fun _ same => same ▸ .charClass compiled
  | anyChar => exact Ends.anyChar.mono fun _ same => same ▸ .anyChar
  | anchor a => exact (Ends.anchor a).mono fun _ same => same ▸ .anchor
  | reference name capture =>
      have call := sound.call site.scope name pos (fun loud => (tries loud).called)
        (fit.names .self)
      refine (Ends.reference (fun answer => Derives g site.subject (.call name pos answer))
        capture call).mono fun r found => ?_
      obtain ⟨answer, called, same⟩ := found
      exact same ▸ .reference called
  | sym =>
      cases tagged : site.rule.tag with
      | none =>
          simp only [eval, tagged]
          refine .throw ((fit.tags .self).resolve_left fun ⟨tag, found⟩ => ?_)
          rw [tagged] at found
          cases found
      | some tag => exact (Ends.sym tagged).mono fun _ same => same ▸ .sym tagged
  | lookahead body negated =>
      have look := eval_derives sound.quiet body (fit.part (.lookahead .self))
      refine (Ends.lookahead
        (fun answer => Derives g site.subject (.expr site.rule body pos answer)) negated
        (look pos nofun)).mono fun r found => ?_
      obtain ⟨answer, looked, same⟩ := found
      exact same ▸ .lookahead looked
  | repetition body min max sep trailing =>
      have bodies := eval_derives sound body (fit.part (.repeated .self))
      refine sound.repetition bodies (fun e member => ?_) min max trailing pos tries
      cases sep with
      | none => cases member
      | some e =>
          cases member
          exact eval_derives sound e (fit.part (.separator .self))
  | sequence items =>
      simp only [eval]
      exact (evalItems_derives sound true items
        (fun e member => fit.part (.item member .self)) pos
        fun loud => (tries loud).sequence).mono fun _ each => .sequence each
  | choice alternatives =>
      simp only [eval]
      exact (evalChoice_derives sound alternatives
        (fun e member => fit.part (.choice member .self)) pos
        fun loud => (tries loud).choice).mono fun _ tried => .choice tried
  | longest alternatives =>
      simp only [eval]
      exact (evalLongest_derives sound alternatives
        (fun e member => fit.part (.longest member .self)) none pos
        fun e member loud => (tries loud).longest member).mono fun _ tried => .longest tried
  | goal opener closer body =>
      exact sound.goalDerived (eval_derives sound opener (fit.part (.opener .self)))
        (eval_derives sound body (fit.part (.goalBody .self)))
        (eval_derives sound closer (fit.part (.closer .self))) pos tries
  | capture body name =>
      have inner := eval_derives sound body (fit.part (.captured .self))
      refine (Ends.capture
        (fun answer => Derives g site.subject (.expr site.rule body pos answer)) name
        (inner pos fun loud => (tries loud).captured)).mono fun r found => ?_
      obtain ⟨answer, inner, same⟩ := found
      exact same ▸ .capture inner
termination_by sizeOf e

theorem evalItems_derives {site : Site} {g : Grammar} {terms : Terms} {begins : Trial → Prop}
    (sound : site.Sound g terms begins) (first : Bool) (items : List Expr)
    (fit : ∀ e ∈ items, e.Fit g terms site.rule) (pos : Int)
    (tries : site.Tries g begins (.items site.rule first items pos))
    : Ends g terms (evalItems site first items pos) fun r =>
        Derives g site.subject (.items site.rule first items pos (r.map Reached.bare)) := by
  cases items with
  | nil => exact .pure .itemsDone
  | cons e rest =>
      simp only [evalItems]
      refine (sound.itemStart first).bind fun start started => ?_
      refine (eval_derives sound e (fit e (by simp)) start
        fun loud => (tries loud).item started).bind fun r item => ?_
      cases r with
      | none => exact .pure (.itemsMissed started item)
      | some r =>
          refine (evalItems_derives sound false rest (fun e member => fit e (by simp [member]))
            r.stop fun loud => ((tries loud).itemsLater started item :)).bind fun l later => ?_
          have derived := Derives.itemsNext started item later
          cases l with
          | none => exact .pure derived
          | some l =>
              refine .pure ?_
              simpa only [Option.map_some, Reached.bare, logThrough, List.map_append]
                using derived
termination_by sizeOf items

theorem evalChoice_derives {site : Site} {g : Grammar} {terms : Terms} {begins : Trial → Prop}
    (sound : site.Sound g terms begins) (alternatives : List Expr)
    (fit : ∀ e ∈ alternatives, e.Fit g terms site.rule) (pos : Int)
    (tries : site.Tries g begins (.choice site.rule alternatives pos))
    : Ends g terms (evalChoice site alternatives pos) fun r =>
        Derives g site.subject (.choice site.rule alternatives pos (r.map Reached.bare)) := by
  cases alternatives with
  | nil => exact .pure .choiceNone
  | cons e rest =>
      simp only [evalChoice]
      refine (eval_derives sound e (fit e (by simp)) pos
        fun loud => (tries loud).alternative).bind fun r here => ?_
      cases r with
      | none =>
          exact (evalChoice_derives sound rest (fun e member => fit e (by simp [member])) pos
            fun loud => (tries loud).choiceLater here).mono fun _ later => .choiceLater here later
      | some r => exact .pure (.choiceHere here)
termination_by sizeOf alternatives

theorem evalLongest_derives {site : Site} {g : Grammar} {terms : Terms} {begins : Trial → Prop}
    (sound : site.Sound g terms begins) (alternatives : List Expr)
    (fit : ∀ e ∈ alternatives, e.Fit g terms site.rule) (best : Option Reached) (pos : Int)
    (tries : ∀ e ∈ alternatives, site.Tries g begins (.expr site.rule e pos))
    : Ends g terms (evalLongest site alternatives best pos) fun r =>
        Derives g site.subject (.longest site.rule alternatives (best.map Reached.bare) pos
          (r.map Reached.bare)) := by
  cases alternatives with
  | nil => exact .pure .longestDone
  | cons e rest =>
      simp only [evalLongest]
      refine (eval_derives sound e (fit e (by simp)) pos (tries e (by simp))).bind
        fun next here => ?_
      refine (evalLongest_derives sound rest (fun e member => fit e (by simp [member]))
        (furtherReached best next) pos fun e member => tries e (by simp [member])).mono
        fun r later => ?_
      rw [Reached.bare_further] at later
      exact .longestNext here later
termination_by sizeOf alternatives

end

-----------------------------------------------------------------------------------------
-- Calls
-----------------------------------------------------------------------------------------

variable {env : MatchEnv} {terms : Terms} {begins : Trial → Prop}

theorem dispatch_derives {apply : Rule → Int → MatchM (Option Match)} {pos : Int}
    (alternatives : List Rule) (best : Option Match)
    (applied
      : ∀ rule ∈ alternatives,
          Ends env.grammar terms (apply rule pos) fun m =>
            Derives env.grammar env.subject (.apply rule pos (m.map Match.bare)))
    : Ends env.grammar terms (dispatch apply pos alternatives best) fun m =>
        Derives env.grammar env.subject
          (.group alternatives (best.map Match.bare) pos (m.map Match.bare)) := by
  induction alternatives generalizing best with
  | nil => exact .pure .dispatchDone
  | cons rule rest ih =>
      refine (applied rule (by simp)).bind fun next here => ?_
      refine (ih (furtherMatch best next) fun other member => applied other (by simp [member])).mono
        fun m later => ?_
      rw [Match.bare_further] at later
      exact .dispatchNext here later

/-- What a call gives can be derived where the applications of visible rules can. -/
theorem callName_derives {apply : Rule → Int → MatchM (Option Match)} (scope : Scope)
    {name : Name} {pos : Int}
    (tried : scope.quiet = false → Tried env.grammar env.subject begins (.call name pos))
    (applied
      : ∀ rule ∈ env.grammar.visibleRules,
          (scope.quiet = false
            → Tried env.grammar env.subject begins (.expr rule rule.expr pos))
          → Ends env.grammar terms (apply rule pos) fun m =>
              Derives env.grammar env.subject (.apply rule pos (m.map Match.bare)))
    (stands : terms.Stands env.grammar name)
    : Ends env.grammar terms (callName env apply name pos) fun m =>
        Derives env.grammar env.subject (.call name pos (m.map Match.bare)) := by
  refine (Ends.resolveOnce stands).bind fun entry stands => ?_
  have each rule (member : rule ∈ entry.rules) := applied rule
    (Grammar.mem_visibleRules.mpr ⟨name, entry, stands, member⟩)
    fun loud => (tried loud).body stands member
  cases entry with
  | rule rule =>
      exact (each rule (by simp [Entry.rules])).mono fun _ applied => .callRule stands applied
  | group group =>
      exact (dispatch_derives group.alternatives none each).mono
        fun _ dispatched => .callGroup stands dispatched

/-- What a rule that is fit gives can be derived where its calls can. -/
theorem answerRule_derives {scope : Scope} {rule : Rule} {pos : Int}
    {call : Scope → Name → Int → MatchM (Option Match)}
    (sound
      : Site.Sound ⟨env.subject, rule, scope.enter rule pos, call⟩ env.grammar terms begins)
    (fit : rule.expr.Fit env.grammar terms rule)
    (tried
      : scope.quiet = false
        → Tried env.grammar env.subject begins (.expr rule rule.expr pos))
    : Ends env.grammar terms (answerRule env scope rule pos call) fun m =>
        Derives env.grammar env.subject (.apply rule pos (m.map Match.bare)) := by
  unfold answerRule
  refine (Ends.traceStart env scope rule pos).bind fun _ _ => ?_
  refine (eval_derives sound rule.expr fit pos tried).bind fun reached body => ?_
  refine (Ends.ruleMatch rule pos reached).bind fun m same => ?_
  refine (Ends.traceEnd env scope rule pos m).bind fun _ _ => .pure ?_
  rw [same]
  exact .apply body

/-- Terms on which evaluation may run out of fuel. -/
abbrev Terms.fueled : Terms :=
  .free fun fault => fault.isOutOfRoom = true

/-- What a rule without fault gives can be derived, by induction on the fuel. -/
theorem unguarded_derives (faultless : env.grammar.Faultless) (fuel : Nat) (scope : Scope)
    {rule : Rule} (visible : rule ∈ env.grammar.visibleRules) (pos : Int)
    : Ends env.grammar .fueled (unguarded env fuel scope rule pos) fun m =>
        Derives env.grammar env.subject (.apply rule pos (m.map Match.bare)) := by
  induction fuel generalizing scope rule pos with
  | zero => exact .throw rfl
  | succ fuel ih =>
      refine answerRule_derives ?_ (.of_faultless (faultless rule visible)) fun _ => .anything _
      exact {
        call := fun inner _ q tried =>
          callName_derives inner tried fun _ visible _ => ih inner visible q
        goal := fun _ _ _ _ _ => trivial
        room := fun _ _ => rfl
      }

/-- What a call gives can be derived, if the rules are without fault. -/
theorem unguardedCall_derives (faultless : env.grammar.Faultless) (fuel : Nat) {name : Name}
    (stands : ∃ entry, env.grammar.lookup name = some entry) (pos : Int)
    : Ends env.grammar .fueled (callName env (unguarded env fuel {}) name pos) fun m =>
        Derives env.grammar env.subject (.call name pos (m.map Match.bare)) :=
  callName_derives {} (fun _ => .anything _)
    (fun _ visible _ => unguarded_derives faultless fuel {} visible pos) (Or.inl stands)

end RuleGrammar
