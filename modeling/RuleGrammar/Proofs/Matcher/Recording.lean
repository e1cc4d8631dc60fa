import RuleGrammar.Proofs.Matcher.Derivation
import RuleGrammar.Proofs.Matcher.History

/-! Evaluation extends the history of a match: from an offset inside the subject, whatever an
expression reaches is inside it too, and its captures are nodes of the history in order.
-/

namespace RuleGrammar

-----------------------------------------------------------------------------------------
-- Sites that extend a history
-----------------------------------------------------------------------------------------

/-- A site whose calls answer with nodes of the history that start where they are called. -/
structure Site.Records (site : Site) : Prop where
  call
    : ∀ scope name nodes pos,
        site.subject.Inside pos
        → Grows site.subject.size nodes (site.call scope name pos) fun later answer =>
            ∀ m ∈ answer, m.From site.subject.size later pos

/-- Whatever a computation reaches from an offset, it reaches by captures of the history. -/
abbrev Site.Reaches (site : Site) (nodes : List Match) (pos : Int)
    (m : MatchM (Option Reached)) : Prop :=
  Grows site.subject.size nodes m fun later reached =>
    ∀ r ∈ reached, r.From site.subject.size later pos

/-- What a function of the offset reaches, it reaches by captures of the history. -/
abbrev Site.Recorded (site : Site) (f : Int → MatchM (Option Reached)) : Prop :=
  ∀ nodes pos, site.subject.Inside pos → site.Reaches nodes pos (f pos)

theorem Reached.From.inside_stop {subject : Subject} {nodes : List Match} {pos : Int}
    {r : Reached} (reached : r.From subject.size nodes pos) (inside : subject.Inside pos)
    : subject.Inside r.stop :=
  ⟨Int.le_trans inside.1 reached.ahead, reached.inside⟩

/-- How far a repetition has come is reached by the captures of its rounds. -/
def Progress.From (p : Progress) (size : Int) (nodes : List Match) (pos : Int) : Prop :=
  Reached.From ⟨p.stop, p.log⟩ size nodes pos

/-- A round that is reached from where a repetition has come brings it further. -/
theorem Progress.From.round {p : Progress} {size pos : Int} {nodes : List Match}
    {before r : Reached} (come : p.From size nodes pos)
    (gap : before.From size nodes p.stop) (body : r.From size nodes before.stop)
    (max : Option Nat)
    : (p.round r.stop (roundLog max (before.caught ++ r.caught))).From size nodes pos := by
  have further := gap.append body
  have listed : Reached.From ⟨r.stop, roundLog max (before.caught ++ r.caught)⟩ size nodes
      p.stop :=
    ⟨further.order.roundLog max, further.inside, by
      rw [logNodes_roundLog]
      exact further.known⟩
  unfold Progress.From
  rw [Progress.log_round]
  exact Reached.From.append (r := ⟨p.stop, p.log⟩) come listed

namespace Site

variable {site : Site} {nodes : List Match} {pos : Int}

theorem Records.quiet (records : site.Records) : site.quiet.Records :=
  ⟨records.call⟩

theorem reaches_none : site.Reaches nodes pos (pure none) :=
  .pure (by simp)

theorem reaches_miss (at_ : Int) (what : Text) : site.Reaches nodes pos (site.miss at_ what) :=
  (Grows.expect site.scope at_ what).bind fun _ _ _ _ => reaches_none

/-- An offset reached without captures. -/
theorem reaches_bare {stop : Int} (ahead : pos ≤ stop) (inside : stop ≤ site.subject.size)
    : site.Reaches nodes pos (pure (some ⟨stop, []⟩)) := by
  refine .pure fun r found => ?_
  cases found
  exact .bare ahead inside

namespace Records

/-- White space ends inside the subject, at or after where it starts. -/
theorem skipSpace (records : site.Records) (nodes : List Match)
    (inside : site.subject.Inside pos)
    : Grows site.subject.size nodes (site.skipSpace pos) fun _ stop =>
        pos ≤ stop ∧ site.subject.Inside stop := by
  unfold Site.skipSpace
  split
  · refine (records.call site.quiet.scope "ws" nodes pos inside).bind fun _ answer _ found => ?_
    cases answer with
    | none => exact .pure ⟨Int.le_refl _, inside⟩
    | some m =>
        have found := found m rfl
        exact .pure ⟨found.ahead, Int.le_trans inside.1 found.ahead, found.inside⟩
  · exact .pure ⟨Int.le_refl _, inside⟩

theorem itemStart (records : site.Records) (nodes : List Match) (first : Bool)
    (inside : site.subject.Inside pos)
    : Grows site.subject.size nodes (site.itemStart first pos) fun _ stop =>
        pos ≤ stop ∧ site.subject.Inside stop := by
  cases first with
  | true => exact .pure ⟨Int.le_refl _, inside⟩
  | false => exact records.skipSpace nodes inside

-----------------------------------------------------------------------------------------
-- Repetitions and goals
-----------------------------------------------------------------------------------------

/-- What stands before a round is reached from where the last one ended. -/
theorem gapBefore (records : site.Records) {sep : Option (Int → MatchM (Option Reached))}
    (separators : ∀ f ∈ sep, site.Recorded f) (nodes : List Match) (p : Progress)
    (inside : site.subject.Inside p.stop)
    : site.Reaches nodes p.stop (gapBefore (betweenRounds site sep) p) := by
  unfold RuleGrammar.gapBefore
  split
  · exact reaches_bare (Int.le_refl _) inside.2
  · refine (records.skipSpace nodes inside).bind fun _ start _ space => ?_
    cases sep with
    | none => exact reaches_bare space.1 space.2.2
    | some separator =>
        refine (separators separator rfl _ start space.2).bind fun later s _ found => ?_
        cases s with
        | none => exact reaches_none
        | some s =>
            have reached := found s rfl
            refine (records.skipSpace later (reached.inside_stop space.2)).bind
              fun last stop more after => .pure fun r same => ?_
            cases same
            have further : Reached.From ⟨stop, []⟩ site.subject.size last s.stop :=
              .bare after.1 after.2.2
            simpa using ((reached.mono more).append further).earlier space.1

/-- The rounds of a repetition add their captures one after the other. Induction on the bound. -/
theorem repeatRounds (records : site.Records) {body : Int → MatchM (Option Reached)}
    (bodies : site.Recorded body) {sep : Option (Int → MatchM (Option Reached))}
    (separators : ∀ f ∈ sep, site.Recorded f) (rule : Name) (min : Nat) (max : Option Nat)
    (bound : Nat) (nodes : List Match) (p : Progress) (inside : site.subject.Inside pos)
    (come : p.From site.subject.size nodes pos)
    : Grows site.subject.size nodes
        (repeatRounds rule body (betweenRounds site sep) min max bound p)
        fun later last => last.From site.subject.size later pos := by
  induction bound generalizing nodes p with
  | zero => exact .throw _
  | succ bound ih =>
      have insideStop : site.subject.Inside p.stop := come.inside_stop inside
      unfold RuleGrammar.repeatRounds
      split
      · refine (records.gapBefore separators nodes p insideStop).bind
          fun first gap moreGap gapFound => ?_
        cases gap with
        | none => exact .pure (come.mono moreGap)
        | some gap =>
            have reachedGap := gapFound gap rfl
            refine (bodies first gap.stop (reachedGap.inside_stop insideStop)).bind
              fun later r moreBody bodyFound => ?_
            cases r with
            | none => exact .pure (come.mono (List.Subset.trans moreGap moreBody))
            | some r =>
                have next := Progress.From.round (come.mono (List.Subset.trans moreGap moreBody))
                  (reachedGap.mono moreBody) (bodyFound r rfl) max
                dsimp only
                split
                · exact .pure next
                · exact ih later _ next
      · exact .pure come

/-- A separator after the rounds is reached from where they ended. -/
theorem trailingSeparator (records : site.Records)
    {sep : Option (Int → MatchM (Option Reached))}
    (separators : ∀ f ∈ sep, site.Recorded f) (trailing : Bool) (nodes : List Match)
    (p : Progress) (inside : site.subject.Inside p.stop)
    : Grows site.subject.size nodes (trailingSeparator site sep trailing p) fun later last =>
        last.From site.subject.size later p.stop := by
  have untried : Grows site.subject.size nodes (pure ⟨p.stop, []⟩ : MatchM Reached)
      fun later last => last.From site.subject.size later p.stop :=
    .pure (.bare (Int.le_refl _) inside.2)
  unfold RuleGrammar.trailingSeparator
  cases sep with
  | none => exact untried
  | some separator =>
      dsimp only
      split
      · refine (records.skipSpace nodes inside).bind fun _ start _ space => ?_
        refine (separators separator rfl _ start space.2).bind fun later s _ found => ?_
        cases s with
        | none => exact .pure (.bare (Int.le_refl _) inside.2)
        | some s => exact .pure ((found s rfl).earlier space.1)
      · exact untried

/-- A repetition captures what its rounds and its last separator do, in order. -/
theorem repetition (records : site.Records) {body : Int → MatchM (Option Reached)}
    (bodies : site.Recorded body) {sep : Option (Int → MatchM (Option Reached))}
    (separators : ∀ f ∈ sep, site.Recorded f) (min : Nat) (max : Option Nat) (trailing : Bool)
    (names : List Name) (inside : site.subject.Inside pos)
    : site.Reaches nodes pos (evalRepetition site body sep min max trailing names pos) := by
  unfold evalRepetition
  have start : Progress.From ⟨pos, 0, []⟩ site.subject.size nodes pos :=
    .bare (Int.le_refl _) inside.2
  refine (records.repeatRounds bodies separators _ min max _ nodes _ inside start).bind
    fun rounds p _ come => ?_
  refine (records.trailingSeparator separators trailing rounds p
    (come.inside_stop inside)).bind fun later last more trail => ?_
  split
  · exact reaches_none
  · refine .pure fun r same => ?_
    cases same
    have whole := Reached.From.append (r := ⟨p.stop, p.log⟩) (come.mono more) trail
    refine ⟨whole.order.append ?_, whole.inside, ?_⟩
    · split
      · exact .marks (Int.le_refl _) names
      · exact .nil (Int.le_refl _)
    · rw [logNodes, List.filterMap_append]
      refine List.append_subset.mpr ⟨whole.known, ?_⟩
      split
      · rw [← logNodes, logNodes_marks]
        exact List.nil_subset _
      · exact List.nil_subset _

/-- A goal captures what its opener, its body and the names of its closer do, in order. -/
theorem goal (records : site.Records) {opener closer body : Int → MatchM (Option Reached)}
    (openers : site.Recorded opener) (bodies : site.Recorded body)
    (closers : site.Recorded closer) (closerName : Text) (inside : site.subject.Inside pos)
    : site.Reaches nodes pos (evalGoal site opener closer body closerName pos) := by
  unfold evalGoal
  refine (openers nodes pos inside).bind fun opened o _ foundOpener => ?_
  cases o with
  | none => exact reaches_none
  | some o =>
      have first := foundOpener o rfl
      refine (records.skipSpace opened (first.inside_stop inside)).bind
        fun spaced start moreSpace space => ?_
      refine (bodies spaced start space.2).bind fun filled b moreBody foundBody => ?_
      cases b with
      | none => exact reaches_none
      | some b =>
          have second := (foundBody b rfl).earlier space.1
          have both := (first.mono (List.Subset.trans moreSpace moreBody)).append second
          refine (records.skipSpace filled (both.inside_stop inside)).bind
            fun closing stop moreSpace spaceAfter => ?_
          refine (closers closing stop spaceAfter.2).bind
            fun closed c moreCloser foundCloser => ?_
          cases c with
          | none =>
              exact (Grows.expectGoal site.scope stop closerName).bind
                fun _ _ _ _ => reaches_none
          | some c =>
              have third := ((foundCloser c rfl).earlier spaceAfter.1).filter
                fun entry => entry.name.isSome
              refine .pure fun r same => ?_
              cases same
              exact (both.mono (List.Subset.trans moreSpace moreCloser)).append third

end Records

-----------------------------------------------------------------------------------------
-- Expressions
-----------------------------------------------------------------------------------------

theorem recorded_literal (site : Site) (text : Text)
    : site.Recorded (eval site (.literal text)) := by
  intro nodes pos inside
  simp only [eval]
  split
  · rename_i holds
    have ahead := Subject.ahead_of_holds holds
    exact reaches_bare ahead.1 (ahead.le_size inside.2)
  · exact reaches_miss _ _

theorem recorded_charClass (site : Site) (cls : CharClass)
    : site.Recorded (eval site (.charClass cls)) := by
  intro nodes pos inside
  simp only [eval]
  split
  · rename_i within
    cases cls.compile with
    | error fault => exact .throw _
    | ok holds =>
        cases site.subject.at? pos with
        | none => exact reaches_miss _ _
        | some c =>
            dsimp only
            split
            · exact reaches_bare (by omega) (by omega)
            · exact reaches_miss _ _
  · exact reaches_miss _ _

theorem recorded_anyChar (site : Site) : site.Recorded (eval site .anyChar) := by
  intro nodes pos inside
  simp only [eval]
  split
  · exact reaches_bare (by omega) (by omega)
  · exact reaches_miss _ _

theorem recorded_anchor (site : Site) (a : Anchor) : site.Recorded (eval site (.anchor a)) := by
  intro nodes pos inside
  have stays : site.Reaches nodes pos (pure (some ⟨pos, []⟩)) :=
    reaches_bare (Int.le_refl _) inside.2
  simp only [eval]
  cases a with
  | inputStart =>
      dsimp only
      split
      · exact stays
      · exact reaches_miss _ _
  | inputEnd =>
      dsimp only
      split
      · exact stays
      · exact reaches_miss _ _
  | other mark => exact reaches_miss _ _

theorem recorded_reference (records : site.Records) (name : Name) (capture : Option Name)
    : site.Recorded (eval site (.reference name capture)) := by
  intro nodes pos inside
  simp only [eval]
  refine (records.call site.scope name nodes pos inside).bind fun later answer _ found => ?_
  cases answer with
  | none => exact reaches_miss _ _
  | some m =>
      have found := found m rfl
      refine .pure fun r same => ?_
      cases same
      cases capture with
      | none => exact .bare found.ahead found.inside
      | some key =>
          unfold Expr.capturing
          dsimp only
          split
          · exact .bare found.ahead found.inside
          · exact .single found rfl _ _

theorem recorded_sym (site : Site) : site.Recorded (eval site .sym) := by
  intro nodes pos inside
  simp only [eval]
  cases site.rule.tag with
  | none => exact .throw _
  | some tag =>
      dsimp only
      split
      · rename_i holds
        have ahead := Subject.ahead_of_holds holds
        have insideStop := ahead.le_size inside.2
        have made : Grows site.subject.size nodes (Site.anonymous pos (pos + tag.length) [])
            fun later m => m ∈ later ∧ m.start = pos ∧ m.stop = pos + tag.length :=
          .make [] none ⟨inside.1, insideStop⟩ (.nil ahead.1) (List.nil_subset _)
        refine made.bind fun later m _ found => .pure fun r same => ?_
        cases same
        obtain ⟨member, starts, stops⟩ := found
        exact .single ⟨member, starts, stops ▸ ahead.1, stops ▸ insideStop⟩ stops _ _
      · exact reaches_miss _ _

theorem recorded_lookahead {body : Expr} (negated : Bool)
    (look : site.quiet.Recorded (eval site.quiet body))
    : site.Recorded (eval site (.lookahead body negated)) := by
  intro nodes pos inside
  simp only [eval]
  refine (look nodes pos inside).bind fun later found _ _ => ?_
  change site.Reaches later pos _
  split
  · exact reaches_bare (Int.le_refl _) inside.2
  · exact reaches_miss _ _

theorem recorded_capture {body : Expr} (name : Option Name)
    (inner : site.Recorded (eval site body))
    : site.Recorded (eval site (.capture body name)) := by
  intro nodes pos inside
  simp only [eval]
  refine (inner nodes pos inside).bind fun later r _ found => ?_
  cases r with
  | none => exact reaches_none
  | some r =>
      have reached := found r rfl
      have made : Grows site.subject.size later (Site.anonymous pos r.stop r.caught)
          fun last m => m ∈ last ∧ m.start = pos ∧ m.stop = r.stop :=
        .make [] none ⟨inside.1, reached.inside⟩ reached.order reached.known
      refine made.bind fun last m _ found => .pure fun x same => ?_
      cases same
      obtain ⟨member, starts, stops⟩ := found
      exact .single ⟨member, starts, stops ▸ reached.ahead, stops ▸ reached.inside⟩ stops _ _

mutual

/-- What an expression reaches, it reaches by captures of the history, by induction on the
expression.
-/
theorem recorded_eval {site : Site} (records : site.Records) (e : Expr)
    : site.Recorded (eval site e) := by
  cases e with
  | literal text => exact recorded_literal site text
  | charClass cls => exact recorded_charClass site cls
  | anyChar => exact recorded_anyChar site
  | anchor a => exact recorded_anchor site a
  | reference name capture => exact recorded_reference records name capture
  | sym => exact recorded_sym site
  | lookahead body negated => exact recorded_lookahead negated (recorded_eval records.quiet body)
  | repetition body min max sep trailing =>
      intro nodes pos inside
      simp only [eval]
      refine records.repetition (recorded_eval records body) (fun f found => ?_) min max trailing
        _ inside
      cases sep with
      | none => cases found
      | some e =>
          cases found
          exact recorded_eval records e
  | sequence items =>
      intro nodes pos inside
      simp only [eval]
      exact recorded_evalItems records true items nodes pos inside
  | choice alternatives =>
      intro nodes pos inside
      simp only [eval]
      exact recorded_evalChoice records alternatives nodes pos inside
  | longest alternatives =>
      intro nodes pos inside
      simp only [eval]
      exact recorded_evalLongest records alternatives none nodes pos inside (by simp)
  | goal opener closer body =>
      intro nodes pos inside
      simp only [eval]
      exact records.goal (recorded_eval records opener) (recorded_eval records body)
        (recorded_eval records closer) _ inside
  | capture body name => exact recorded_capture name (recorded_eval records body)
termination_by sizeOf e

theorem recorded_evalItems {site : Site} (records : site.Records) (first : Bool)
    (items : List Expr)
    : site.Recorded (evalItems site first items) := by
  intro nodes pos inside
  cases items with
  | nil => exact reaches_bare (Int.le_refl _) inside.2
  | cons e rest =>
      simp only [evalItems]
      refine (records.itemStart nodes first inside).bind fun spaced start _ space => ?_
      refine (recorded_eval records e spaced start space.2).bind fun later r _ found => ?_
      cases r with
      | none => exact reaches_none
      | some r =>
          have reached := (found r rfl).earlier space.1
          refine (recorded_evalItems records false rest later r.stop
            (reached.inside_stop inside)).bind fun last l more foundLater => ?_
          cases l with
          | none => exact reaches_none
          | some l =>
              refine .pure fun x same => ?_
              cases same
              exact (reached.mono more).append (foundLater l rfl)
termination_by sizeOf items

theorem recorded_evalChoice {site : Site} (records : site.Records) (alternatives : List Expr)
    : site.Recorded (evalChoice site alternatives) := by
  intro nodes pos inside
  cases alternatives with
  | nil => exact reaches_none
  | cons e rest =>
      simp only [evalChoice]
      refine (recorded_eval records e nodes pos inside).bind fun later r _ found => ?_
      cases r with
      | none => exact recorded_evalChoice records rest later pos inside
      | some r => exact .pure found
termination_by sizeOf alternatives

theorem recorded_evalLongest {site : Site} (records : site.Records)
    (alternatives : List Expr) (best : Option Reached) (nodes : List Match) (pos : Int)
    (inside : site.subject.Inside pos)
    (bests : ∀ r ∈ best, r.From site.subject.size nodes pos)
    : site.Reaches nodes pos (evalLongest site alternatives best pos) := by
  cases alternatives with
  | nil => exact .pure bests
  | cons e rest =>
      simp only [evalLongest]
      refine (recorded_eval records e nodes pos inside).bind fun later next more found => ?_
      exact recorded_evalLongest records rest _ later pos inside
        (Reached.forall_mem_further (fun r member => (bests r member).mono more) found)
termination_by sizeOf alternatives

end

end Site

-----------------------------------------------------------------------------------------
-- Calls
-----------------------------------------------------------------------------------------

/-- An answer that consists of a node of the history starting at an offset, if any. -/
abbrev AnswersFrom (size : Int) (pos : Int) (nodes : List Match) (m : MatchM (Option Match))
    : Prop :=
  Grows size nodes m fun later answer => ∀ m ∈ answer, m.From size later pos

theorem Match.From.mono {m : Match} {size pos : Int} {nodes later : List Match}
    (found : m.From size nodes pos) (more : nodes ⊆ later)
    : m.From size later pos :=
  ⟨more found.member, found.start, found.ahead, found.inside⟩

namespace AnswersFrom

variable {env : MatchEnv} {size pos : Int} {nodes : List Match}

theorem dispatch {apply : Rule → Int → MatchM (Option Match)} (alternatives : List Rule)
    (best : Option Match) (bests : ∀ m ∈ best, m.From size nodes pos)
    (applied : ∀ rule nodes, AnswersFrom size pos nodes (apply rule pos))
    : AnswersFrom size pos nodes (dispatch apply pos alternatives best) := by
  induction alternatives generalizing nodes best with
  | nil => exact .pure bests
  | cons rule rest ih =>
      refine (applied rule nodes).bind fun later next more found => ?_
      exact ih _ (Match.forall_mem_further (fun m member => (bests m member).mono more) found)

theorem callName {apply : Rule → Int → MatchM (Option Match)} (name : Name)
    (applied : ∀ rule nodes, AnswersFrom size pos nodes (apply rule pos))
    : AnswersFrom size pos nodes (callName env apply name pos) := by
  refine (Grows.resolveOnce env name).bind fun later entry _ _ => ?_
  cases entry with
  | rule rule => exact applied rule later
  | group group => exact dispatch group.alternatives none (by simp) applied

/-- A guard lets an evaluation through or gives an answer that is known, which is a node of the
history.
-/
theorem guarded {scope : Scope} {rule : Rule} {fresh : MatchM (Option Match)}
    (evaluated : ∀ nodes, AnswersFrom size pos nodes fresh)
    : AnswersFrom size pos nodes (guarded env scope rule pos fresh) := by
  have known : Grows size nodes (knownAnswer env ⟨rule.name, rule.tag, pos⟩)
      fun later found => ∀ answer ∈ found, ∀ m ∈ answer, m.From size later pos := by
    intro s made found t ran
    unfold knownAnswer at ran
    split at ran
    · cases ran
      refine ⟨nodes, List.Subset.refl nodes, made, fun answer isKnown m isMatch => ?_⟩
      cases isMatch
      obtain ⟨member, starts⟩ := made.known _ m isKnown
      exact made.history.from member starts
    · cases ran
      exact ⟨nodes, List.Subset.refl nodes, made, by simp⟩
  refine known.bind fun later found _ answers => ?_
  cases found with
  | some answer => exact .pure (answers answer rfl)
  | none =>
      dsimp only
      split
      · exact .throw _
      · cases env.config.depthReached scope with
        | some limit => exact .throw _
        | none => exact evaluated later

/-- An answer that is kept is a node of the history, by cases on the key that is asked for. -/
theorem remember {scope : Scope} {rule : Rule} {answer : Option Match}
    (found : ∀ m ∈ answer, m.From size nodes pos)
    : Grows size nodes (remember env scope ⟨rule.name, rule.tag, pos⟩ answer)
        fun _ _ => True := by
  intro s made a t ran
  unfold RuleGrammar.remember at ran
  split at ran
  · cases ran
    refine ⟨nodes, List.Subset.refl nodes, ⟨made.history, made.counted, ?_⟩, trivial⟩
    intro key m known
    rcases Memo.find?_insert_cases known with ⟨rfl, same⟩ | before
    · have found := found m same.symm
      exact ⟨found.member, found.start⟩
    · exact made.known key m before
  · cases ran
    exact ⟨nodes, List.Subset.refl nodes, made, trivial⟩

/-- What a rule answers is the node that it makes of what its body reaches. -/
theorem evaluateRule {scope : Scope} {rule : Rule}
    {call : Scope → Name → Int → MatchM (Option Match)} (inside : env.subject.Inside pos)
    (calls
      : ∀ inner name nodes q,
          env.subject.Inside q
          → AnswersFrom env.subject.size q nodes (call inner name q))
    : AnswersFrom env.subject.size pos nodes (evaluateRule env scope rule pos call) := by
  have records : Site.Records ⟨env.subject, rule, scope.enter rule pos, call⟩ := ⟨calls⟩
  have answered : AnswersFrom env.subject.size pos nodes (answerRule env scope rule pos call) := by
    unfold answerRule
    refine (Grows.traceStart env scope rule pos).bind fun started _ _ _ => ?_
    refine (Site.recorded_eval records rule.expr started pos inside).bind
      fun later reached _ found => ?_
    have made : AnswersFrom env.subject.size pos later (ruleMatch rule pos reached) := by
      cases reached with
      | none => exact .pure (by simp)
      | some r =>
          have reached := found r rfl
          have node := Grows.make rule.name rule.tag ⟨inside.1, reached.inside⟩ reached.order
            reached.known
          refine node.bind fun last m _ found => .pure fun n same => ?_
          cases same
          obtain ⟨member, starts, stops⟩ := found
          exact ⟨member, starts, stops ▸ reached.ahead, stops ▸ reached.inside⟩
    refine made.bind fun last answer _ found => ?_
    refine (Grows.traceEnd env scope rule pos answer).bind fun _ _ more _ => .pure ?_
    exact fun m member => (found m member).mono more
  refine answered.bind fun later answer _ found => ?_
  refine (remember found).bind fun last _ more _ => .pure ?_
  exact fun m member => (found m member).mono more

/-- A rule applied inside the subject answers with a node of the history, by induction on the
room.
-/
theorem applyRule (room : Nat) (scope : Scope) (rule : Rule) (inside : env.subject.Inside pos)
    : AnswersFrom env.subject.size pos nodes (applyRule env room scope rule pos) := by
  induction room generalizing scope rule pos nodes with
  | zero => exact guarded fun _ => .throw _
  | succ room ih =>
      refine guarded fun nodes => evaluateRule inside fun inner name nodes q insideHere => ?_
      exact callName name fun other nodes => ih inner other insideHere

end AnswersFrom

end RuleGrammar
