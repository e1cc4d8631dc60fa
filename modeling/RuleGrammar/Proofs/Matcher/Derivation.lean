import RuleGrammar.Matcher.Apply
import RuleGrammar.Proofs.MatchTree.Bare

/-! What expressions and rules mean, as a relation. Calling a rule is evaluating what its name
stands for; nothing is known in advance, nothing is guarded, and nothing has to end: what never
ends has no derivation. The nodes of a derivation carry no identities.
-/

namespace RuleGrammar

/-- A repetition without its trailing separator. -/
structure Loop where
  body : Expr
  min : Nat
  max : Option Nat
  sep : Option Expr

/-- What can be derived about a subject: what an expression of a rule gives at an offset, and the
same for the parts of sequences, choices and repetitions, for white space, and for calls.
-/
inductive Judgment
  | expr (rule : Rule) (e : Expr) (pos : Int) (answer : Option Reached)
  | items (rule : Rule) (first : Bool) (items : List Expr) (pos : Int)
    (answer : Option Reached)
  | choice (rule : Rule) (alternatives : List Expr) (pos : Int) (answer : Option Reached)
  | longest (rule : Rule) (alternatives : List Expr) (best : Option Reached) (pos : Int)
    (answer : Option Reached)
  | space (rule : Rule) (pos stop : Int)
  | start (rule : Rule) (first : Bool) (pos stop : Int)
  | gap (rule : Rule) (sep : Option Expr) (p : Progress) (answer : Option Reached)
  | rounds (rule : Rule) (loop : Loop) (p last : Progress)
  | trail (rule : Rule) (sep : Option Expr) (trailing : Bool) (p : Progress) (last : Reached)
  | call (name : Name) (pos : Int) (answer : Option Match)
  | group (alternatives : List Rule) (best : Option Match) (pos : Int)
    (answer : Option Match)
  | apply (rule : Rule) (pos : Int) (answer : Option Match)

/-- Whether an anchor holds at an offset. -/
def Anchor.holdsAt (subject : Subject) (pos : Int) : Anchor → Bool
  | .inputStart => pos = 0
  | .inputEnd => pos = subject.size
  | .other _ => false

/-- A node without an identity that no rule made. -/
def Match.unnamed (start stop : Int) (log : List Caught) : Match :=
  .ofLog { id := 0, start, stop } log

/-- The node without an identity that a rule makes of what its body reached. -/
def Rule.node (rule : Rule) (pos : Int) (r : Reached) : Match :=
  .ofLog { id := 0, start := pos, stop := r.stop, rule := rule.name, tag := rule.tag } r.caught

/-- What a repetition captures: its rounds, its last separator, and marks for its names. -/
def Progress.finish (p : Progress) (max : Option Nat) (names : List Name) (last : Reached)
    : Reached :=
  ⟨last.stop,
    p.log ++ last.caught ++ if Expr.repeats max then names.map Caught.mark else []⟩

/-- The meaning of expressions and rules of a grammar over a subject. -/
inductive Derives (g : Grammar) (subject : Subject) : Judgment → Prop
  | literal {rule text pos}
    : Derives g subject (.expr rule (.literal text) pos
        (if subject.holds text pos then some ⟨pos + text.length, []⟩ else none))
  | charClass {rule cls holds pos} (compiled : cls.compile = .ok holds)
    : Derives g subject (.expr rule (.charClass cls) pos
        (if (subject.at? pos).any holds then some ⟨pos + 1, []⟩ else none))
  | anyChar {rule pos}
    : Derives g subject (.expr rule .anyChar pos
        (if pos < subject.size then some ⟨pos + 1, []⟩ else none))
  | anchor {rule a pos}
    : Derives g subject (.expr rule (.anchor a) pos
        (if a.holdsAt subject pos then some ⟨pos, []⟩ else none))
  | reference {rule name capture pos answer}
    (called : Derives g subject (.call name pos answer))
    : Derives g subject (.expr rule (.reference name capture) pos
        (answer.map fun m =>
          ⟨m.stop, (Expr.capturing capture).map fun name => .node (some name) m false⟩))
  | sym {rule tag pos} (tagged : rule.tag = some tag)
    : Derives g subject (.expr rule .sym pos
        (if subject.holds tag pos then
          some ⟨pos + tag.length,
            [.node (some "sym") (.unnamed pos (pos + tag.length) []) false]⟩
        else none))
  | lookahead {rule body negated pos answer}
    (looked : Derives g subject (.expr rule body pos answer))
    : Derives g subject (.expr rule (.lookahead body negated) pos
        (if answer.isSome != negated then some ⟨pos, []⟩ else none))
  | repetition {rule body min max sep trailing pos p last}
    (rounds : Derives g subject (.rounds rule ⟨body, min, max, sep⟩ ⟨pos, 0, []⟩ p))
    (trail : Derives g subject (.trail rule sep trailing p last))
    : Derives g subject (.expr rule (.repetition body min max sep trailing) pos
        (if p.rounds < min then none
        else some (p.finish max
          (Expr.repetition body min max sep trailing).captureNames last)))
  | sequence {rule items pos answer}
    (each : Derives g subject (.items rule true items pos answer))
    : Derives g subject (.expr rule (.sequence items) pos answer)
  | choice {rule alternatives pos answer}
    (tried : Derives g subject (.choice rule alternatives pos answer))
    : Derives g subject (.expr rule (.choice alternatives) pos answer)
  | longest {rule alternatives pos answer}
    (tried : Derives g subject (.longest rule alternatives none pos answer))
    : Derives g subject (.expr rule (.longest alternatives) pos answer)
  | goalUnopened {rule opener closer body pos}
    (missed : Derives g subject (.expr rule opener pos none))
    : Derives g subject (.expr rule (.goal opener closer body) pos none)
  | goalUnfilled {rule opener closer body pos o start}
    (opened : Derives g subject (.expr rule opener pos (some o)))
    (space : Derives g subject (.space rule o.stop start))
    (missed : Derives g subject (.expr rule body start none))
    : Derives g subject (.expr rule (.goal opener closer body) pos none)
  | goal {rule opener closer body pos o start b closing answer}
    (opened : Derives g subject (.expr rule opener pos (some o)))
    (space : Derives g subject (.space rule o.stop start))
    (filled : Derives g subject (.expr rule body start (some b)))
    (spaceAfter : Derives g subject (.space rule b.stop closing))
    (closed : Derives g subject (.expr rule closer closing answer))
    : Derives g subject (.expr rule (.goal opener closer body) pos
        (answer.map fun c =>
          ⟨c.stop, o.caught ++ b.caught ++ c.caught.filter fun entry => entry.name.isSome⟩))
  | capture {rule body name pos answer}
    (inner : Derives g subject (.expr rule body pos answer))
    : Derives g subject (.expr rule (.capture body name) pos
        (answer.map fun r => ⟨r.stop, [.node name (.unnamed pos r.stop r.caught) false]⟩))
  | itemsDone {rule first pos} : Derives g subject (.items rule first [] pos (some ⟨pos, []⟩))
  | itemsMissed {rule first e rest pos start}
    (started : Derives g subject (.start rule first pos start))
    (missed : Derives g subject (.expr rule e start none))
    : Derives g subject (.items rule first (e :: rest) pos none)
  | itemsNext {rule first e rest pos start r answer}
    (started : Derives g subject (.start rule first pos start))
    (item : Derives g subject (.expr rule e start (some r)))
    (later : Derives g subject (.items rule false rest r.stop answer))
    : Derives g subject (.items rule first (e :: rest) pos
        (answer.map fun l => ⟨l.stop, r.caught ++ l.caught⟩))
  | choiceNone {rule pos} : Derives g subject (.choice rule [] pos none)
  | choiceHere {rule e rest pos r}
    (found : Derives g subject (.expr rule e pos (some r)))
    : Derives g subject (.choice rule (e :: rest) pos (some r))
  | choiceLater {rule e rest pos answer}
    (missed : Derives g subject (.expr rule e pos none))
    (later : Derives g subject (.choice rule rest pos answer))
    : Derives g subject (.choice rule (e :: rest) pos answer)
  | longestDone {rule best pos} : Derives g subject (.longest rule [] best pos best)
  | longestNext {rule e rest best pos next answer}
    (here : Derives g subject (.expr rule e pos next))
    (later : Derives g subject (.longest rule rest (furtherReached best next) pos answer))
    : Derives g subject (.longest rule (e :: rest) best pos answer)
  | spaceless {rule pos} (none : rule.sigspace = false)
    : Derives g subject (.space rule pos pos)
  | space {rule pos answer} (some : rule.sigspace = true)
    (called : Derives g subject (.call "ws" pos answer))
    : Derives g subject (.space rule pos (answer.elim pos Match.stop))
  | startFirst {rule pos} : Derives g subject (.start rule true pos pos)
  | startLater {rule pos stop} (space : Derives g subject (.space rule pos stop))
    : Derives g subject (.start rule false pos stop)
  | gapFirst {rule sep p} (first : p.rounds = 0)
    : Derives g subject (.gap rule sep p (some ⟨p.stop, []⟩))
  | gapPlain {rule p start} (later : p.rounds ≠ 0)
    (space : Derives g subject (.space rule p.stop start))
    : Derives g subject (.gap rule none p (some ⟨start, []⟩))
  | gapMissed {rule sep p start} (later : p.rounds ≠ 0)
    (space : Derives g subject (.space rule p.stop start))
    (missed : Derives g subject (.expr rule sep start none))
    : Derives g subject (.gap rule (some sep) p none)
  | gapSeparated {rule sep p start s stop} (later : p.rounds ≠ 0)
    (space : Derives g subject (.space rule p.stop start))
    (found : Derives g subject (.expr rule sep start (some s)))
    (spaceAfter : Derives g subject (.space rule s.stop stop))
    : Derives g subject (.gap rule (some sep) p (some ⟨stop, s.caught⟩))
  | roundsFull {rule loop p} (full : belowMax loop.max p.rounds = false)
    : Derives g subject (.rounds rule loop p p)
  | roundsUnseparated {rule loop p} (below : belowMax loop.max p.rounds = true)
    (gap : Derives g subject (.gap rule loop.sep p none))
    : Derives g subject (.rounds rule loop p p)
  | roundsMissed {rule loop p before} (below : belowMax loop.max p.rounds = true)
    (gap : Derives g subject (.gap rule loop.sep p (some before)))
    (missed : Derives g subject (.expr rule loop.body before.stop none))
    : Derives g subject (.rounds rule loop p p)
  | roundsLast {rule loop p before r} (below : belowMax loop.max p.rounds = true)
    (gap : Derives g subject (.gap rule loop.sep p (some before)))
    (round : Derives g subject (.expr rule loop.body before.stop (some r)))
    (last : isLastRound loop.min (p.rounds + 1) p.stop r.stop = true)
    : Derives g subject (.rounds rule loop p
        (p.round r.stop (roundLog loop.max (before.caught ++ r.caught))))
  | roundsNext {rule loop p before r last} (below : belowMax loop.max p.rounds = true)
    (gap : Derives g subject (.gap rule loop.sep p (some before)))
    (round : Derives g subject (.expr rule loop.body before.stop (some r)))
    (more : isLastRound loop.min (p.rounds + 1) p.stop r.stop = false)
    (later : Derives g subject (.rounds rule loop
      (p.round r.stop (roundLog loop.max (before.caught ++ r.caught))) last))
    : Derives g subject (.rounds rule loop p last)
  | trailUntried {rule sep trailing p}
    (untried : sep = none ∨ (trailing && p.rounds ≠ 0) = false)
    : Derives g subject (.trail rule sep trailing p ⟨p.stop, []⟩)
  | trailMissed {rule sep trailing p start} (tried : (trailing && p.rounds ≠ 0) = true)
    (space : Derives g subject (.space rule p.stop start))
    (missed : Derives g subject (.expr rule sep start none))
    : Derives g subject (.trail rule (some sep) trailing p ⟨p.stop, []⟩)
  | trailFound {rule sep trailing p start s} (tried : (trailing && p.rounds ≠ 0) = true)
    (space : Derives g subject (.space rule p.stop start))
    (found : Derives g subject (.expr rule sep start (some s)))
    : Derives g subject (.trail rule (some sep) trailing p s)
  | callRule {name rule pos answer} (stands : g.lookup name = some (.rule rule))
    (applied : Derives g subject (.apply rule pos answer))
    : Derives g subject (.call name pos answer)
  | callGroup {name group pos answer} (stands : g.lookup name = some (.group group))
    (dispatched : Derives g subject (.group group.alternatives none pos answer))
    : Derives g subject (.call name pos answer)
  | dispatchDone {best pos} : Derives g subject (.group [] best pos best)
  | dispatchNext {rule rest best pos next answer}
    (here : Derives g subject (.apply rule pos next))
    (later : Derives g subject (.group rest (furtherMatch best next) pos answer))
    : Derives g subject (.group (rule :: rest) best pos answer)
  | apply {rule pos answer} (body : Derives g subject (.expr rule rule.expr pos answer))
    : Derives g subject (.apply rule pos (answer.map (rule.node pos)))

-----------------------------------------------------------------------------------------
-- Bare forms
-----------------------------------------------------------------------------------------

/-- A progress with the nodes that it has captured, bare. -/
def Progress.bare (p : Progress) : Progress :=
  { p with caught := p.caught.map (logThrough Match.bare) }

@[simp] theorem Progress.bare_stop (p : Progress) : p.bare.stop = p.stop := rfl

@[simp] theorem Progress.bare_rounds (p : Progress) : p.bare.rounds = p.rounds := rfl

@[simp] theorem Reached.bare_stop (r : Reached) : r.bare.stop = r.stop := rfl

@[simp] theorem Reached.bare_caught (r : Reached)
    : r.bare.caught = logThrough Match.bare r.caught := rfl

/-- The captures of a round come after those of the rounds before it. -/
theorem Progress.log_round (p : Progress) (stop : Int) (caught : List Caught)
    : (p.round stop caught).log = p.log ++ caught := by
  simp [log, round]

/-- A round more is, bare, a round more of what is bare. -/
theorem Progress.bare_round (p : Progress) (max : Option Nat) (before r : Reached)
    : (p.round r.stop (roundLog max (before.caught ++ r.caught))).bare
      = p.bare.round r.bare.stop
          (roundLog max (before.bare.caught ++ r.bare.caught)) := by
  have rounds := logThrough_roundLog Match.bare max (before.caught ++ r.caught)
  simp only [logThrough, List.map_append] at rounds
  simp [Progress.bare, Progress.round, Reached.bare, logThrough, rounds]

/-- What a repetition captures is, bare, what the bare repetition captures. -/
theorem Progress.bare_finish (p : Progress) (max : Option Nat) (names : List Name)
    (last : Reached)
    : (p.finish max names last).bare = p.bare.finish max names last.bare := by
  have marks : logThrough Match.bare (if Expr.repeats max then names.map Caught.mark else [])
      = if Expr.repeats max then names.map Caught.mark else [] := by
    split <;> simp [logThrough, Function.comp_def]
  simp only [Progress.finish, Reached.bare, Progress.log, Progress.bare, logThrough,
    List.map_append, List.map_flatten, List.map_reverse] at marks ⊢
  rw [marks]

theorem Reached.bare_further (best next : Option Reached)
    : (furtherReached best next).map Reached.bare
      = furtherReached (best.map Reached.bare) (next.map Reached.bare) := by
  cases best with
  | none => rfl
  | some b =>
      cases next with
      | none => rfl
      | some n =>
          by_cases further : b.stop < n.stop <;> simp [furtherReached, further]

theorem Match.bare_further (best next : Option Match)
    : (furtherMatch best next).map Match.bare
      = furtherMatch (best.map Match.bare) (next.map Match.bare) := by
  cases best with
  | none => rfl
  | some b =>
      cases next with
      | none => rfl
      | some n =>
          by_cases further : b.stop < n.stop <;> simp [furtherMatch, further]

/-- The better of two answers is one of them. -/
theorem Reached.forall_mem_further {holds : Reached → Prop} {best next : Option Reached}
    (bests : ∀ r ∈ best, holds r) (nexts : ∀ r ∈ next, holds r)
    : ∀ r ∈ furtherReached best next, holds r := by
  cases best with
  | none => exact nexts
  | some b =>
      cases next with
      | none => exact bests
      | some n =>
          unfold furtherReached
          dsimp only
          split
          · exact nexts
          · exact bests

theorem Match.forall_mem_further {holds : Match → Prop} {best next : Option Match}
    (bests : ∀ m ∈ best, holds m) (nexts : ∀ m ∈ next, holds m)
    : ∀ m ∈ furtherMatch best next, holds m := by
  cases best with
  | none => exact nexts
  | some b =>
      cases next with
      | none => exact bests
      | some n =>
          unfold furtherMatch
          dsimp only
          split
          · exact nexts
          · exact bests

end RuleGrammar
