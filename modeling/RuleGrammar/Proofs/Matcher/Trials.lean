import RuleGrammar.Proofs.Matcher.Derivation

/-! What a match comes to try, as a relation: the parts of what it tries, each where those before it
lead. What is only tried inside lookaheads or as white space is left out, for failures there are not
noted.
-/

namespace RuleGrammar

/-- What may be tried: an expression of a rule at an offset, the items or alternatives of one that
are left, the rounds of a repetition that are left, or a call.
-/
inductive Trial
  | expr (rule : Rule) (e : Expr) (pos : Int)
  | items (rule : Rule) (first : Bool) (items : List Expr) (pos : Int)
  | choice (rule : Rule) (alternatives : List Expr) (pos : Int)
  | rounds (rule : Rule) (loop : Loop) (p : Progress)
  | call (name : Name) (pos : Int)

/-- What is tried with a grammar over a subject, given what is tried to begin with. -/
inductive Tried (g : Grammar) (subject : Subject) (begins : Trial → Prop) : Trial → Prop
  | begin {trial} (first : begins trial) : Tried g subject begins trial
  | body {name pos entry rule} (tried : Tried g subject begins (.call name pos))
    (stands : g.lookup name = some entry) (member : rule ∈ entry.rules)
    : Tried g subject begins (.expr rule rule.expr pos)
  | called {rule name capture pos}
    (tried : Tried g subject begins (.expr rule (.reference name capture) pos))
    : Tried g subject begins (.call name pos)
  | captured {rule e name pos} (tried : Tried g subject begins (.expr rule (.capture e name) pos))
    : Tried g subject begins (.expr rule e pos)
  | sequence {rule items pos} (tried : Tried g subject begins (.expr rule (.sequence items) pos))
    : Tried g subject begins (.items rule true items pos)
  | item {rule first e rest pos start}
    (tried : Tried g subject begins (.items rule first (e :: rest) pos))
    (started : Derives g subject (.start rule first pos start))
    : Tried g subject begins (.expr rule e start)
  | itemsLater {rule first e rest pos start r}
    (tried : Tried g subject begins (.items rule first (e :: rest) pos))
    (started : Derives g subject (.start rule first pos start))
    (found : Derives g subject (.expr rule e start (some r)))
    : Tried g subject begins (.items rule false rest r.stop)
  | choice {rule alternatives pos}
    (tried : Tried g subject begins (.expr rule (.choice alternatives) pos))
    : Tried g subject begins (.choice rule alternatives pos)
  | alternative {rule e rest pos} (tried : Tried g subject begins (.choice rule (e :: rest) pos))
    : Tried g subject begins (.expr rule e pos)
  | choiceLater {rule e rest pos} (tried : Tried g subject begins (.choice rule (e :: rest) pos))
    (missed : Derives g subject (.expr rule e pos none))
    : Tried g subject begins (.choice rule rest pos)
  | longest {rule alternatives e pos}
    (tried : Tried g subject begins (.expr rule (.longest alternatives) pos))
    (member : e ∈ alternatives)
    : Tried g subject begins (.expr rule e pos)
  | opener {rule opener closer body pos}
    (tried : Tried g subject begins (.expr rule (.goal opener closer body) pos))
    : Tried g subject begins (.expr rule opener pos)
  | goalBody {rule opener closer body pos o start}
    (tried : Tried g subject begins (.expr rule (.goal opener closer body) pos))
    (opened : Derives g subject (.expr rule opener pos (some o)))
    (space : Derives g subject (.space rule o.stop start))
    : Tried g subject begins (.expr rule body start)
  | closer {rule opener closer body pos o start b closing}
    (tried : Tried g subject begins (.expr rule (.goal opener closer body) pos))
    (opened : Derives g subject (.expr rule opener pos (some o)))
    (space : Derives g subject (.space rule o.stop start))
    (filled : Derives g subject (.expr rule body start (some b)))
    (spaceAfter : Derives g subject (.space rule b.stop closing))
    : Tried g subject begins (.expr rule closer closing)
  | rounds {rule body min max sep trailing pos}
    (tried : Tried g subject begins (.expr rule (.repetition body min max sep trailing) pos))
    : Tried g subject begins (.rounds rule ⟨body, min, max, sep⟩ ⟨pos, 0, []⟩)
  | separator {rule loop e p start} (tried : Tried g subject begins (.rounds rule loop p))
    (below : belowMax loop.max p.rounds = true) (separates : loop.sep = some e)
    (later : p.rounds ≠ 0) (space : Derives g subject (.space rule p.stop start))
    : Tried g subject begins (.expr rule e start)
  | round {rule loop p before} (tried : Tried g subject begins (.rounds rule loop p))
    (below : belowMax loop.max p.rounds = true)
    (gap : Derives g subject (.gap rule loop.sep p (some before)))
    : Tried g subject begins (.expr rule loop.body before.stop)
  | roundsLater {rule loop p before r} (tried : Tried g subject begins (.rounds rule loop p))
    (below : belowMax loop.max p.rounds = true)
    (gap : Derives g subject (.gap rule loop.sep p (some before)))
    (found : Derives g subject (.expr rule loop.body before.stop (some r)))
    (more : isLastRound loop.min (p.rounds + 1) p.stop r.stop = false)
    : Tried g subject begins
        (.rounds rule loop (p.round r.stop (roundLog loop.max (before.caught ++ r.caught))))
  | trailing {rule body min max e trailing pos p start}
    (tried : Tried g subject begins (.expr rule (.repetition body min max (some e) trailing) pos))
    (rounds : Derives g subject (.rounds rule ⟨body, min, max, some e⟩ ⟨pos, 0, []⟩ p))
    (after : (trailing && p.rounds ≠ 0) = true)
    (space : Derives g subject (.space rule p.stop start))
    : Tried g subject begins (.expr rule e start)

/-- Where anything is tried to begin with, anything is tried. -/
theorem Tried.anything {g : Grammar} {subject : Subject} (trial : Trial)
    : Tried g subject (fun _ => True) trial :=
  .begin trivial

/-- A goal of a rule is missed at an offset: it is tried, its opener and its body are found, and its
closer is not where they lead.
-/
inductive MissedGoal (g : Grammar) (subject : Subject) (begins : Trial → Prop) (rule : Rule)
    (closing : Int)
    : Text → Prop
  | intro {opener closer body pos o start b}
    (tried : Tried g subject begins (.expr rule (.goal opener closer body) pos))
    (opened : Derives g subject (.expr rule opener pos (some o)))
    (space : Derives g subject (.space rule o.stop start))
    (filled : Derives g subject (.expr rule body start (some b)))
    (spaceAfter : Derives g subject (.space rule b.stop closing))
    (missed : Derives g subject (.expr rule closer closing none))
    : MissedGoal g subject begins rule closing closer.describe

end RuleGrammar
