import RuleGrammar.Proofs.MatchTree.Alike
import RuleGrammar.Proofs.Matcher.Naming

/-! What takes part in a match: the nodes that are captured under names and the repetitions, also
those without a round. What stands inside a capture or a lookahead does not take part, nor does
what was given back: an alternative that was left for another, or a round that was not completed.
An evaluation that keeps an account of it ends as evaluation does, and its log says of names what
the account does.
-/

namespace RuleGrammar

-----------------------------------------------------------------------------------------
-- Accounts
-----------------------------------------------------------------------------------------

/-- Whether an expression is a repetition that may go round more than once. -/
def Expr.isListing : Expr → Bool
  | repetition _ _ max _ _ => repeats max
  | _ => false

/-- What takes part in a match: a node that is captured under a name, or a repetition. -/
inductive Part
  | captured (name : Name) (node : Match)
  | repeated (loop : Expr)

namespace Part

/-- The part that an entry of a log stands for. -/
def ofCaught? : Caught → Option Part
  | .node (some name) m _ => some (captured name m)
  | _ => none

/-- The node that a part captures under a name. -/
def nodeNamed? (key : Name) : Part → Option Match
  | captured name m => if name = key then some m else none
  | repeated _ => none

/-- A part makes the captures of a name a list: it may go round more than once, and somewhere in
it the name stands.
-/
def Lists (key : Name) : Part → Prop
  | captured _ _ => False
  | repeated loop => loop.isListing = true ∧ key ∈ loop.captureNames

end Part

/-- Some of the parts make the captures of a name a list. -/
def ListedAmong (parts : List Part) (key : Name) : Prop :=
  ∃ part ∈ parts, part.Lists key

/-- A value with what took part in coming to it, in order. -/
structure Account (α : Type) where
  value : α
  parts : List Part := []

namespace Accounted

/-- What has no part of its own but what it captures. -/
def atom (m : MatchM (Option Reached)) : MatchM (Option (Account Reached)) := do
  match ← m with
  | none => return none
  | some r => return some ⟨r, r.caught.filterMap Part.ofCaught?⟩

def gapBefore (between : Int → MatchM (Option (Account Reached))) (p : Progress)
    : MatchM (Option (Account Reached)) :=
  if p.rounds = 0 then return some ⟨⟨p.stop, []⟩, []⟩ else between p.stop

/-- The rounds of a repetition. A round that is given back takes no part. -/
def repeatRounds (rule : Name) (body between : Int → MatchM (Option (Account Reached)))
    (min : Nat) (max : Option Nat) : Nat → Account Progress → MatchM (Account Progress)
  | 0, p => throw (.outOfRoom rule p.value.stop)
  | bound + 1, p => do
      if belowMax max p.value.rounds then
        match ← gapBefore between p.value with
        | none => return p
        | some gap =>
            match ← body gap.value.stop with
            | none => return p
            | some r =>
                let next := p.value.round r.value.stop
                  (roundLog max (gap.value.caught ++ r.value.caught))
                let parts := p.parts ++ gap.parts ++ r.parts
                if isLastRound min next.rounds p.value.stop r.value.stop then
                  return ⟨next, parts⟩
                else repeatRounds rule body between min max bound ⟨next, parts⟩
      else return p

def betweenRounds (site : Site) (sep : Option (Int → MatchM (Option (Account Reached))))
    (pos : Int) : MatchM (Option (Account Reached)) := do
  let start ← site.skipSpace pos
  match sep with
  | none => return some ⟨⟨start, []⟩, []⟩
  | some separator =>
      match ← separator start with
      | none => return none
      | some s => return some ⟨⟨← site.skipSpace s.value.stop, s.value.caught⟩, s.parts⟩

def trailingSeparator (site : Site) (sep : Option (Int → MatchM (Option (Account Reached))))
    (trailing : Bool) (p : Progress) : MatchM (Account Reached) :=
  match sep with
  | some separator =>
      if trailing && p.rounds ≠ 0 then do
        match ← separator (← site.skipSpace p.stop) with
        | none => return ⟨⟨p.stop, []⟩, []⟩
        | some s => return s
      else return ⟨⟨p.stop, []⟩, []⟩
  | none => return ⟨⟨p.stop, []⟩, []⟩

/-- A repetition takes part after its rounds, whatever their number. -/
def evalRepetition (site : Site) (body : Int → MatchM (Option (Account Reached)))
    (sep : Option (Int → MatchM (Option (Account Reached)))) (min : Nat) (max : Option Nat)
    (trailing : Bool) (loop : Expr) (pos : Int) : MatchM (Option (Account Reached)) := do
  let bound := (site.subject.size - pos).toNat + min + 1
  let p ← repeatRounds site.rule.name body (betweenRounds site sep) min max bound
    ⟨⟨pos, 0, []⟩, []⟩
  let last ← trailingSeparator site sep trailing p.value
  if p.value.rounds < min then return none
  else
    let marks := if Expr.repeats max then loop.captureNames.map Caught.mark else []
    return some ⟨⟨last.value.stop, p.value.log ++ last.value.caught ++ marks⟩,
      p.parts ++ last.parts ++ [.repeated loop]⟩

def evalGoal (site : Site) (opener closer body : Int → MatchM (Option (Account Reached)))
    (closerName : Text) (pos : Int) : MatchM (Option (Account Reached)) := do
  match ← opener pos with
  | none => return none
  | some o =>
      match ← body (← site.skipSpace o.value.stop) with
      | none => return none
      | some b =>
          let closing ← site.skipSpace b.value.stop
          match ← closer closing with
          | none => do
              MatchM.expectGoal site.scope closing closerName
              return none
          | some c =>
              return some ⟨⟨c.value.stop,
                o.value.caught ++ b.value.caught
                  ++ c.value.caught.filter fun entry => entry.name.isSome⟩,
                o.parts ++ b.parts ++ c.parts⟩

/-- The better of two answers, as evaluation chooses it. -/
def further (best next : Option (Account Reached)) : Option (Account Reached) :=
  match best, next with
  | some b, some n => if b.value.stop < n.value.stop then some n else some b
  | some b, none => some b
  | none, next => next

mutual

/-- Evaluates an expression and keeps an account of what takes part. -/
def eval (site : Site) : Expr → Int → MatchM (Option (Account Reached))
  | .repetition body min max sep trailing, pos =>
      evalRepetition site (eval site body) (evalOption site sep) min max trailing
        (.repetition body min max sep trailing) pos
  | .sequence items, pos => evalItems site true items pos
  | .choice alternatives, pos => evalChoice site alternatives pos
  | .longest alternatives, pos => evalLongest site alternatives none pos
  | .goal opener closer body, pos =>
      evalGoal site (eval site opener) (eval site closer) (eval site body) closer.describe pos
  | e, pos => atom (RuleGrammar.eval site e pos)

def evalOption (site : Site)
    : Option Expr → Option (Int → MatchM (Option (Account Reached)))
  | none => none
  | some e => some (eval site e)

def evalItems (site : Site) (first : Bool)
    : List Expr → Int → MatchM (Option (Account Reached))
  | [], pos => return some ⟨⟨pos, []⟩, []⟩
  | e :: rest, pos => do
      match ← eval site e (← site.itemStart first pos) with
      | none => return none
      | some r =>
          match ← evalItems site false rest r.value.stop with
          | none => return none
          | some later =>
              return some ⟨⟨later.value.stop, r.value.caught ++ later.value.caught⟩,
                r.parts ++ later.parts⟩

def evalChoice (site : Site) : List Expr → Int → MatchM (Option (Account Reached))
  | [], _ => return none
  | e :: rest, pos => do
      match ← eval site e pos with
      | some r => return some r
      | none => evalChoice site rest pos

def evalLongest (site : Site)
    : List Expr → Option (Account Reached) → Int → MatchM (Option (Account Reached))
  | [], best, _ => return best
  | e :: rest, best, pos => do
      evalLongest site rest (further best (← eval site e pos)) pos

end

end Accounted

-----------------------------------------------------------------------------------------
-- Logs and their accounts
-----------------------------------------------------------------------------------------

/-- A log shows some parts: it has the nodes that they captured, under the same names and in the
same order, and it makes a list of what they make one. If it is not listing itself, it makes a
list of nothing else. All of its names are among some names. The empty name may stand for
anything.
-/
structure Shows (names : List Name) (listing : Bool) (log : List Caught) (parts : List Part)
    : Prop where
  nodes : ∀ key, log.filterMap (Caught.nodeNamed? key) = parts.filterMap (Part.nodeNamed? key)
  lists : ∀ key ≠ [], ListedAmong parts key → listsName log key = true
  exact : listing = false → ∀ key ≠ [], listsName log key = true → ListedAmong parts key
  among : NamedAmong names log

theorem ListedAmong.append {parts more : List Part} {key : Name}
    : ListedAmong (parts ++ more) key ↔ ListedAmong parts key ∨ ListedAmong more key := by
  simp only [ListedAmong, List.mem_append, or_and_right, exists_or]

theorem ListedAmong.repeated {loop : Expr} {key : Name}
    : ListedAmong [.repeated loop] key ↔ loop.isListing = true ∧ key ∈ loop.captureNames := by
  simp only [ListedAmong, List.mem_singleton, exists_eq_left, Part.Lists]

/-- Nodes alone make no list. -/
theorem ListedAmong.not_ofCaught (log : List Caught) (key : Name)
    : ¬ ListedAmong (log.filterMap Part.ofCaught?) key := by
  rintro ⟨part, member, lists⟩
  obtain ⟨entry, -, made⟩ := List.mem_filterMap.mp member
  cases entry with
  | mark name => cases made
  | node name m listed => cases name with
    | none => cases made
    | some name =>
        cases made
        exact lists

/-- The nodes that an entry stands for are those of its part. -/
theorem Part.nodeNamed?_ofCaught (key : Name) (entry : Caught)
    : (ofCaught? entry).bind (nodeNamed? key) = entry.nodeNamed? key := by
  cases entry with
  | mark name => rfl
  | node name m listed => cases name <;> rfl

namespace Shows

variable {names wider : List Name} {listing : Bool} {log later : List Caught}
  {parts more : List Part}

theorem nil (names : List Name) (listing : Bool) : Shows names listing [] [] where
  nodes _ := rfl
  lists _ _ := by simp [ListedAmong]
  exact _ _ _ := by simp [listsName]
  among := .nil names

theorem mono (shows_ : Shows names listing log parts) (wide : names ⊆ wider)
    : Shows wider listing log parts :=
  { shows_ with among := shows_.among.mono wide }

theorem loosen (shows_ : Shows names false log parts) (listing : Bool)
    : Shows names listing log parts :=
  { shows_ with exact := fun _ => shows_.exact rfl }

theorem append (shows_ : Shows names listing log parts)
    (showsLater : Shows names listing later more)
    : Shows names listing (log ++ later) (parts ++ more) where
  nodes key := by rw [List.filterMap_append, List.filterMap_append, shows_.nodes, showsLater.nodes]
  lists key counts listed := by
    rw [listsName_append, Bool.or_eq_true]
    exact (ListedAmong.append.mp listed).imp (shows_.lists key counts) (showsLater.lists key counts)
  exact plain key counts listed := by
    rw [listsName_append, Bool.or_eq_true] at listed
    exact ListedAmong.append.mpr
      (listed.imp (shows_.exact plain key counts) (showsLater.exact plain key counts))
  among := shows_.among.append showsLater.among

/-- A node that is not listed shows itself. -/
theorem single {name : Option Name} (among : ∀ key ≠ [], name = some key → key ∈ names) (m : Match)
    : Shows names false [.node name m false] ([Caught.node name m false].filterMap Part.ofCaught?)
    where
  nodes key := by simp only [List.filterMap_filterMap, Part.nodeNamed?_ofCaught]
  lists key _ listed := (ListedAmong.not_ofCaught _ key listed).elim
  exact _ key _ listed := by simp [listsName, Caught.makesList] at listed
  among := .single among m false

/-- A round of a repetition that may go round again lists all that it captured. -/
theorem roundLog (shows_ : Shows names false log parts) (max : Option Nat)
    : Shows names (Expr.repeats max) (RuleGrammar.roundLog max log) parts := by
  have among := shows_.among.roundLog max
  unfold RuleGrammar.roundLog at among ⊢
  by_cases repeated : Expr.repeats max = true
  · rw [if_pos repeated] at among ⊢
    exact {
      nodes := fun key => by rw [nodesNamed_listed, shows_.nodes]
      lists := fun key counts listed => by
        rw [listsName_map_listed, decide_eq_true_iff]
        exact mem_names_of_listsName (shows_.lists key counts listed)
      exact := fun plain => by
        rw [repeated] at plain
        cases plain
      among := among
    }
  · rw [if_neg repeated]
    exact shows_.loosen _

/-- The closer of a goal drops what has no name, which no part stands for. -/
theorem closer (shows_ : Shows names listing log parts)
    : Shows names listing (log.filter fun entry => entry.name.isSome) parts where
  nodes key := by rw [nodesNamed_closer, shows_.nodes]
  lists key := by
    rw [listsName_closer]
    exact shows_.lists key
  exact plain key := by
    rw [listsName_closer]
    exact shows_.exact plain key
  among := shows_.among.sublist List.filter_sublist

/-- The marks of a repetition make a list of whatever it may capture, and of nothing else. What
its rounds listed before is among that.
-/
theorem marked {loop : Expr} (listing : loop.isListing = true)
    (shows_ : Shows loop.captures true log parts)
    : Shows loop.captures false (log ++ loop.captureNames.map Caught.mark)
        (parts ++ [.repeated loop]) where
  nodes key := by
    rw [List.filterMap_append, List.filterMap_append, nodesNamed_marks, shows_.nodes]
    rfl
  lists key counts listed := by
    rw [listsName_append, Bool.or_eq_true, listsName_marks, decide_eq_true_iff]
    exact (ListedAmong.append.mp listed).imp (shows_.lists key counts)
      fun last => (ListedAmong.repeated.mp last).2
  exact _ key counts listed := by
    rw [listsName_append, Bool.or_eq_true, listsName_marks, decide_eq_true_iff] at listed
    rw [ListedAmong.append, ListedAmong.repeated]
    refine .inr ⟨listing, listed.elim (fun before => ?_) id⟩
    exact mem_distinct.mpr (shows_.among key counts (mem_names_of_listsName before))
  among := shows_.among.append
    ((NamedAmong.marks loop.captureNames).mono fun name member => mem_distinct.mp member)

/-- A repetition that goes round once at most makes a list of nothing. -/
theorem unmarked {loop : Expr} (once : loop.isListing = false)
    (shows_ : Shows names false log parts)
    : Shows names false log (parts ++ [.repeated loop]) where
  nodes key := by
    rw [List.filterMap_append, shows_.nodes]
    exact (List.append_nil _).symm
  lists key counts listed := by
    refine shows_.lists key counts ((ListedAmong.append.mp listed).resolve_right fun last => ?_)
    rw [(ListedAmong.repeated.mp last).1] at once
    cases once
  exact _ key counts listed := ListedAmong.append.mpr (.inl (shows_.exact rfl key counts listed))
  among := shows_.among

/-- Behind a repetition stand its marks, if it may go round more than once. -/
theorem repeated {loop : Expr} (shows_ : Shows loop.captures loop.isListing log parts)
    : Shows loop.captures false
        (log ++ if loop.isListing then loop.captureNames.map Caught.mark else [])
        (parts ++ [.repeated loop]) := by
  cases listing : loop.isListing with
  | true =>
      rw [listing] at shows_
      exact shows_.marked listing
  | false =>
      rw [listing] at shows_
      rw [if_neg Bool.false_ne_true, List.append_nil]
      exact shows_.unmarked listing

end Shows

end RuleGrammar
