import Mathlib.Data.List.Induction
import RuleGrammar.Matcher.Apply

/-! The longest of several answers. Trying alternatives in turn and keeping the better answer each
time keeps the earliest one among those that end furthest, and nothing only if all have failed.
-/

namespace RuleGrammar

-----------------------------------------------------------------------------------------
-- Winners
-----------------------------------------------------------------------------------------

/-- The alternative with this index wins at this end: none ends further, and none before it ends
there as well. Alternatives that have failed have no end.
-/
structure Wins (ends : List (Option Int)) (i : Nat) (stop : Int) : Prop where
  reaches : ends[i]? = some (some stop)
  furthest : ∀ other, some other ∈ ends → other ≤ stop
  earliest : ∀ j < i, ends[j]? ≠ some (some stop)

/-- Only one alternative wins. -/
theorem Wins.unique {ends : List (Option Int)} {i j : Nat} {stop stop' : Int}
    (wins : Wins ends i stop) (wins' : Wins ends j stop')
    : i = j ∧ stop = stop' := by
  have same : stop = stop' :=
    Int.le_antisymm (wins'.furthest stop (List.mem_of_getElem? wins.reaches))
      (wins.furthest stop' (List.mem_of_getElem? wins'.reaches))
  subst same
  have first : ¬ j < i := fun before => wins.earliest j before wins'.reaches
  have second : ¬ i < j := fun before => wins'.earliest i before wins.reaches
  exact ⟨by omega, rfl⟩

variable {α β : Type} {stop : α → Int} {stop' : β → Int} {answers : List (Option α)}
  {others : List (Option β)}

/-- Where some answers end. -/
abbrev endsOf (stop : α → Int) (answers : List (Option α)) : List (Option Int) :=
  answers.map (Option.map stop)

/-- What is chosen of some answers: nothing if there is none, and otherwise the winner, with all
that it says.
-/
inductive Chosen (stop : α → Int) (answers : List (Option α)) : Option α → Prop
  | failed (all : ∀ answer ∈ answers, answer = none) : Chosen stop answers none
  | won {i a} (here : answers[i]? = some (some a)) (wins : Wins (endsOf stop answers) i (stop a))
    : Chosen stop answers (some a)

/-- The same is chosen of answers of two kinds: nothing of both, or the answers with one index, which
win at one end.
-/
inductive SameChoice (stop : α → Int) (stop' : β → Int) (answers : List (Option α))
    (others : List (Option β))
    : Option α → Option β → Prop
  | failed (all : ∀ answer ∈ answers, answer = none) (all' : ∀ answer ∈ others, answer = none)
    : SameChoice stop stop' answers others none none
  | won {i a b} (here : answers[i]? = some (some a)) (here' : others[i]? = some (some b))
    (wins : Wins (endsOf stop answers) i (stop a)) (wins' : Wins (endsOf stop' others) i (stop' b))
    (same : stop a = stop' b)
    : SameChoice stop stop' answers others (some a) (some b)

/-- A winner has an end, so that not all have failed. -/
theorem Wins.not_failed {i : Nat} {end_ : Int} (wins : Wins (endsOf stop answers) i end_)
    : ¬ ∀ answer ∈ answers, answer = none := by
  intro all
  have member := List.mem_of_getElem? wins.reaches
  obtain ⟨answer, answered, ends⟩ := List.mem_map.mp member
  rw [all answer answered] at ends
  cases ends

/-- Of answers with the same ends the same is chosen. -/
theorem Chosen.same {best : Option α} {best' : Option β} (chosen : Chosen stop answers best)
    (chosen' : Chosen stop' others best') (ends : endsOf stop answers = endsOf stop' others)
    : SameChoice stop stop' answers others best best' := by
  cases chosen with
  | failed all =>
      cases chosen' with
      | failed all' => exact .failed all all'
      | won here wins => exact absurd all (ends ▸ wins).not_failed
  | won here wins =>
      cases chosen' with
      | failed all' => exact absurd all' (ends ▸ wins).not_failed
      | won here' wins' =>
          obtain ⟨rfl, same⟩ := wins.unique (ends ▸ wins')
          exact .won here here' wins wins' same

-----------------------------------------------------------------------------------------
-- One answer more
-----------------------------------------------------------------------------------------

/-- The better of two answers: the one that ends further, and of two equal ones the first. -/
def betterOf (stop : α → Int) (best next : Option α) : Option α :=
  match best, next with
  | some b, some n => if stop b < stop n then some n else some b
  | some b, none => some b
  | none, next => next

theorem furtherMatch_eq : furtherMatch = betterOf Match.stop := by
  funext best next
  cases best <;> cases next <;> rfl

theorem furtherReached_eq : furtherReached = betterOf Reached.stop := by
  funext best next
  cases best <;> cases next <;> rfl

/-- A winner goes on to win if the next answer does not end further. -/
theorem Wins.append {i : Nat} {end_ : Int} {next : Option α}
    (wins : Wins (endsOf stop answers) i end_) (behind : ∀ n ∈ next, stop n ≤ end_)
    : Wins (endsOf stop (answers ++ [next])) i end_ := by
  have inside : i < (endsOf stop answers).length := (List.getElem?_eq_some_iff.mp wins.reaches).1
  have before (j : Nat) (le : j ≤ i)
      : (endsOf stop (answers ++ [next]))[j]? = (endsOf stop answers)[j]? := by
    rw [endsOf, List.map_append]
    exact List.getElem?_append_left (Nat.lt_of_le_of_lt le inside)
  refine ⟨(before i (Nat.le_refl i)).trans wins.reaches, ?_, ?_⟩
  · intro other member
    rw [endsOf, List.map_append, List.mem_append] at member
    rcases member with earlier | last
    · exact wins.furthest other earlier
    · obtain ⟨n, rfl, rfl⟩ := Option.map_eq_some_iff.mp (List.mem_singleton.mp last).symm
      exact behind n rfl
  · intro j lt
    rw [before j (Nat.le_of_lt lt)]
    exact wins.earliest j lt

/-- An answer that ends further than all before it wins. -/
theorem Wins.last {n : α} (ahead : ∀ a, some a ∈ answers → stop a < stop n)
    : Wins (endsOf stop (answers ++ [some n])) answers.length (stop n) := by
  have ends : endsOf stop (answers ++ [some n]) = endsOf stop answers ++ [some (stop n)] :=
    List.map_append
  have earlier {other : Int} (member : some other ∈ endsOf stop answers) : other < stop n := by
    obtain ⟨a, inside, same⟩ := List.mem_map.mp member
    obtain ⟨a, rfl, rfl⟩ := Option.map_eq_some_iff.mp same
    exact ahead a inside
  rw [ends]
  refine ⟨by simp, ?_, ?_⟩
  · intro other member
    rcases List.mem_append.mp member with before | last
    · exact Int.le_of_lt (earlier before)
    · exact Int.le_of_eq (Option.some.inj (List.mem_singleton.mp last))
  · intro j lt
    rw [List.getElem?_append_left (by simpa using lt)]
    exact fun reaches => Int.lt_irrefl _ (earlier (List.mem_of_getElem? reaches))

/-- The better of what is chosen and one answer more is what is chosen of all. -/
theorem Chosen.append {best : Option α} (chosen : Chosen stop answers best) (next : Option α)
    : Chosen stop (answers ++ [next]) (betterOf stop best next) := by
  cases chosen with
  | failed all =>
      cases next with
      | none => exact .failed (by simpa [or_imp, forall_and] using all)
      | some n =>
          refine .won (i := answers.length) (by simp) (.last fun a member => ?_)
          cases all _ member
  | @won i b here wins =>
      have inside : i < answers.length := (List.getElem?_eq_some_iff.mp here).1
      have stays : (answers ++ [next])[i]? = some (some b) :=
        (List.getElem?_append_left inside).trans here
      cases next with
      | none => exact .won stays (wins.append (by simp))
      | some n =>
          by_cases further : stop b < stop n
          · rw [betterOf, if_pos further]
            refine .won (i := answers.length) (by simp) (.last fun a member => ?_)
            exact Int.lt_of_le_of_lt (wins.furthest _ (List.mem_map_of_mem member)) further
          · rw [betterOf, if_neg further]
            exact .won stays (wins.append (by simpa using further))

/-- Keeping the better answer each time chooses among all answers, by induction from the last. -/
theorem chosen_foldl (stop : α → Int) (answers : List (Option α))
    : Chosen stop answers (answers.foldl (betterOf stop) none) := by
  induction answers using List.reverseRecOn with
  | nil => exact .failed (by simp)
  | append_singleton answers next ih =>
      rw [List.foldl_append]
      exact ih.append next

-----------------------------------------------------------------------------------------
-- Alternatives in turn
-----------------------------------------------------------------------------------------

/-- A group dispatches by applying its alternatives in turn and choosing among their answers, by
induction on the alternatives.
-/
theorem dispatch_eq (apply : Rule → Int → MatchM (Option Match)) (pos : Int)
    (alternatives : List Rule) (best : Option Match)
    : dispatch apply pos alternatives best
      = (do
          let answers ← alternatives.mapM fun rule => apply rule pos
          return answers.foldl (betterOf Match.stop) best) := by
  induction alternatives generalizing best with
  | nil => rfl
  | cons rule rest ih => simp [dispatch, ih, furtherMatch_eq]

/-- The longest of some alternatives is found by evaluating them in turn and choosing among their
answers, by induction on the alternatives.
-/
theorem evalLongest_eq (site : Site) (alternatives : List Expr) (best : Option Reached) (pos : Int)
    : evalLongest site alternatives best pos
      = (do
          let answers ← alternatives.mapM fun e => eval site e pos
          return answers.foldl (betterOf Reached.stop) best) := by
  induction alternatives generalizing best with
  | nil => simp
  | cons e rest ih => simp [ih, furtherReached_eq]

/-- What a computation makes of answers in turn, it has made of some. -/
theorem chosen_of_mapM {γ : Type} {items : List γ} {answer : γ → MatchM (Option α)}
    {s t : MatcherState} {best : Option α}
    (ended
      : (do
          let answers ← items.mapM answer
          return answers.foldl (betterOf stop) none : MatchM (Option α)) s
        = .ok best t)
    : ∃ answers, items.mapM answer s = .ok answers t ∧ Chosen stop answers best := by
  obtain ⟨answers, u, ran, chosen⟩ := bind_eq_ok.mp ended
  cases chosen
  exact ⟨answers, ran, chosen_foldl stop answers⟩

end RuleGrammar
