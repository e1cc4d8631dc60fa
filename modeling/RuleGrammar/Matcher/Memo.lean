import Std.Data.TreeMap
import RuleGrammar.MatchTree.Basic

/-! The answers of rule applications that are already known. -/

namespace RuleGrammar

/-- What tells rule applications apart: the rule's name and tag, and where it is applied. -/
structure Key where
  rule : Name
  tag : Option Name
  pos : Int
deriving DecidableEq

/-- Answers by key, kept in one list per position. -/
structure Memo where
  byPos : Std.TreeMap Int (List (Key × Option Match)) := {}

namespace Memo

/-- The answers kept at a position. -/
def rows (memo : Memo) (pos : Int) : List (Key × Option Match) :=
  (memo.byPos[pos]?).getD []

/-- The answer known for a key. -/
def find? (memo : Memo) (key : Key) : Option (Option Match) :=
  ((memo.rows key.pos).find? (·.1 = key)).map (·.2)

/-- The memo with an answer added; it goes before any other answer for its key. -/
def insert (memo : Memo) (key : Key) (answer : Option Match) : Memo :=
  ⟨memo.byPos.insert key.pos ((key, answer) :: memo.rows key.pos)⟩

theorem find?_empty (key : Key)
    : find? {} key = none := by
  simp [find?, rows]

theorem find?_insert_self (memo : Memo) (key : Key) (answer : Option Match)
    : (memo.insert key answer).find? key = some answer := by
  simp [find?, rows, insert]

/-- An answer added for one key leaves those of the others, by cases on the position. -/
theorem find?_insert_of_ne (memo : Memo) {key other : Key} (answer : Option Match)
    (ne : other ≠ key)
    : (memo.insert key answer).find? other = memo.find? other := by
  by_cases samePos : key.pos = other.pos
  · simp [find?, rows, insert, samePos, ne.symm]
  · simp [find?, rows, insert, Std.TreeMap.getElem?_insert, samePos]

/-- What is known after an answer was added is that answer or was known before. -/
theorem find?_insert_cases {memo : Memo} {key other : Key} {answer known : Option Match}
    (found : (memo.insert key answer).find? other = some known)
    : other = key ∧ known = answer ∨ memo.find? other = some known := by
  by_cases same : other = key
  · subst same
    rw [find?_insert_self] at found
    exact .inl ⟨rfl, (Option.some.inj found).symm⟩
  · rw [find?_insert_of_ne memo answer same] at found
    exact .inr found

end Memo

end RuleGrammar
