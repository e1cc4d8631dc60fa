import RuleGrammar.Text.Subject

/-! Where an offset lies: its line and column, both counted from one, and the line drawn with a
caret under the column. -/

namespace RuleGrammar

/-- A line and a column. The column is an integer, since an offset may precede its line. -/
structure Place where
  line : Nat
  column : Int
deriving DecidableEq

namespace Subject

/-- The text before an offset. -/
def before (s : Subject) (pos : Int) : Text :=
  s.slice 0 pos

/-- Where the line that holds an offset starts: after the last newline before it. -/
def lineStart (s : Subject) (pos : Int) : Nat :=
  let earlier := s.before pos
  earlier.length - (earlier.reverse.takeWhile (· ≠ CodePoint.ofChar '\n')).length

/-- The place of an offset: one line per newline before it, and the distance from the start of
its line. -/
def place (s : Subject) (pos : Int) : Place where
  line := (s.before pos).count (CodePoint.ofChar '\n') + 1
  column := pos - s.lineStart pos + 1

/-- The line that holds an offset, up to the next newline. -/
def lineAt (s : Subject) (pos : Int) : Text :=
  let start := s.lineStart pos
  let next := s.index pos
  let rest := s.slice next s.size
  if rest.contains (CodePoint.ofChar '\n') then
    s.slice start (next + (rest.takeWhile (· ≠ CodePoint.ofChar '\n')).length : Nat)
  else s.slice start s.size

/-- The line that holds an offset with a caret under its column. -/
def caretSnippet (s : Subject) (pos : Int) : Text :=
  s.lineAt pos ++ "\n" ++ Text.spaces (pos - s.lineStart pos).toNat ++ "^"

end Subject

end RuleGrammar
