import RuleGrammar.Text.CodePoint

/-! The text that is matched and the offsets into it. An offset may be negative or lie past the
end; reading through a negative one counts from the end and stops at the start. -/

namespace RuleGrammar

/-- A text with access by index. -/
structure Subject where
  chars : Array CodePoint

namespace Subject

def ofText (t : Text) : Subject :=
  ⟨t.toArray⟩

def toText (s : Subject) : Text :=
  s.chars.toList

def size (s : Subject) : Nat :=
  s.chars.size

/-- The index that an offset stands for. -/
def index (s : Subject) (pos : Int) : Nat :=
  if pos < 0 then (pos + s.size).toNat else pos.toNat

/-- The code point read at an offset before the end. -/
def at? (s : Subject) (pos : Int) : Option CodePoint :=
  if pos < s.size then s.chars[s.index pos]? else none

/-- Whether a literal stands at an index. -/
def holdsFrom (s : Subject) : Text → Nat → Bool
  | [], _ => true
  | c :: rest, i => s.chars[i]? == some c && s.holdsFrom rest (i + 1)

/-- Whether a literal stands at an offset. Past the end not even the empty one does. -/
def holds (s : Subject) (literal : Text) (pos : Int) : Bool :=
  decide (pos ≤ s.size) && s.holdsFrom literal (s.index pos)

/-- The text between two offsets. -/
def slice (s : Subject) (start stop : Int) : Text :=
  (s.chars.extract (s.index start) (s.index stop)).toList

end Subject

end RuleGrammar
