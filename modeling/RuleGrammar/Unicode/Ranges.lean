import RuleGrammar.Text.CodePoint

/-! Sets of code points written as hexadecimal stretches, and tables of named sets. In a table
the entries stand between semicolons: the names, with commas between them, and then the
stretches, with blanks before them. A stretch is a code point, or the first and the last one
with a hyphen between, and after a colon the distance from one to the next if it is not one. -/

namespace RuleGrammar.Unicode

/-- The pieces of a list between the elements that satisfy a test. -/
def pieces (isSeparator : Char → Bool) : List Char → List (List Char)
  | [] => [[]]
  | c :: rest =>
      match pieces isSeparator rest with
      | [] => [[c]]
      | piece :: others =>
          if isSeparator c then [] :: piece :: others else (c :: piece) :: others

/-- The number that hexadecimal digits write; other characters are passed over. -/
def readHex (digits : List Char) : Nat :=
  digits.foldl (fun n c => match (CodePoint.ofChar c).hexDigit? with
    | some d => n * 16 + d
    | none => n) 0

/-- Code points at equal distances, both ends included. -/
structure Stretch where
  first : Nat
  last : Nat
  step : Nat := 1

namespace Stretch

def contains (stretch : Stretch) (c : CodePoint) : Bool :=
  decide (stretch.first ≤ c.value) && decide (c.value ≤ stretch.last)
    && decide ((c.value - stretch.first) % stretch.step = 0)

/-- The stretch that a piece of a table writes. -/
def read (piece : List Char) : Stretch :=
  match pieces (fun c => c == '-' || c == ':') piece with
  | [first, last] => { first := readHex first, last := readHex last }
  | [first, last, step] =>
      { first := readHex first, last := readHex last, step := readHex step }
  | _ => { first := readHex piece, last := readHex piece }

end Stretch

/-- The stretches written with blanks between them. -/
def readStretches (table : String) : List Stretch :=
  (pieces (· == ' ') table.toList).map Stretch.read

/-- Whether one of the stretches holds a code point. -/
def inStretches (stretches : List Stretch) (c : CodePoint) : Bool :=
  stretches.any (·.contains c)

/-- A set of code points and the names it goes by. -/
structure NamedSet where
  names : List Text
  stretches : List Stretch

namespace NamedSet

def contains (set : NamedSet) (c : CodePoint) : Bool :=
  inStretches set.stretches c

/-- The set that an entry of a table writes. -/
def read (entry : List Char) : NamedSet :=
  match pieces (· == ' ') entry with
  | [] => ⟨[], []⟩
  | names :: stretches =>
      ⟨(pieces (· == ',') names).map (·.map CodePoint.ofChar), stretches.map Stretch.read⟩

end NamedSet

/-- The sets of a table. -/
def readTable (table : String) : List NamedSet :=
  (pieces (· == ';') table.toList).map NamedSet.read

end RuleGrammar.Unicode
