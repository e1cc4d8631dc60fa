/-! Code points and the texts made of them. A text may hold lone surrogates, which a
character cannot be, so both notation and subjects are lists of code points. -/

namespace RuleGrammar

/-- A number that Unicode may assign, surrogates included. -/
structure CodePoint where
  value : Nat
  isLt : value < 0x110000
deriving DecidableEq

namespace CodePoint

/-- The code point of a character. -/
def ofChar (c : Char) : CodePoint where
  value := c.toNat
  isLt := by
    have h := c.valid
    simp only [UInt32.isValidChar, Nat.isValidChar] at h
    simp only [Char.toNat]
    omega

instance : Coe Char CodePoint := ⟨ofChar⟩

instance : Inhabited CodePoint := ⟨⟨0, by omega⟩⟩

/-- Numbers past the last code point have none. -/
def ofNat? (n : Nat) : Option CodePoint :=
  if h : n < 0x110000 then some ⟨n, h⟩ else none

/-- Surrogates stand for halves of a pair and are no characters of their own. -/
def isSurrogate (c : CodePoint) : Bool :=
  0xD800 ≤ c.value && c.value < 0xE000

def isAscii (c : CodePoint) : Bool :=
  c.value < 0x80

def isAsciiUpper (c : CodePoint) : Bool :=
  0x41 ≤ c.value && c.value ≤ 0x5A

def isAsciiLower (c : CodePoint) : Bool :=
  0x61 ≤ c.value && c.value ≤ 0x7A

def isAsciiLetter (c : CodePoint) : Bool :=
  c.isAsciiUpper || c.isAsciiLower

def isAsciiDigit (c : CodePoint) : Bool :=
  0x30 ≤ c.value && c.value ≤ 0x39

/-- Letters a to z become capitals; every other code point stays. -/
def asciiUpper (c : CodePoint) : CodePoint :=
  if c.isAsciiLower then ⟨c.value - 0x20, by have := c.isLt; omega⟩ else c

/-- Letters A to Z become small; every other code point stays. -/
def asciiLower (c : CodePoint) : CodePoint :=
  if h : c.isAsciiUpper then
    ⟨c.value + 0x20, by simp [isAsciiUpper] at h; omega⟩
  else c

/-- The value of a hexadecimal digit. -/
def hexDigit? (c : CodePoint) : Option Nat :=
  if c.isAsciiDigit then some (c.value - 0x30)
  else if 0x61 ≤ c.value && c.value ≤ 0x66 then some (c.value - 0x61 + 10)
  else if 0x41 ≤ c.value && c.value ≤ 0x46 then some (c.value - 0x41 + 10)
  else none

end CodePoint

/-- A text is its code points in order. -/
abbrev Text := List CodePoint

namespace Text

/-- The code points of a string. -/
def ofString (s : String) : Text :=
  s.toList.map CodePoint.ofChar

instance : Coe String Text := ⟨ofString⟩

/-- The digits of a number in a base up to sixteen, least significant first. -/
def digitsRev (base : Nat) : Nat → Nat → List Nat
  | 0, _ => []
  | fuel + 1, n => if n < base then [n] else (n % base) :: digitsRev base fuel (n / base)

/-- The character of a digit below sixteen. -/
def digitChar (d : Nat) : CodePoint :=
  if h : d < 10 then ⟨0x30 + d, by omega⟩ else ⟨0x61 + (d - 10) % 6, by omega⟩

/-- A number written in a base up to sixteen; halving shows that its bit length bounds the
digits it needs. -/
def ofNatBase (base n : Nat) : Text :=
  (digitsRev base (n.log2 + 1) n).reverse.map digitChar

/-- The decimal numeral of a natural number. -/
def ofNat (n : Nat) : Text :=
  ofNatBase 10 n

/-- The decimal numeral of an integer, with a hyphen before a negative one. -/
def ofInt : Int → Text
  | .ofNat n => ofNat n
  | .negSucc n => CodePoint.ofChar '-' :: ofNat (n + 1)

/-- At least `width` digits, with zeros in front. -/
def padZeros (width : Nat) (digits : Text) : Text :=
  List.replicate (width - digits.length) (CodePoint.ofChar '0') ++ digits

/-- The texts with a separator between neighbours. -/
def joinWith (sep : Text) : List Text → Text
  | [] => []
  | [t] => t
  | t :: rest => t ++ sep ++ joinWith sep rest

/-- Order by the first code point that differs; a text comes after its beginnings. -/
def le : Text → Text → Bool
  | [], _ => true
  | _ :: _, [] => false
  | a :: s, b :: t => if a.value = b.value then le s t else decide (a.value < b.value)

/-- The texts in ascending order. -/
def sorted (texts : List Text) : List Text :=
  texts.mergeSort le

def asciiUpper (t : Text) : Text :=
  t.map CodePoint.asciiUpper

def asciiLower (t : Text) : Text :=
  t.map CodePoint.asciiLower

def spaces (n : Nat) : Text :=
  List.replicate n (CodePoint.ofChar ' ')

end Text

end RuleGrammar
