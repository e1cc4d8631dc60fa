import RuleGrammar.Action.Value
import RuleGrammar.Expr
import RuleGrammar.Number.Double

/-! The syntax of JSON texts as trees. A tree holds every choice that a text makes: how numbers and
strings are spelled and what stands in each gap between tokens. It has a text, and a value.
-/

namespace RuleGrammar.Json

-----------------------------------------------------------------------------------------
-- Gaps
-----------------------------------------------------------------------------------------

/-- Which texts may stand between tokens, and which may stand at the end. -/
structure Spacing where
  inner : Text → Prop
  final : Text → Prop

/-- Only white space, everywhere. -/
def whiteSpace : Spacing where
  inner t := ∀ c ∈ t, c.isWhiteSpace = true
  final t := ∀ c ∈ t, c.isWhiteSpace = true

/-- A text between two tokens. -/
abbrev Gap (spacing : Spacing) : Type :=
  {t : Text // spacing.inner t}

/-- A text behind the last token. -/
abbrev LastGap (spacing : Spacing) : Type :=
  {t : Text // spacing.final t}

-----------------------------------------------------------------------------------------
-- Numbers
-----------------------------------------------------------------------------------------

abbrev Digit : Type :=
  {c : CodePoint // c.isAsciiDigit = true}

/-- One digit or more. -/
structure Digits where
  first : Digit
  rest : List Digit

def Digits.text (digits : Digits) : Text :=
  digits.first.val :: digits.rest.map Subtype.val

/-- The digits before the point: a zero, or digits that do not start with one. -/
inductive Whole
  | zero
  | positive (first : {c : CodePoint // c.isAsciiDigit = true ∧ c ≠ '0'}) (rest : List Digit)

def Whole.text : Whole → Text
  | zero => "0"
  | positive first rest => first.val :: rest.map Subtype.val

structure Exponent where
  mark : {c : CodePoint // c = 'e' ∨ c = 'E'}
  sign : Option {c : CodePoint // c = '+' ∨ c = '-'}
  digits : Digits

namespace Exponent

def signText (e : Exponent) : Text :=
  e.sign.elim [] fun sign => [sign.val]

def text (e : Exponent) : Text :=
  e.mark.val :: (e.signText ++ e.digits.text)

def value (e : Exponent) : Int :=
  let n : Int := Numeral.valueOf e.digits.text
  if e.signText = "-" then -n else n

end Exponent

structure Number where
  negative : Bool
  whole : Whole
  fraction : Option Digits
  exponent : Option Exponent

namespace Number

def signText (n : Number) : Text :=
  if n.negative then "-" else []

/-- The digits behind the point. -/
def fractionDigits (n : Number) : Text :=
  n.fraction.elim [] Digits.text

def fractionText (n : Number) : Text :=
  n.fraction.elim [] fun digits => CodePoint.ofChar '.' :: digits.text

def exponentText (n : Number) : Text :=
  n.exponent.elim [] Exponent.text

def text (n : Number) : Text :=
  n.signText ++ n.whole.text ++ n.fractionText ++ n.exponentText

/-- A number without fraction and exponent is an integer. -/
def isInteger (n : Number) : Bool :=
  n.fraction.isNone && n.exponent.isNone

/-- An integer is read exactly, any other number as the double nearest to its decimal value. -/
def value (n : Number) : Value :=
  if n.isInteger then
    let whole : Int := Numeral.valueOf n.whole.text
    .int (if n.negative then -whole else whole)
  else
    .float (.ofDecimal n.negative (Numeral.valueOf (n.whole.text ++ n.fractionDigits))
      (n.exponent.elim 0 Exponent.value - n.fractionDigits.length))

/-- What numbers are written with. -/
def IsMark (c : CodePoint) : Prop :=
  c.isAsciiDigit = true ∨ c ∈ Text.ofString "+-.eE"

theorem isMark_digits (digits : List Digit) {c : CodePoint}
    (member : c ∈ digits.map Subtype.val)
    : IsMark c := by
  obtain ⟨digit, -, rfl⟩ := List.mem_map.mp member
  exact Or.inl digit.property

theorem isMark_whole (whole : Whole) : ∀ c ∈ whole.text, IsMark c := by
  intro c member
  cases whole with
  | zero =>
      obtain rfl := List.mem_singleton.mp member
      exact Or.inl rfl
  | positive first rest =>
      rcases List.mem_cons.mp member with rfl | later
      · exact Or.inl first.property.1
      · exact isMark_digits rest later

theorem isMark_exponent (e : Exponent) : ∀ c ∈ e.text, IsMark c := by
  intro c member
  rcases List.mem_cons.mp member with rfl | later
  · rcases e.mark.property with same | same <;> rw [same] <;> exact Or.inr (by decide)
  · rcases List.mem_append.mp later with sign | digits
    · cases signed : e.sign with
      | none =>
          rw [Exponent.signText, signed] at sign
          cases sign
      | some mark =>
          rw [Exponent.signText, signed] at sign
          obtain rfl := List.mem_singleton.mp sign
          rcases mark.property with same | same <;> rw [same] <;> exact Or.inr (by decide)
    · exact isMark_digits (e.digits.first :: e.digits.rest) digits

theorem isMark_text (n : Number) : ∀ c ∈ n.text, IsMark c := by
  intro c member
  simp only [text, List.mem_append] at member
  rcases member with ((sign | whole) | fraction) | exponent
  · rw [signText] at sign
    split at sign
    · obtain rfl := List.mem_singleton.mp sign
      exact Or.inr (by decide)
    · cases sign
  · exact isMark_whole n.whole c whole
  · rw [fractionText] at fraction
    cases fractional : n.fraction with
    | none =>
        rw [fractional] at fraction
        cases fraction
    | some digits =>
        rw [fractional] at fraction
        rcases List.mem_cons.mp fraction with rfl | later
        · exact Or.inr (by decide)
        · exact isMark_digits (digits.first :: digits.rest) later
  · rw [exponentText] at exponent
    cases exponential : n.exponent with
    | none =>
        rw [exponential] at exponent
        cases exponent
    | some e =>
        rw [exponential] at exponent
        exact isMark_exponent e c exponent

/-- Integers are read from a limited number of digits only. -/
def IsReadable (n : Number) : Prop :=
  n.isInteger = true → n.whole.text.length ≤ Numeral.digitLimit

end Number

-----------------------------------------------------------------------------------------
-- Strings
-----------------------------------------------------------------------------------------

/-- Whether a code point may stand in a string as it is: neither a control nor one of the two
marks of strings.
-/
def isPlain (c : CodePoint) : Bool :=
  0x20 ≤ c.value && c != '"' && c != '\\'

abbrev Plain : Type :=
  {c : CodePoint // isPlain c = true}

abbrev HexDigit : Type :=
  {c : CodePoint // c.hexDigit?.isSome = true}

def HexDigit.value (d : HexDigit) : Nat :=
  d.val.hexDigit?.get d.property

theorem HexDigit.value_lt (d : HexDigit) : d.value < 16 := by
  have digit {c : CodePoint} {n : Nat} (read : c.hexDigit? = some n) : n < 16 := by
    unfold CodePoint.hexDigit? at read
    simp only [CodePoint.isAsciiDigit] at read
    grind
  exact digit (Option.some_get d.property).symm

/-- The escapes of one letter or mark behind the backslash. -/
inductive ShortEscape
  | quote
  | backslash
  | slash
  | backspace
  | formFeed
  | newline
  | carriageReturn
  | tab

namespace ShortEscape

def mark : ShortEscape → Char
  | quote => '"'
  | backslash => '\\'
  | slash => '/'
  | backspace => 'b'
  | formFeed => 'f'
  | newline => 'n'
  | carriageReturn => 'r'
  | tab => 't'

def value : ShortEscape → Char
  | quote => '"'
  | backslash => '\\'
  | slash => '/'
  | backspace => '\x08'
  | formFeed => '\x0c'
  | newline => '\n'
  | carriageReturn => '\r'
  | tab => '\t'

end ShortEscape

/-- An escape stands for one code point. Four hexadecimal digits may stand for a surrogate, which
is not joined with another one.
-/
inductive Escape
  | short (escape : ShortEscape)
  | hex (a b c d : HexDigit)

namespace Escape

def text : Escape → Text
  | short escape => ['\\', escape.mark]
  | hex a b c d => ['\\', 'u', a.val, b.val, c.val, d.val]

def value : Escape → CodePoint
  | short escape => escape.value
  | hex a b c d =>
      ⟨((a.value * 16 + b.value) * 16 + c.value) * 16 + d.value, by
        have := a.value_lt
        have := b.value_lt
        have := c.value_lt
        have := d.value_lt
        omega⟩

end Escape

/-- What a string writes for one code point: that code point or an escape. -/
inductive Piece
  | plain (c : Plain)
  | escape (e : Escape)

namespace Piece

def text : Piece → Text
  | plain c => [c.val]
  | escape e => e.text

def value : Piece → CodePoint
  | plain c => c.val
  | escape e => e.value

end Piece

def quote : Text :=
  "\""

def piecesText (pieces : List Piece) : Text :=
  pieces.flatMap Piece.text

def stringText (pieces : List Piece) : Text :=
  quote ++ piecesText pieces ++ quote

def stringValue (pieces : List Piece) : Text :=
  pieces.map Piece.value

-----------------------------------------------------------------------------------------
-- Trees
-----------------------------------------------------------------------------------------

/-- The two kinds of values that hold others. -/
inductive Kind
  | array
  | object

namespace Kind

def opener : Kind → Text
  | array => "["
  | object => "\x7b"

def closer : Kind → Text
  | array => "]"
  | object => "\x7d"

end Kind

mutual

/-- A value. -/
inductive Tree (spacing : Spacing)
  | null
  | bool (b : Bool)
  | number (n : Number)
  | string (pieces : List Piece)
  | container (kind : Kind) (content : Content spacing kind)

/-- What stands between two brackets: a gap, or entries with gaps around them. -/
inductive Content (spacing : Spacing) : Kind → Type
  | empty {kind : Kind} (gap : Gap spacing) : Content spacing kind
  | filled {kind : Kind} (before : Gap spacing) (chain : Chain spacing kind)
    (after : Gap spacing)
    : Content spacing kind

/-- One entry or more, with a comma and gaps between two of them. -/
inductive Chain (spacing : Spacing) : Kind → Type
  | last {kind : Kind} (entry : Entry spacing kind) : Chain spacing kind
  | more {kind : Kind} (entry : Entry spacing kind) (before after : Gap spacing)
    (rest : Chain spacing kind)
    : Chain spacing kind

/-- An entry of an array is a value, and one of an object is a key and a value. -/
inductive Entry (spacing : Spacing) : Kind → Type
  | item (value : Tree spacing) : Entry spacing .array
  | pair (key : List Piece) (before after : Gap spacing) (value : Tree spacing)
    : Entry spacing .object

end

variable {spacing : Spacing}

mutual

def Tree.text : Tree spacing → Text
  | .null => "null"
  | .bool true => "true"
  | .bool false => "false"
  | .number n => n.text
  | .string pieces => stringText pieces
  | .container kind content => kind.opener ++ content.text ++ kind.closer

def Content.text {kind : Kind} : Content spacing kind → Text
  | .empty gap => gap.val
  | .filled before chain after => before.val ++ chain.text ++ after.val

def Chain.text {kind : Kind} : Chain spacing kind → Text
  | .last entry => entry.text
  | .more entry before after rest => entry.text ++ (before.val ++ "," ++ after.val) ++ rest.text

def Entry.text {kind : Kind} : Entry spacing kind → Text
  | .item value => value.text
  | .pair key before after value =>
      stringText key ++ (before.val ++ ":" ++ after.val) ++ value.text

end

/-- The value that comes last under a key. -/
def lastUnder (key : Text) (entries : List (Text × Value)) : Value :=
  ((entries.reverse.find? (·.1 = key)).map Prod.snd).getD .null

/-- The dictionary of some entries: each key once, where it first came, with its last value. -/
def dictionary (entries : List (Text × Value)) : Value :=
  .dict ((Expr.distinct (entries.map Prod.fst)).map fun key =>
    (.text key, lastUnder key entries))

/-- The value of some entries in a kind of brackets. -/
def Kind.value (entries : List (Text × Value)) : Kind → Value
  | array => .list (entries.map Prod.snd)
  | object => dictionary entries

mutual

def Tree.value : Tree spacing → Value
  | .null => .null
  | .bool b => .bool b
  | .number n => n.value
  | .string pieces => .text (stringValue pieces)
  | .container kind content => kind.value content.entries

/-- The entries of an array or object in order; those of an array have an empty key. -/
def Content.entries {kind : Kind} : Content spacing kind → List (Text × Value)
  | .empty _ => []
  | .filled _ chain _ => chain.entries

def Chain.entries {kind : Kind} : Chain spacing kind → List (Text × Value)
  | .last entry => [(entry.key, entry.value)]
  | .more entry _ _ rest => (entry.key, entry.value) :: rest.entries

def Entry.key {kind : Kind} : Entry spacing kind → Text
  | .item _ => []
  | .pair key _ _ _ => stringValue key

def Entry.value {kind : Kind} : Entry spacing kind → Value
  | .item value => value.value
  | .pair _ _ _ value => value.value

end

mutual

/-- A tree whose integers are all short enough to be read. -/
def Tree.IsReadable : Tree spacing → Prop
  | .null | .bool _ | .string _ => True
  | .number n => n.IsReadable
  | .container _ content => content.IsReadable

def Content.IsReadable {kind : Kind} : Content spacing kind → Prop
  | .empty _ => True
  | .filled _ chain _ => chain.IsReadable

def Chain.IsReadable {kind : Kind} : Chain spacing kind → Prop
  | .last entry => entry.IsReadable
  | .more entry _ _ rest => entry.IsReadable ∧ rest.IsReadable

def Entry.IsReadable {kind : Kind} : Entry spacing kind → Prop
  | .item value => value.IsReadable
  | .pair _ _ _ value => value.IsReadable

end

/-- A whole text: an array or an object with gaps around it. -/
structure Document (spacing : Spacing) where
  before : Gap spacing
  kind : Kind
  content : Content spacing kind
  after : LastGap spacing

namespace Document

/-- The array or object of a document. -/
def tree (d : Document spacing) : Tree spacing :=
  .container d.kind d.content

def text (d : Document spacing) : Text :=
  d.before.val ++ d.tree.text ++ d.after.val

def value (d : Document spacing) : Value :=
  d.tree.value

def IsReadable (d : Document spacing) : Prop :=
  d.tree.IsReadable

end Document

/-- A text that some document has. -/
def IsText (spacing : Spacing) (t : Text) : Prop :=
  ∃ d : Document spacing, d.text = t

end RuleGrammar.Json
