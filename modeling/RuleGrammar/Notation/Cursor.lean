import RuleGrammar.Notation.Error
import RuleGrammar.Number.Numeral

/-! Reading grammar notation from the left. A cursor is the text left to read and its offset in
the source; a reader turns it into a result and the cursor after it, or stops with a fault. -/

namespace RuleGrammar.Notation

/-- How far reading has come. Reading past the end moves the offset but finds nothing. -/
structure Cursor where
  offset : Nat
  rest : Text

abbrev Reader := StateT Cursor (Except Fault)

/-- Moves past blanks and past comments, which run from `#` to the end of the line. -/
def Cursor.skip (inComment : Bool) (offset : Nat) : Text → Cursor
  | [] => ⟨offset, []⟩
  | c :: rest =>
      if inComment then Cursor.skip (c ≠ CodePoint.ofChar '\n') (offset + 1) rest
      else if c.isBlank then Cursor.skip false (offset + 1) rest
      else if c = CodePoint.ofChar '#' then Cursor.skip true (offset + 1) rest
      else ⟨offset, c :: rest⟩

namespace Reader

/-- Stops where the cursor stands. -/
def fail {α : Type} (cause : Cause) : Reader α :=
  fun cursor => .error (.malformed cursor.offset cause)

def skipBlank : Reader Unit :=
  fun cursor => .ok ((), Cursor.skip false cursor.offset cursor.rest)

def peek : Reader (Option CodePoint) :=
  fun cursor => .ok (cursor.rest.head?, cursor)

def bump (count : Nat) : Reader Unit :=
  fun cursor => .ok ((), ⟨cursor.offset + count, cursor.rest.drop count⟩)

/-- The next code point, passed over, or none at the end. -/
def next : Reader (Option CodePoint) :=
  fun cursor => .ok (cursor.rest.head?, ⟨cursor.offset + 1, cursor.rest.drop 1⟩)

/-- Bounds every loop: each round reads at least one code point. -/
def rounds : Reader Nat :=
  fun cursor => .ok (cursor.rest.length + 1, cursor)

/-- Whether a literal comes next. -/
def starts (literal : Text) : Reader Bool :=
  fun cursor => .ok (literal.isPrefixOf cursor.rest, cursor)

/-- Reads a literal after blanks, if it is there. -/
def tryEat (literal : Text) : Reader Bool := do
  skipBlank
  if ← starts literal then
    bump literal.length
    return true
  else
    return false

/-- Reads a literal after blanks. -/
def eat (literal : Text) : Reader Unit := do
  unless ← tryEat literal do
    fail (.expected literal)

/-- The longest run of code points that satisfy a test. -/
def span (test : CodePoint → Bool) : Reader Text :=
  fun cursor =>
    let run := cursor.rest.takeWhile test
    .ok (run, ⟨cursor.offset + run.length, cursor.rest.dropWhile test⟩)

/-- The identifier that stands right at the start of a text, empty if none does. -/
def identifierAt : Text → Text
  | [] => []
  | c :: rest =>
      if c.isIdentifierStart || c = CodePoint.ofChar '_' then
        c :: rest.takeWhile CodePoint.isIdentifierPart
      else []

/-- Reads an identifier after blanks, empty if none is there. -/
def identifier? : Reader Name := do
  skipBlank
  fun cursor => .ok (identifierAt cursor.rest, cursor)

/-- Reads an identifier after blanks. -/
def identifier : Reader Name := do
  let name ← identifier?
  if name.isEmpty then fail .expectedIdentifier
  else
    bump name.length
    return name

/-- Reads a given identifier after blanks, if it is there. -/
def keyword (word : Text) : Reader Bool := do
  let name ← identifier?
  if name = word then
    bump name.length
    return true
  else
    return false

/-- The further parts of a qualified name, each after a double colon. -/
def furtherParts : Nat → Reader (List Name)
  | 0 => return []
  | round + 1 => do
      if ← starts "::" then
        bump 2
        let part ← identifier
        return part :: (← furtherParts round)
      else
        return []

/-- A name of one or more identifiers with double colons between them. -/
def qualifiedName : Reader Name := do
  let first ← identifier
  let further ← furtherParts (← rounds)
  return Text.joinWith "::" (first :: further)

/-- The value of a hexadecimal digit just read. -/
def hexDigit (c : Option CodePoint) : Reader Nat :=
  match c.bind CodePoint.hexDigit? with
  | some d => return d
  | none => fail .invalidHexDigit

/-- Further hexadecimal digits, each checked when it has been read. -/
def hexDigits : Nat → Nat → Reader Nat
  | 0, value => return value
  | count + 1, value => do
      let d ← hexDigit (← next)
      hexDigits count (value * 16 + d)

/-- What a backslash stands for together with what follows it. The two digits after `x` are
both read before either is checked. -/
def escape : Reader CodePoint := do
  match ← peek with
  | none => fail .unterminatedEscape
  | some c =>
      bump 1
      if c = 'n' then return '\n'
      else if c = 'r' then return '\r'
      else if c = 't' then return '\t'
      else if c = 'x' then
        let high ← next
        let low ← next
        let high ← hexDigit high
        let low ← hexDigit low
        return (CodePoint.ofNat? (high * 16 + low)).getD default
      else if c = 'u' then
        return (CodePoint.ofNat? (← hexDigits 4 0)).getD default
      else return c

/-- A decimal numeral right at the cursor, or the given cause. -/
def numeral (missing : Cause) : Reader Nat := do
  let digits ← span CodePoint.isAsciiDigit
  if digits.isEmpty then fail missing
  else if Numeral.digitLimit < digits.length then throw .numeralTooLong
  else return Numeral.valueOf digits

end Reader

end RuleGrammar.Notation
