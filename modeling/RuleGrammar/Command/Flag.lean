import RuleGrammar.Number.Numeral

/-! Words of a command line. A word that starts with a hyphen is a flag, with a value of its own
or of the next word, several flags in one, or, if it looks like a number or holds a space, no
flag after all. Long spellings may be cut short as long as they are unambiguous. What follows a
flag in its word, after an equals sign or not, is its value, or further flags if it takes none. -/

namespace RuleGrammar.Command

/-- What can be switched on or given a value. -/
inductive Flag
  | help
  | debug
  | noAnchor
  | grammar
  | rule
  | maxDepth
  | text
  | input
deriving DecidableEq

/-- Why the words amount to no request: they ask for help, or they are misused. -/
inductive Stop
  | help
  | misuse
deriving DecidableEq

namespace Flag

def takesValue : Flag → Bool
  | help | debug | noAnchor => false
  | grammar | rule | maxDepth | text | input => true

end Flag

/-- The spellings of the flags of a command. -/
abbrev Spellings := List (Text × Flag)

/-- A word read on its own. A flag is spelled with a letter or in full, and the word may bring
more along for it. -/
inductive Word
  | plain
  | flagged (flag : Flag) (isLong : Bool) (attached : Option Text)
  | unknown
  | ambiguous

/-- A hyphen. -/
def hyphen : CodePoint := CodePoint.ofChar '-'

/-- An equals sign. -/
def equals : CodePoint := CodePoint.ofChar '='

namespace Spellings

def find? (spellings : Spellings) (spelling : Text) : Option Flag :=
  (List.find? (fun row => row.1 = spelling) spellings).map (·.2)

/-- The flags whose spelling starts with a text. -/
def startingWith (spellings : Spellings) (start : Text) : List Flag :=
  (spellings.filter fun row => start.isPrefixOf row.1).map (·.2)

end Spellings

namespace Word

/-- A word up to its first equals sign, and what follows it. -/
def splitAtEquals (word : Text) : Text × Option Text :=
  match word.dropWhile (· ≠ equals) with
  | [] => (word, none)
  | _ :: value => (word.takeWhile (· ≠ equals), some value)

/-- Digits, or digits around a point with at least one after it. One newline may follow. -/
def isUnsigned (t : Text) : Bool :=
  let t := if t.getLast? = some (CodePoint.ofChar '\n') then t.dropLast else t
  let isDigit (c : CodePoint) := c.decimalDigit?.isSome
  match t.dropWhile isDigit with
  | [] => !t.isEmpty
  | c :: fraction =>
      c = CodePoint.ofChar '.' && !fraction.isEmpty && fraction.all isDigit

/-- A word after a hyphen that no flag is spelled like. -/
def unflagged (rest : Text) : Word :=
  if isUnsigned rest || rest.contains (CodePoint.ofChar ' ') then .plain else .unknown

/-- A word with two hyphens: the one flag that starts so. -/
def long (spellings : Spellings) (word : Text) : Word :=
  let (start, value) := splitAtEquals word
  match spellings.startingWith start with
  | [flag] => .flagged flag true value
  | [] => unflagged word.tail
  | _ => .ambiguous

/-- A word with one hyphen: a flag of one letter, followed by letters. -/
def short (spellings : Spellings) (letter : CodePoint) (letters : Text) : Word :=
  match spellings.find? [hyphen, letter] with
  | some flag => .flagged flag false (some letters)
  | none => unflagged (letter :: letters)

/-- Reads a word on its own. A flag that is spelled out wins over all else. -/
def read (spellings : Spellings) (word : Text) : Word :=
  match word with
  | c :: letter :: letters =>
      if c = hyphen then
        let (spelling, value) := splitAtEquals word
        match spellings.find? word, spellings.find? spelling with
        | some flag, _ => .flagged flag (letter = hyphen) none
        | none, some flag => .flagged flag (letter = hyphen) value
        | none, none =>
            if letter = hyphen then long spellings word else short spellings letter letters
      else .plain
  | _ => .plain

end Word

/-- The flags of one word: those without a value, then perhaps one with a value of the word or of
the next one. -/
structure Cluster where
  bare : List Flag := []
  valued : Option (Flag × Option Text) := none

namespace Cluster

/-- A flag for which the word holds nothing more. -/
def ofFlag (flag : Flag) : Cluster :=
  if flag.takesValue then { valued := some (flag, none) } else { bare := [flag] }

/-- A flag of one letter and the text after it: its value, or the letters of more flags. -/
def ofLetters (spellings : Spellings) (flag : Flag) (attached : Text) : Except Stop Cluster :=
  if flag.takesValue then return { valued := some (flag, some attached) }
  else
    match attached with
    | [] => throw .misuse
    | letter :: letters =>
        match spellings.find? [hyphen, letter] with
        | none => throw .misuse
        | some next => do
            let more ← if letters.isEmpty then pure (ofFlag next)
              else ofLetters spellings next letters
            return { more with bare := flag :: more.bare }

/-- The flags of a word. A flag that is spelled in full stands alone. -/
def read (spellings : Spellings) (flag : Flag) (isLong : Bool)
    : Option Text → Except Stop Cluster
  | none => return ofFlag flag
  | some attached =>
      if isLong && !flag.takesValue then throw .misuse else ofLetters spellings flag attached

end Cluster

end RuleGrammar.Command
