import RuleGrammar.Grammar.Error
import RuleGrammar.Text.Place

/-! What can be wrong with grammar notation, and how it is reported. -/

namespace RuleGrammar.Notation

/-- What the reader misses or refuses where its cursor stands. -/
inductive Cause
  | expected (literal : Text)
  | expectedIdentifier
  | invalidHexDigit
  | unterminatedEscape
  | unterminatedString
  | unterminatedClass
  | escapeEndsRange
  | expectedProperty
  | expectedClass
  | expectedGrammar
  | unknownParent (name : Name)
  | unclosedGrammar (name : Name)
  | duplicateGrammar (name : Name)
  | noGrammar
  | expectedRule (word : Name)
  | expectedKind (word : Name)
  | unterminatedTag
  | duplicateRule (name : Name)
  | goalWithoutOpener
  | expectedCount
  | expectedUpperBound
  | emptyCount (least most : Nat)
  | endOfGrammar
  | punctuation (c : CodePoint)
deriving DecidableEq

namespace Cause

def message : Cause → Text
  | expected literal => "expected " ++ literal.quoted
  | expectedIdentifier => "expected identifier"
  | invalidHexDigit => "invalid hex digit"
  | unterminatedEscape => "unterminated escape"
  | unterminatedString => "unterminated string"
  | unterminatedClass => "unterminated char class"
  | escapeEndsRange => "class escape cannot end a range"
  | expectedProperty => "expected Unicode property name"
  | expectedClass => "expected '[' or ':' in character class"
  | expectedGrammar => "expected 'grammar'"
  | unknownParent name => "unknown parent grammar '" ++ name ++ "'"
  | unclosedGrammar name => "unclosed grammar '" ++ name ++ "'"
  | duplicateGrammar name => "duplicate grammar '" ++ name ++ "'"
  | noGrammar => "no grammar declared"
  | expectedRule word => "expected rule declaration, got " ++ word.quoted
  | expectedKind word => "expected token, rule or regex, got " ++ word.quoted
  | unterminatedTag => "unterminated :sym<...>"
  | duplicateRule name => "duplicate rule '" ++ name ++ "'"
  | goalWithoutOpener => "'~' needs an atom before it"
  | expectedCount => "expected repetition count after '**'"
  | expectedUpperBound => "expected upper bound after '..'"
  | emptyCount least most =>
      "empty repetition range " ++ Text.ofNat least ++ ".." ++ Text.ofNat most
  | endOfGrammar => "unexpected end of grammar"
  | punctuation c =>
      "unquoted punctuation " ++ Text.quoted [c] ++ "; quote it or escape it with '\\'"

end Cause

/-- Why reading stopped: a cause at an offset, a numeral past the limit of digits, or a
declaration that the grammar cannot take. -/
inductive Fault
  | malformed (offset : Nat) (cause : Cause)
  | numeralTooLong
  | grammar (error : GrammarError)

/-- A refused source, with the place that its report names. -/
inductive Error
  | malformed (place : Place) (cause : Cause)
  | numeralTooLong
  | grammar (error : GrammarError)

/-- The index of the last newline in a text, or -1 if there is none. -/
def lastNewline (t : Text) : Int :=
  t.zipIdx.foldl (fun last entry => if entry.1 = CodePoint.ofChar '\n' then entry.2 else last) (-1)

/-- Where a cursor stands in a source: on the line after as many newlines as it has passed, and as
many columns behind the last of them. -/
def cursorPlace (source : Text) (offset : Nat) : Place where
  line := (source.take offset).count (CodePoint.ofChar '\n') + 1
  column := offset - (lastNewline (source.take offset) + 1) + 1

namespace Error

/-- The error that a fault in a source amounts to. -/
def ofFault (source : Text) : Fault → Error
  | .malformed offset cause => malformed (cursorPlace source offset) cause
  | .numeralTooLong => numeralTooLong
  | .grammar error => grammar error

def message : Error → Text
  | malformed place cause =>
      "grammar parse error at " ++ Text.ofNat place.line ++ ":" ++ Text.ofInt place.column
        ++ ": " ++ cause.message
  | numeralTooLong => "numeral too long"
  | grammar error => error.message

end Error

end RuleGrammar.Notation
