import RuleGrammar.Grammar.Basic
import RuleGrammar.Notation.Body

/-! Expressions in notation, with brackets around every operand, so that no reader regroups
them. -/

namespace RuleGrammar

open Notation

-----------------------------------------------------------------------------------------
-- Literals and classes
-----------------------------------------------------------------------------------------

def bracketed (t : Text) : Text :=
  "[" ++ t ++ "]"

/-- A code point between single quotes: the quote and the backslash take a backslash. -/
def literalPoint (c : CodePoint) : Text :=
  if c = '\'' || c = '\\' then [CodePoint.ofChar '\\', c] else [c]

/-- Whether a backslash changes what a letter stands for, in a class or elsewhere. -/
def isEscapeLetter (c : CodePoint) : Bool :=
  ("nrtxudwsh" : Text).contains c

/-- A code point of a class: all but those letters take a backslash. -/
def classPoint (c : CodePoint) : Text :=
  if isEscapeLetter c then [c] else [CodePoint.ofChar '\\', c]

def classRange (range : CodePoint × CodePoint) : Text :=
  classPoint range.1 ++ ".." ++ classPoint range.2

def classEscape (e : ClassEscape) : Text :=
  [CodePoint.ofChar '\\', e.letter]

def classProperty (prop : Name) : Text :=
  "+:" ++ prop

/-- What a class lists between its brackets. -/
def CharClass.items (cls : CharClass) : Text :=
  cls.ranges.flatMap classRange ++ cls.singles.flatMap classPoint ++ cls.escapes.flatMap classEscape

/-- A class: its items between brackets, and its properties added to them. -/
def CharClass.written (cls : CharClass) : Text :=
  "<" ++ (if cls.negated then ("-" : Text) else []) ++ bracketed cls.items
    ++ cls.props.flatMap classProperty ++ ">"

-----------------------------------------------------------------------------------------
-- Expressions
-----------------------------------------------------------------------------------------

/-- An upper bound, or the mark that there is none. -/
def writtenBound : Option Nat → Text
  | none => "*"
  | some n => Text.ofNat n

namespace Expr

mutual

/-- An expression in notation, with brackets around its operands. -/
def written : Expr → Text
  | literal text => "'" ++ text.flatMap literalPoint ++ "'"
  | charClass cls => cls.written
  | anyChar => "."
  | anchor a => a.mark
  | reference rule none => "<." ++ rule ++ ">"
  | reference rule (some name) => "$<" ++ name ++ ">=<." ++ rule ++ ">"
  | sym => "<sym>"
  | lookahead body negated =>
      (if negated then "<!before " else "<?before ") ++ bracketed body.written ++ ">"
  | repetition body min max sep trailing =>
      bracketed body.written ++ " ** " ++ Text.ofNat min ++ ".." ++ writtenBound max
        ++ writtenSeparator trailing sep
  | sequence items => Text.joinWith " " (operands items)
  | choice alternatives => Text.joinWith " | " (operands alternatives)
  | longest alternatives => Text.joinWith " || " (operands alternatives)
  | goal opener closer body =>
      bracketed opener.written ++ " ~ " ++ bracketed closer.written ++ " " ++ bracketed body.written
  | capture body none => "(" ++ bracketed body.written ++ ")"
  | capture body (some name) => "$<" ++ name ++ ">=" ++ bracketed body.written

def writtenSeparator (trailing : Bool) : Option Expr → Text
  | none => []
  | some sep => (if trailing then " %% " else " % ") ++ bracketed sep.written

def operands : List Expr → List Text
  | [] => []
  | e :: rest => bracketed e.written :: operands rest

end

end Expr

/-- A grammar of one token with the expression for its body. -/
def Expr.tokenSource (e : Expr) : Text :=
  "grammar G \x7b token t \x7b " ++ e.written ++ " \x7d \x7d"

/-- The grammar that such a source declares. -/
def Expr.tokenGrammar (e : Expr) : Grammar :=
  ⟨{ name := "G", entries := [("t", .rule { name := "t", expr := e })] }, []⟩

end RuleGrammar
