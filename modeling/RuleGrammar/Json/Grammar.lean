import RuleGrammar.Grammar.Basic

/-! JSON texts as a grammar, and the grammar derived from it that takes line comments for white
space. -/

namespace RuleGrammar.Json

/-- A literal. -/
def lit (text : String) : Expr :=
  .literal text

/-- A call captured under its own name. -/
def call (name : String) : Expr :=
  .reference name (some name)

/-- One of the code points from `lo` to `hi`. -/
def within (lo hi : Char) : Expr :=
  .charClass { ranges := [(lo, hi)] }

/-- One of the code points of a string. -/
def oneOf (chars : String) : Expr :=
  .charClass { singles := chars }

def optional (body : Expr) : Expr :=
  .repetition body 0 (some 1) none false

def many (body : Expr) : Expr :=
  .repetition body 0 none none false

def atLeastOne (body : Expr) : Expr :=
  .repetition body 1 none none false

/-- Any number of items with commas between them. -/
def commaSeparated (item : Expr) : Expr :=
  .repetition item 0 none (some (lit ",")) false

/-- An optional sign, an integer without leading zeros, a fraction and an exponent. -/
def numberBody : Expr :=
  .sequence
    [optional (lit "-"),
      .choice [lit "0", .sequence [within '1' '9', many (within '0' '9')]],
      optional (.sequence [lit ".", atLeastOne (within '0' '9')]),
      optional (.sequence
        [oneOf "eE", optional (oneOf "+-"), atLeastOne (within '0' '9')])]

/-- A run of string characters that need no escape. -/
def plainBody : Expr :=
  atLeastOne (.charClass
    { negated := true, ranges := [('\x00', '\x1f')], singles := "\"\\" })

/-- A backslash with one of eight characters, or with `u` and four hexadecimal digits. -/
def escapeBody : Expr :=
  .sequence
    [lit "\\",
      .choice
        [oneOf "\"\\/bfnrt",
          .sequence [lit "u", .repetition (call "xdigit") 4 (some 4) none false]]]

/-- A rule between whose parts white space is allowed. -/
def spaced (name : String) (expr : Expr) : Name × Entry :=
  (name, .rule { name := name, expr, kind := .rule })

def token (name : String) (expr : Expr) : Name × Entry :=
  (name, .rule { name := name, expr })

/-- An alternative of `value`. -/
def valueAs (tag : String) (expr : Expr) : Rule :=
  { name := "value", expr, tag := some tag }

/-- The seven kinds of value. -/
def value : ProtoGroup where
  name := "value"
  alternatives :=
    [valueAs "number" numberBody, valueAs "true" .sym, valueAs "false" .sym,
      valueAs "null" .sym, valueAs "object" (call "object"), valueAs "array" (call "array"),
      valueAs "string" (call "string")]

/-- JSON texts whose value is an object or an array. -/
def grammar : Grammar where
  own :=
    { name := "JSON"
      entries :=
        [spaced "TOP" (.sequence
            [.anchor .inputStart, .choice [call "object", call "array"], .anchor .inputEnd]),
          spaced "object" (.goal (lit "\x7b") (lit "\x7d") (call "pairlist")),
          spaced "pairlist" (commaSeparated (call "pair")),
          spaced "pair" (.sequence [call "string", lit ":", call "value"]),
          spaced "array" (.goal (lit "[") (lit "]") (call "arraylist")),
          spaced "arraylist" (commaSeparated (call "value")),
          token "ws" (many (Grammar.escapeClass .space)),
          ("value", .group value),
          token "string" (.goal (lit "\"") (lit "\"")
            (many (.choice [call "str", call "str_escape"]))),
          token "str" plainBody,
          token "str_escape" escapeBody] }

/-- White space and comments, which run from two slashes to the end of the line. -/
def commentSpace : Expr :=
  many (.choice
    [atLeastOne (Grammar.escapeClass .space),
      .sequence [lit "//", many (.charClass { negated := true, singles := "\n" })]])

/-- JSON with comments. -/
def commentedGrammar : Grammar where
  own := { name := "JSONC", entries := [token "ws" commentSpace] }
  ancestors := grammar.lineage

end RuleGrammar.Json
