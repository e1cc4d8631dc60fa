import RuleGrammar.Notation.Document

/-! Reading under watch. The readers of grammar notation bound their loops and their nesting by the
text that is left, and go on as if nothing had happened should a bound be used up. Here notation is
read by the same steps, but reading breaks off with no answer at all as soon as it could run on:

- when sub-parsers nest deeper than the room that is given, of which each takes one unit,
- when a round of a loop, or a sub-parser inside an atom, starts without anything read since the
  round before it or since the atom started,
- when a sub-parser ends before the place where it started or past the end of the source.
-/

namespace RuleGrammar.Notation

/-- A reader under watch. It has no answer if reading could run on. -/
abbrev Watched := StateT Cursor (ExceptT Fault Option)

namespace Watched

open Reader

variable {α : Type}

-----------------------------------------------------------------------------------------
-- What is watched
-----------------------------------------------------------------------------------------

def broken : Watched α :=
  fun _ => (none : Option (Except Fault (α × Cursor)))

/-- A sub-parser, which has to end where it started or further on in the source. -/
def forward (inner : Watched α) : Watched α := fun cursor =>
  match (inner cursor : Option (Except Fault (α × Cursor))) with
  | some (.ok (a, after)) =>
      if cursor.offset ≤ after.offset ∧ after.offset ≤ cursor.offset + cursor.rest.length then
        some (.ok (a, after))
      else none
  | ended => ended

/-- A reader that calls no sub-parser. What it repeats, it repeats for one code point of the text after
the other, or a fixed number of times.
-/
def watch (reader : Reader α) : Watched α :=
  forward fun cursor => some (reader cursor)

/-- A sub-parser, if there is room for it. What it calls has one unit less. -/
def sub (inner : Nat → Watched α) : Nat → Watched α
  | 0 => broken
  | room + 1 => forward (inner room)

/-- Where the cursor stands. -/
def here : Watched Nat :=
  fun cursor => some (.ok (cursor.offset, cursor))

/-- What has to start further on than an offset. -/
def beyond (start : Nat) (inner : Watched α) : Watched α := fun cursor =>
  if start < cursor.offset then inner cursor else none

-----------------------------------------------------------------------------------------
-- Names, literals and classes
-----------------------------------------------------------------------------------------

def furtherParts : Nat → Watched (List Name)
  | 0 => broken
  | round + 1 => do
      let start ← here
      if ← watch (starts "::") then
        watch (bump 2)
        let part ← watch identifier
        return part :: (← beyond start (furtherParts round))
      else
        return []

def qualifiedName : Nat → Watched Name :=
  sub fun _ => do
    let first ← watch identifier
    let further ← furtherParts (← watch rounds)
    return Text.joinWith "::" (first :: further)

def literalRest (mark : CodePoint) : Nat → Watched Text
  | 0 => broken
  | round + 1 => do
      let start ← here
      match ← watch peek with
      | none => watch (fail .unterminatedString)
      | some c =>
          watch (bump 1)
          if c = mark then return []
          else if c = CodePoint.ofChar '\\' then
            let c ← watch escape
            return c :: (← beyond start (literalRest mark round))
          else
            return c :: (← beyond start (literalRest mark round))

/-- A literal after its opening mark. -/
def literal (mark : CodePoint) : Nat → Watched Text :=
  sub fun _ => do literalRest mark (← watch rounds)

def classItems : Nat → CharClass → Watched CharClass
  | 0, _ => broken
  | round + 1, cls => do
      let start ← here
      watch skipBlank
      match ← watch peek with
      | none => watch (fail .unterminatedClass)
      | some c =>
          if c = CodePoint.ofChar ']' then
            watch (bump 1)
            return cls
          else
            match ← watch classItem with
            | .escape e =>
                beyond start (classItems round { cls with escapes := cls.escapes ++ [e] })
            | .point a =>
                if ← watch (tryEat "..") then
                  watch skipBlank
                  match ← watch classItem with
                  | .escape _ => watch (fail .escapeEndsRange)
                  | .point b =>
                      beyond start
                        (classItems round { cls with ranges := cls.ranges ++ [orderedRange a b] })
                else
                  beyond start (classItems round { cls with singles := cls.singles ++ [a] })

/-- A bracketed class after its opening bracket. -/
def bracketed : Nat → Watched CharClass :=
  sub fun _ => do classItems (← watch rounds) {}

def classTerm : Nat → Watched CharClass :=
  sub fun room => do
    if ← watch (tryEat "[") then bracketed room
    else if ← watch (tryEat ":") then return { props := [← watch propertyName] }
    else watch (fail .expectedClass)

def classTerms (room : Nat) : Nat → CharClass → Watched CharClass
  | 0, _ => broken
  | round + 1, cls => do
      let start ← here
      if ← watch (tryEat "+") then
        let more ← classTerm room
        beyond start (classTerms room round (cls.union more))
      else
        return cls

def classExpr : Nat → Watched Expr :=
  sub fun room => do
    let negated ← watch (tryEat "-")
    let _ ← watch (tryEat "+")
    let first ← classTerm room
    let cls ← classTerms room (← watch rounds) first
    watch (eat ">")
    return .charClass { cls with negated }

-----------------------------------------------------------------------------------------
-- Parts of bodies, given the sub-parsers of what they hold
-----------------------------------------------------------------------------------------

def furtherAlternatives (mark : Reader Bool) (alternative : Watched Expr)
    : Nat → Watched (List Expr)
  | 0 => broken
  | round + 1 => do
      let start ← here
      if ← watch mark then
        let next ← alternative
        return next :: (← beyond start (furtherAlternatives mark alternative round))
      else
        return []

def alternatives (mark : Reader Bool) (alternative : Watched Expr) : Watched (List Expr) := do
  let _ ← watch mark
  let first ← alternative
  return first :: (← furtherAlternatives mark alternative (← watch rounds))

def sequenceItems (item : Watched Expr) : Nat → List Expr → Watched (List Expr)
  | 0, _ => broken
  | round + 1, items => do
      let start ← here
      watch skipBlank
      match ← watch peek with
      | none => return items
      | some c =>
          if endsSequence c then return items
          else if c = CodePoint.ofChar '~' then
            watch (bump 1)
            match items with
            | [] => watch (fail .goalWithoutOpener)
            | opener :: earlier =>
                let closer ← item
                let body ← item
                beyond start (sequenceItems item round (.goal opener closer body :: earlier))
          else
            let next ← item
            beyond start (sequenceItems item round (next :: items))

/-- A quantifier and a separator after an atom. -/
def quantify (atom : Watched Expr) (body : Expr) : Watched Expr := do
  match ← watch quantifier with
  | none => return body
  | some (least, most) =>
      if ← watch (tryEat "%%") then return .repetition body least most (some (← atom)) true
      else if ← watch (tryEat "%") then return .repetition body least most (some (← atom)) false
      else return .repetition body least most none false

def lookaheadRest (choice : Watched Expr) (negated : Bool) : Watched Expr := do
  let body ← choice
  watch (eat ">")
  return .lookahead body negated

def signedLookahead (choice : Watched Expr) (negated : Bool) : Watched Expr := do
  if ← watch (keyword "before") then lookaheadRest choice negated
  else
    let name ← watch identifier
    watch (eat ">")
    return .lookahead (.reference name none) negated

def aliased (name : Name) : Watched Expr := do
  if ← watch (tryEat "=") then
    let _ ← watch (tryEat ".")
    let target ← watch identifier
    watch (eat ">")
    return .reference target (some name)
  else
    watch (eat ">")
    return .reference name (some name)

def namedAssertion (choice : Watched Expr) : Watched Expr := do
  let name ← watch identifier
  if name = Text.ofString "before" then lookaheadRest choice false
  else if name = Text.ofString "sym" then
    if ← watch (tryEat ">") then return .sym else aliased name
  else aliased name

def namedCapture (atom : Watched Expr) : Watched Expr := do
  let name ← watch identifier
  watch (eat ">")
  watch (eat "=")
  match ← atom with
  | .reference target _ => return .reference target (some name)
  | body => return .capture body (some name)

-----------------------------------------------------------------------------------------
-- Bodies
-----------------------------------------------------------------------------------------

mutual

/-- An ordered choice. -/
def choice : Nat → Watched Expr
  | 0 => broken
  | room + 1 => forward do
      return choiceOf (← alternatives tryBar (longest room))

def longest : Nat → Watched Expr
  | 0 => broken
  | room + 1 => forward do
      return longestOf (← alternatives (tryEat "||") (sequence room))

def sequence : Nat → Watched Expr
  | 0 => broken
  | room + 1 => forward do
      let items ← sequenceItems (quantified room) (← watch rounds) []
      return sequenceOf items.reverse

def quantified : Nat → Watched Expr
  | 0 => broken
  | room + 1 => forward do
      let body ← atom room
      quantify (atom room) body

def atom : Nat → Watched Expr
  | 0 => broken
  | room + 1 => forward do
      let start ← here
      watch skipBlank
      match ← watch peek with
      | none => watch (fail .endOfGrammar)
      | some c =>
          if c = '\'' || c = '"' then
            watch (bump 1)
            return .literal (← literal c room)
          else if c = '[' then
            watch (bump 1)
            let body ← beyond start (choice room)
            watch (eat "]")
            return body
          else if c = '(' then
            watch (bump 1)
            let body ← beyond start (choice room)
            watch (eat ")")
            return .capture body none
          else if ← watch (starts "$<") then
            watch (bump 2)
            namedCapture (beyond start (atom room))
          else if c = '$' then
            watch (bump 1)
            return .anchor .inputEnd
          else if c = '^' then
            watch (bump 1)
            return .anchor .inputStart
          else if c = '.' then
            watch (bump 1)
            return .anyChar
          else if c = '\\' then
            watch (bump 1)
            watch backslashAtom
          else if c = '<' then
            watch (bump 1)
            beyond start (assertion room)
          else watch (wordAtom c)

/-- What follows an opening angle bracket. -/
def assertion : Nat → Watched Expr
  | 0 => broken
  | room + 1 => forward do
      watch skipBlank
      let c ← watch peek
      if c = some '[' || c = some '-' || c = some '+' || c = some ':' then classExpr room
      else if c = some '!' || c = some '?' then
        watch (bump 1)
        signedLookahead (choice room) (c = some '!')
      else if ← watch (tryEat ".") then
        let name ← watch identifier
        watch (eat ">")
        return .reference name none
      else namedAssertion (choice room)

end

-----------------------------------------------------------------------------------------
-- Declarations
-----------------------------------------------------------------------------------------

def ruleDeclaration (layer : Layer) (kind : RuleKind) (room : Nat) : Watched Layer := do
  let name ← watch identifier
  let tag ← watch ruleTag
  watch (eat "\x7b")
  let expr ← choice room
  watch (eat "\x7d")
  watch <| match tag, layer.find? name with
    | none, some (.rule _) => fail (.duplicateRule name)
    | _, _ =>
        match layer.register name { name, expr, kind, tag } with
        | .ok (_, layer) => return layer
        | .error error => throw (.grammar error)

def declaration (layer : Layer) : Nat → Watched Layer :=
  sub fun room => do
    let word ← watch identifier
    if word = Text.ofString "proto" then watch (protoDeclaration layer)
    else
      match RuleKind.ofKeyword? word with
      | some kind => ruleDeclaration layer kind room
      | none => watch (fail (.expectedRule word))

def declarations (room : Nat) : Nat → Layer → Watched Layer
  | 0, _ => broken
  | round + 1, layer => do
      let start ← here
      if ← watch (tryEat "\x7d") then return layer
      else if (← watch peek).isNone then watch (fail (.unclosedGrammar layer.name))
      else
        let layer ← declaration layer room
        beyond start (declarations room round layer)

def parentName (known : List Name) (room : Nat) : Watched (Option Name) := do
  if ← watch (keyword "is") then
    let name ← qualifiedName room
    if known.contains name then return some name
    else watch (fail (.unknownParent name))
  else
    return none

def grammarDeclaration (known declared : List Name) (room : Nat) : Watched Declaration := do
  unless ← watch (keyword "grammar") do
    watch (fail .expectedGrammar)
  let name ← qualifiedName room
  let parent ← parentName (known ++ declared) room
  watch (eat "\x7b")
  let layer ← declarations room (← watch rounds) { name }
  let _ ← watch (tryEat ";")
  if declared.contains name then watch (fail (.duplicateGrammar name))
  else return { parent, layer }

def grammarDeclarations (known : List Name) (room : Nat)
    : Nat → List Declaration → Watched (List Declaration)
  | 0, _ => broken
  | round + 1, read => do
      let start ← here
      watch skipBlank
      if (← watch peek).isNone then return read
      else
        let next ← grammarDeclaration known (read.map Declaration.name) room
        beyond start (grammarDeclarations known room round (read ++ [next]))

/-- The grammars that a source declares. -/
def document (known : List Name) : Nat → Watched (List Declaration) :=
  sub fun room => do
    let read ← grammarDeclarations known room (← watch rounds) []
    if read.isEmpty then watch (fail .noGrammar)
    else return read

end Watched

end RuleGrammar.Notation
