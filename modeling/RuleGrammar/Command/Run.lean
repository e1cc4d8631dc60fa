import RuleGrammar.Command.Files
import RuleGrammar.Command.Request
import RuleGrammar.Grammar.Program
import RuleGrammar.MatchTree.View
import RuleGrammar.Matcher.Parse

/-! The commands: `check` reads a grammar file and sums its grammars up, `parse` matches a text
and prints the tree. What goes wrong with a request is reported in lines of its own. -/

namespace RuleGrammar.Command

/-- Why a command ends without a report: a file that is no UTF-8, a path that no file can have, a
flag that was given nothing, a count of too many digits, or a class with an unknown property. -/
inductive Abort
  | undecodable
  | invalidPath
  | nothingGiven
  | numeralTooLong
  | charClass (fault : CharClass.Fault)
deriving DecidableEq

/-- Why a command goes no further: what is wrong was noted, and the command ends with a code, or
it ends without a report. -/
inductive Halt
  | refused (code : Nat)
  | aborted (abort : Abort)
deriving DecidableEq

/-- A step of a command. The state is the lines noted so far, which outlast a halt. -/
abbrev CommandM := EStateM Halt (List Text)

namespace CommandM

def note (lines : List Text) : CommandM Unit :=
  modify (· ++ lines)

def noteIf (debug : Bool) (lines : List Text) : CommandM Unit :=
  if debug then note lines else return ()

def refuse {α : Type} (code : Nat) (lines : List Text) : CommandM α := do
  note lines
  throw (.refused code)

def abort {α : Type} (abort : Abort) : CommandM α :=
  throw (.aborted abort)

end CommandM

open CommandM

/-- Reads a file as a text. -/
def readText (files : Files) (file : Text) : CommandM Text := do
  let path := Path.ofText file
  if path.text.any (·.value = 0) then abort .invalidPath
  else
    match files path with
    | .error error => refuse 2 ["[ERROR] " ++ error.message path]
    | .ok bytes =>
        match Text.ofFile? bytes with
        | some text => return text
        | none => abort .undecodable

/-- The report of a grammar file that is refused. -/
def grammarErrorLines (message : Text) : List Text :=
  ["[GRAMMAR ERROR]", message]

/-- Checks a grammar. -/
def validateNoting (debug : Bool) (grammar : Grammar) : CommandM Unit :=
  match grammar.validate with
  | .error error => refuse 2 (grammarErrorLines error.message)
  | .ok () =>
      noteIf debug ["[DEBUG] grammar " ++ grammar.name ++ " validated | rules="
        ++ Text.ofNat grammar.names.length]

/-- Reads the grammars of a file and checks them in order. -/
def loadGrammars (files : Files) (file : Text) (debug : Bool) : CommandM Grammars := do
  match Grammars.read [] (← readText files file) with
  | .error .numeralTooLong => abort .numeralTooLong
  | .error error => refuse 2 (grammarErrorLines error.message)
  | .ok grammars =>
      noteIf debug ["[DEBUG] grammars parsed | " ++ Text.joinWith ", " (grammars.map (·.1))]
      grammars.forM fun row => validateNoting debug row.2
      return grammars

/-! ### Checking -/

/-- A text filled up with spaces to a width. -/
def padRight (width : Nat) (t : Text) : Text :=
  t ++ Text.spaces (width - t.length)

/-- What a name stands for, in one line. -/
def entryLine (name : Name) (inherited : Text) : Entry → Text
  | .group group =>
      let tags := Text.joinWith ", " (group.alternatives.map fun r => r.tag.getD [])
      "  proto " ++ name ++ ": " ++ (if tags.isEmpty then ("(no alternatives)" : Text) else tags)
        ++ inherited
  | .rule rule => "  " ++ padRight 5 rule.kind.keyword ++ " " ++ name ++ inherited

/-- The rules of a grammar, one in a line. -/
def summaryLines (grammar : Grammar) : List Text :=
  let parent : Text := match grammar.parent? with
    | some parent => " is " ++ parent.name
    | none => []
  let entries := grammar.names.filterMap fun name =>
    (grammar.lookup name).map
      (entryLine name (if (grammar.own.find? name).isSome then [] else "  (inherited)"))
  [] :: ("[GRAMMAR] " ++ grammar.name ++ parent) :: entries

/-- The line that says that a grammar is in order. -/
def checkedLine (grammar : Grammar) : Text :=
  "[CHECK OK] grammar=" ++ grammar.name ++ " rules=" ++ Text.ofNat grammar.names.length

/-- Checks a file and answers with a line for each grammar in it. -/
def check (files : Files) (file : Text) (debug : Bool) : CommandM (List Text) := do
  let grammars ← loadGrammars files file debug
  noteIf debug (grammars.flatMap fun row => summaryLines row.2)
  return grammars.map fun row => checkedLine row.2

/-! ### Matching -/

/-- The grammar that is asked for. An empty name asks for the last one, as no name does. -/
def pickGrammar (grammars : Grammars) (name : Option Text) : Option Grammar :=
  match name with
  | none | some [] => grammars.main?
  | some name => grammars.find? name

/-- The report of a fault, or an abort. -/
def refuseFault {α : Type} (fault : Fault) : CommandM α :=
  let report (title : Text) : CommandM α :=
    refuse 2 ["[GRAMMAR ERROR] " ++ title ++ " " ++ fault.message]
  match fault with
  | .charClass fault => abort (.charClass fault)
  | .grammar (.unknownRule _ _) => report "UnknownRule"
  | .grammar _ => report "GrammarError"
  | .reentered _ _ | .tooDeep _ _ _ | .outOfRoom _ _ => report "StackExhausted"

namespace ParseRequest

/-- What was given, which must not be nothing. -/
def orNothingGiven {α : Type} : Given α → CommandM α
  | .value a => return a
  | .nothing => abort .nothingGiven

/-- The text to match, if there is one. -/
def text (files : Files) (request : ParseRequest) : CommandM (Given Text) := do
  match request.source with
  | .text given => return given
  | .file given => return .value (← readText files (← orNothingGiven given))

/-- The limit of nesting. -/
def limit (request : ParseRequest) : CommandM (Option Int) := do
  match request.maxDepth with
  | none => return none
  | some given => return some (← orNothingGiven given)

/-- Answers with the tree of the match. That the rule exists is found out before anything is
asked of the text and the limit. -/
def run (files : Files) (request : ParseRequest) : CommandM (List Text) := do
  let grammars ← loadGrammars files request.file request.debug
  match pickGrammar grammars request.grammar with
  | none =>
      refuse 2 ["[ERROR] no grammar named " ++ (request.grammar.getD []).quoted ++ " in "
        ++ request.file]
  | some grammar => do
      let given ← request.text files
      let rule ← orNothingGiven request.rule
      if let .error error := grammar.resolve rule then refuseFault (.grammar error)
      let subject := Subject.ofText (← orNothingGiven given)
      let config : MatchConfig := { maxDepth := ← request.limit, debug := request.debug }
      let result := RuleGrammar.run { grammar, subject, config } rule 0 request.anchored
      note result.state.trace.reverse
      match result.outcome with
      | .ok (.matched root) => return [root.dump subject fun _ => none]
      | .ok (.failed failure) => refuse 1 ["[PARSE FAILED]", failure.report subject]
      | .error fault => refuseFault fault

end ParseRequest

/-- What was printed as an answer and what was noted besides, in lines, and the code that the
command ended with. -/
structure Report where
  code : Nat
  answer : List Text
  notes : List Text

/-- The end of a command line. -/
inductive Ending
  | reported (report : Report)
  | stopped (stop : Stop)
  | aborted (abort : Abort)

/-- The end of a command. -/
def Ending.ofCommand (command : CommandM (List Text)) : Ending :=
  match command [] with
  | .ok answer notes => reported ⟨0, answer, notes⟩
  | .error (.refused code) notes => reported ⟨code, [], notes⟩
  | .error (.aborted abort) _ => aborted abort

namespace Request

/-- Does what is asked for. -/
def run (files : Files) : Request → CommandM (List Text)
  | check file debug => Command.check files file debug
  | parse request => request.run files

/-- The files that a request reads. -/
def paths : Request → List Path
  | check file _ => [Path.ofText file]
  | parse request =>
      match request.source with
      | .file (.value input) => [Path.ofText request.file, Path.ofText input]
      | _ => [Path.ofText request.file]

end Request

/-- Does what the words of a command line ask for. -/
def runWords (files : Files) (words : List Text) : Ending :=
  match Request.ofWords words with
  | .ok request => .ofCommand (request.run files)
  | .error stop => .stopped stop

end RuleGrammar.Command
