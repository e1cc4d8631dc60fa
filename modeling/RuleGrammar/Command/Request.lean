import RuleGrammar.Command.Flag

/-! Requests: what the words of a command line ask for. A command takes one operand, the grammar
file, which may stand anywhere among its flags; two hyphens end the flags. -/

namespace RuleGrammar.Command

/-- What a flag was given as its value. Two hyphens are taken out of the words wherever they
stand, so that a flag with nothing else for a value is left with nothing. -/
inductive Given (α : Type)
  | value (a : α)
  | nothing
deriving DecidableEq

/-- Where the text to match comes from. -/
inductive Source
  | text (given : Given Text)
  | file (given : Given Text)
deriving DecidableEq

/-- What to match, and how. Without a grammar the last one of the file is meant. -/
structure ParseRequest where
  file : Text
  source : Source
  grammar : Option Text := none
  rule : Given Text := .value "TOP"
  anchored : Bool := true
  maxDepth : Option (Given Int) := none
  debug : Bool := false
deriving DecidableEq

/-- What is asked for. -/
inductive Request
  | check (file : Text) (debug : Bool)
  | parse (request : ParseRequest)
deriving DecidableEq

/-- What the words of a command have said so far. Leftover words are complained about at the end,
so that a request for help among them still counts. -/
structure Settings where
  file : Option Text := none
  source : Option Source := none
  grammar : Option Text := none
  rule : Given Text := .value "TOP"
  anchored : Bool := true
  maxDepth : Option (Given Int) := none
  debug : Bool := false
  leftover : Bool := false

namespace Settings

/-- Notes a flag without a value. -/
def takeBare (settings : Settings) : Flag → Except Stop Settings
  | .debug => return { settings with debug := true }
  | .noAnchor => return { settings with anchored := false }
  | .help => throw .help
  | _ => throw .misuse

/-- Notes the text to match or its file, of which only one may be given. -/
def takeText (settings : Settings) (given : Given Text) : Except Stop Settings :=
  match settings.source with
  | some (.file _) => throw .misuse
  | _ => return { settings with source := some (.text given) }

def takeInput (settings : Settings) (given : Given Text) : Except Stop Settings :=
  match settings.source with
  | some (.text _) => throw .misuse
  | _ => return { settings with source := some (.file given) }

/-- Notes the grammar. With nothing given for it the last one is meant. -/
def takeGrammar (settings : Settings) : Given Text → Settings
  | .value name => { settings with grammar := some name }
  | .nothing => { settings with grammar := none }

/-- Notes the limit of nesting. -/
def takeMaxDepth (settings : Settings) : Given Text → Except Stop Settings
  | .nothing => return { settings with maxDepth := some .nothing }
  | .value numeral =>
      match Numeral.readInt? numeral with
      | some limit => return { settings with maxDepth := some (.value limit) }
      | none => throw .misuse

/-- What is left of a value. -/
def givenBy (value : Text) : Given Text :=
  if value = [hyphen, hyphen] then .nothing else .value value

/-- Notes the value of a flag. -/
def takeValue (settings : Settings) (flag : Flag) (value : Text) : Except Stop Settings :=
  match flag with
  | .grammar => return settings.takeGrammar (givenBy value)
  | .rule => return { settings with rule := givenBy value }
  | .maxDepth => settings.takeMaxDepth (givenBy value)
  | .text => settings.takeText (givenBy value)
  | .input => settings.takeInput (givenBy value)
  | _ => throw .misuse

/-- Notes a word that is no flag: the file, if there is none yet. -/
def takeOperand (settings : Settings) (word : Text) : Settings :=
  match settings.file with
  | none => { settings with file := some word }
  | some _ => { settings with leftover := true }

/-- Notes the words after two hyphens, which are no flags. The hyphens themselves have to stand
beside the file. -/
def takeOperands (settings : Settings) (besideFile : Bool) (words : List Text) : Settings :=
  let noted := words.foldl takeOperand settings
  { noted with leftover := noted.leftover || (!besideFile && settings.file.isSome) }

/-- Notes the flags of a word, of which only the last may have a value. -/
def takeCluster (settings : Settings) (cluster : Cluster) (value : Option (Flag × Text))
    : Except Stop Settings := do
  let settings ← cluster.bare.foldlM takeBare settings
  match value with
  | some (flag, value) => settings.takeValue flag value
  | none => return settings

end Settings

/-- Two hyphens, after which no word is a flag. -/
def endOfFlags : Text := [hyphen, hyphen]

/-- Whether a word could be several flags. Nothing else is looked at then. -/
def isAmbiguous (spellings : Spellings) (word : Text) : Bool :=
  match Word.read spellings word with
  | .ambiguous => true
  | _ => false

/-- The value that a flag finds in the next word, unless that is a flag or ends the flags. -/
def valueIn (spellings : Spellings) (word : Text) : Except Stop Text :=
  if word = endOfFlags then throw .misuse
  else
    match Word.read spellings word with
    | .plain => return word
    | _ => throw .misuse

/-- Notes the words of a command from left to right; `besideFile` says that the word before was
the file. -/
def noteWords (spellings : Spellings) (settings : Settings) (besideFile : Bool)
    : List Text → Except Stop Settings
  | [] => return settings
  | word :: rest =>
      if word = endOfFlags then return settings.takeOperands besideFile rest
      else
        match Word.read spellings word with
        | .plain =>
            noteWords spellings (settings.takeOperand word) settings.file.isNone rest
        | .unknown => noteWords spellings { settings with leftover := true } false rest
        | .ambiguous => throw .misuse
        | .flagged flag isLong attached => do
            let cluster ← Cluster.read spellings flag isLong attached
            match cluster.valued, rest with
            | none, rest =>
                noteWords spellings (← settings.takeCluster cluster none) false rest
            | some (flag, some value), rest =>
                noteWords spellings (← settings.takeCluster cluster (some (flag, value))) false
                  rest
            | some (flag, none), next :: rest =>
                let value ← valueIn spellings next
                noteWords spellings (← settings.takeCluster cluster (some (flag, value))) false
                  rest
            | some (_, none), [] => throw .misuse

/-- The settings that the words of a command amount to. -/
def readSettings (spellings : Spellings) (words : List Text) : Except Stop Settings :=
  if (words.takeWhile (· ≠ endOfFlags)).any (isAmbiguous spellings) then throw .misuse
  else noteWords spellings {} false words

/-- The flags before the name of a command. -/
def helpSpellings : Spellings :=
  [("-h", .help), ("--help", .help)]

def checkSpellings : Spellings :=
  [("-h", .help), ("--help", .help), ("-D", .debug), ("--debug", .debug)]

def parseSpellings : Spellings :=
  [("-h", .help), ("--help", .help), ("-g", .grammar), ("--grammar", .grammar), ("-r", .rule),
    ("--rule", .rule), ("--no-anchor", .noAnchor), ("--max-depth", .maxDepth), ("-D", .debug),
    ("--debug", .debug), ("--text", .text), ("--input", .input)]

namespace Settings

/-- The request to check a file. -/
def toCheck (settings : Settings) : Option Request := do
  return .check (← settings.file) settings.debug

/-- The request to match a text. -/
def toParse (settings : Settings) : Option Request := do
  return .parse {
    file := ← settings.file
    source := ← settings.source
    grammar := settings.grammar
    rule := settings.rule
    anchored := settings.anchored
    maxDepth := settings.maxDepth
    debug := settings.debug }

end Settings

/-- The request of a command, if all that it needs was said and nothing else; `leftover` tells of
words before the command. -/
def finish (leftover : Bool) (settings : Settings) (request : Option Request)
    : Except Stop Request :=
  match request with
  | some request => if leftover || settings.leftover then throw .misuse else return request
  | none => throw .misuse

/-- The request of a named command and the words after the name. -/
def readCommand (leftover : Bool) (name : Text) (words : List Text) : Except Stop Request :=
  if name = "check" then do
    let settings ← readSettings checkSpellings words
    finish leftover settings settings.toCheck
  else if name = "parse" then do
    let settings ← readSettings parseSpellings words
    finish leftover settings settings.toParse
  else throw .misuse

/-- Looks for the name of a command among words of which all before it are flags. -/
def readFrom (leftover : Bool) : List Text → Except Stop Request
  | [] => throw .misuse
  | word :: rest =>
      if word = endOfFlags then throw .misuse
      else
        match Word.read helpSpellings word with
        | .plain => readCommand leftover word rest
        | .unknown => readFrom true rest
        | .ambiguous => throw .misuse
        | .flagged flag isLong attached => do
            let cluster ← Cluster.read helpSpellings flag isLong attached
            let _ ← Settings.takeCluster {} cluster none
            readFrom leftover rest

namespace Request

/-- The request that the words of a command line make. -/
def ofWords (words : List Text) : Except Stop Request :=
  readFrom false words

end Request

end RuleGrammar.Command
