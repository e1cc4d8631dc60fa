import RuleGrammar.Command.Run

/-! The command line: opens the files that a request names, runs the request and prints its
report. -/

namespace RuleGrammar.Command

/-- A text as it is printed. Lone surrogates have no encoding and are shown as replaced. -/
def printed (t : Text) : String :=
  String.ofList (t.map fun c => if c.isSurrogate then Char.ofNat 0xFFFD else Char.ofNat c.value)

/-- The number of a system error, which some systems give as a negative word. -/
def systemNumber (code : UInt32) : Nat :=
  if code.toNat < 0x80000000 then code.toNat else 0x100000000 - code.toNat

/-- The reason with a number. -/
def FileError.ofNumber (reason : String) : Nat → FileError
  | 2 => .notFound
  | 13 => .denied
  | 20 => .notDirectory
  | 21 => .isDirectory
  | 36 => .nameTooLong
  | number => .other number reason

/-- The reason that the system gave for not reading a file. -/
def FileError.ofSystem : IO.Error → FileError
  | .noFileOrDirectory _ code reason => ofNumber reason (systemNumber code)
  | .permissionDenied _ code reason => ofNumber reason (systemNumber code)
  | .inappropriateType _ code reason => ofNumber reason (systemNumber code)
  | .invalidArgument _ code reason => ofNumber reason (systemNumber code)
  | error => .other 5 (toString error)

/-- Opens a path. -/
def openPath (path : Path) : IO (Path × Except FileError Bytes) := do
  try
    return (path, .ok (← IO.FS.readBinFile (printed path.text)).toList)
  catch error => return (path, .error (.ofSystem error))

/-- The files that were opened. -/
def opened (contents : List (Path × Except FileError Bytes)) : Files := fun path =>
  match contents.find? (·.1 = path) with
  | some row => row.2
  | none => .error .notFound

/-- How the commands are called. -/
def usageLines : List String :=
  ["usage: rulegrammar check FILE [-D]",
    "       rulegrammar parse FILE (--text TEXT | --input FILE) [-g GRAMMAR] [-r RULE]",
    "                              [--no-anchor] [--max-depth LIMIT] [-D]"]

/-- The wording of an end without a report. -/
def Abort.message : Abort → Text
  | undecodable => "a file is not encoded in UTF-8"
  | invalidPath => "a path holds a null character"
  | nothingGiven => "a flag was given nothing"
  | numeralTooLong => "a count has too many digits"
  | charClass fault => fault.message

/-- Prints how a command ended, and answers with its exit code. -/
def conclude : Ending → IO UInt32
  | .reported report => do
      for line in report.notes do IO.eprintln (printed line)
      for line in report.answer do IO.println (printed line)
      return UInt32.ofNat report.code
  | .stopped .help => do
      for line in usageLines do IO.println line
      return 0
  | .stopped .misuse => do
      for line in usageLines do IO.eprintln line
      return 2
  | .aborted abort => do
      IO.eprintln (printed abort.message)
      return 1

end RuleGrammar.Command

open RuleGrammar Command in
/-- Runs the command that the arguments ask for. -/
def main (arguments : List String) : IO UInt32 := do
  match Request.ofWords (arguments.map Text.ofString) with
  | .error stop => conclude (.stopped stop)
  | .ok request => do
      let contents ← request.paths.mapM openPath
      conclude (.ofCommand (request.run (opened contents)))
