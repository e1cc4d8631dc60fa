import RuleGrammar.Text.Quoted
import RuleGrammar.Text.Utf8

/-! Files as a command sees them: paths in their shortest spelling, and what opening one yields.
The name of a file has at most 255 bytes, and a path less than 4096. -/

namespace RuleGrammar.Command

/-- A path without empty parts and single dots. A path from the root keeps its slashes. -/
structure Path where
  root : Text := []
  parts : List Text := []
deriving DecidableEq

namespace Path

/-- The parts of a text between slashes. -/
def splitAtSlashes : Text → List Text
  | [] => [[]]
  | c :: rest =>
      match splitAtSlashes rest with
      | part :: parts => if c = CodePoint.ofChar '/' then [] :: part :: parts
          else (c :: part) :: parts
      | [] => [[c]]

/-- The slashes that a path from the root keeps: two if it starts with just two, otherwise one. -/
def rootOf (t : Text) : Text :=
  match (t.takeWhile (· = CodePoint.ofChar '/')).length with
  | 0 => []
  | 2 => "//"
  | _ => "/"

def ofText (t : Text) : Path where
  root := rootOf t
  parts := (splitAtSlashes t).filter fun part => part ≠ [] && part ≠ ("." : Text)

/-- The spelling of a path. The path that leads nowhere else is a dot. -/
def text (path : Path) : Text :=
  if path.root.isEmpty && path.parts.isEmpty then "."
  else path.root ++ Text.joinWith "/" path.parts

end Path

/-- Why a file cannot be read. -/
inductive FileError
  | notFound
  | isDirectory
  | notDirectory
  | denied
  | nameTooLong
  | other (number : Nat) (reason : Text)
deriving DecidableEq

namespace FileError

/-- The class of an error, its number and its wording. -/
def terms : FileError → Text × Nat × Text
  | notFound => ("FileNotFoundError", 2, "No such file or directory")
  | isDirectory => ("IsADirectoryError", 21, "Is a directory")
  | notDirectory => ("NotADirectoryError", 20, "Not a directory")
  | denied => ("PermissionError", 13, "Permission denied")
  | nameTooLong => ("OSError", 36, "File name too long")
  | other number reason => ("OSError", number, reason)

/-- The report of an error on a path. -/
def message (path : Path) (error : FileError) : Text :=
  let (title, number, reason) := error.terms
  title ++ " [Errno " ++ Text.ofNat number ++ "] " ++ reason ++ ": " ++ path.text.quoted

end FileError

/-- The most bytes that the name of a file may have. -/
def nameLimit : Nat := 255

/-- The least number of bytes that no path may have. -/
def pathLimit : Nat := 4096

/-- What opening a path yields. -/
abbrev Files := Path → Except FileError Bytes

/-- The files in a directory by the parts of their paths. -/
abbrev Directory := List (List Text × Bytes)

namespace Directory

/-- Whether a place is the directory itself or holds a file further down. -/
def isInner (directory : Directory) (place : List Text) : Bool :=
  place.isEmpty || directory.any fun file => place.isPrefixOf file.1 && file.1 ≠ place

/-- Refuses a place that a path cannot lead through. -/
def enter (directory : Directory) (place : List Text) : Except FileError Unit :=
  if directory.isInner place then return ()
  else if directory.any (·.1 = place) then throw .notDirectory
  else throw .notFound

/-- What is at a place. -/
def read (directory : Directory) (place : List Text) : Except FileError Bytes :=
  match directory.find? (·.1 = place) with
  | some file => return file.2
  | none => throw (if directory.isInner place then .isDirectory else .notFound)

/-- Refuses a name that no file can have. -/
def checkName (name : Text) : Except FileError Unit :=
  if nameLimit < name.byteLength then throw .nameTooLong else return ()

/-- Follows the parts of a path from a place, or from outside once a path has left the
directory. -/
def walk (directory : Directory) : Option (List Text) → List Text → Except FileError Bytes
  | none, [] => throw .isDirectory
  | none, part :: rest => do
      checkName part
      if part = ".." then walk directory none rest else throw .notFound
  | some place, [] => directory.read place
  | some place, part :: rest => do
      directory.enter place
      checkName part
      if part = ".." then
        walk directory (if place.isEmpty then none else some place.dropLast) rest
      else walk directory (some (place ++ [part])) rest

/-- Opens a path from the directory, around which nothing is known to exist. -/
def files (directory : Directory) : Files := fun path =>
  if pathLimit ≤ path.text.byteLength then throw .nameTooLong
  else if path.root.isEmpty then directory.walk (some []) path.parts
  else directory.walk none path.parts

end Directory

end RuleGrammar.Command
