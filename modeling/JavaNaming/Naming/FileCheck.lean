import JavaNaming.Files.Tree
import JavaNaming.Naming.Checker

/-!
# Checking files

`Checker.checkFile` reads a file and checks it. `Checker.firstFailure?` goes through a list of files and
stops at the first that does not pass.
-/

namespace JavaNaming.Naming

open Files (FileError FileSystem)

/-- Why a file did not pass. -/
inductive FileFailure where
  | unreadable (path : String) (e : FileError)
  | unparsed (path : String) (e : Java.ParseError)
  | violated (path : String) (location : Text.Location) (v : Violation)
deriving DecidableEq, Repr

namespace FileFailure

/-- The file. -/
def path : FileFailure → String
  | unreadable path _ | unparsed path _ | violated path _ _ => path

/-- Whether the file was checked and has a name that breaks a convention. -/
def isViolation : FileFailure → Bool
  | violated .. => true
  | _ => false

/-- The wording of the failure. -/
def message : FileFailure → String
  | unreadable path e => s!"{path}: failed to read file: {e.message}"
  | unparsed path e => s!"{path}: {e.message}"
  | violated path location v => s!"{path}:{location.render}: {v.message}"

end FileFailure

/-- The start of a text. -/
def textStart : Text.Location := ⟨1, 1⟩

namespace Checker

/-- Check the text of a file. -/
def checkText (c : Checker) (path : String) (source : List Char) : Option FileFailure :=
  match c.checkSource source with
  | .ok () => none
  | .error (.parse e) => some (.unparsed path e)
  | .error (.style v) =>
    some (.violated path ((Text.locate? source v.range.start).getD textStart) v)

/-- Read and check a file. -/
def checkFile (c : Checker) (fs : FileSystem) (path : String) : Option FileFailure :=
  match fs.readText path with
  | .error e => some (.unreadable path e)
  | .ok source => c.checkText path source

/-- The failure of the first file that does not pass. -/
def firstFailure? (c : Checker) (fs : FileSystem) (paths : List String) : Option FileFailure :=
  paths.findSome? (c.checkFile fs)

end Checker

end JavaNaming.Naming
