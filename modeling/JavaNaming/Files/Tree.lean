import JavaNaming.Files.Path

/-!
# Trees of files

A file has bytes as its content, a directory has entries with names, and a link leads to another place. A
file may not be readable, and a directory may not be listable. `FileSystem.find` follows a path from the
working directory, and `FileSystem.readText` reads the text of the file there.
-/

namespace JavaNaming.Files

/-- A file, a directory or a link. The target of a link is given by the names that lead to it from the
root, and it is not a link itself. -/
inductive Node where
  | file (content : ByteArray) (readable : Bool := true)
  | directory (entries : List (String × Node)) (listable : Bool := true)
  | link (target : List String)

namespace Node

/-- An empty directory. -/
def empty : Node := .directory []

/-- The entries of a directory; nothing else has any. -/
def entries : Node → List (String × Node)
  | .directory entries _ => entries
  | .file .. | .link _ => []

/-- Whether a node does not refuse to list its entries. -/
def isListable : Node → Bool
  | .directory _ listable => listable
  | .file .. | .link _ => true

/-- The node that names lead to. -/
def at? : List String → Node → Option Node
  | [], node => some node
  | name :: names, node => (node.entries.lookup name).bind (at? names)

/-- Put a node at the end of a path of names, and create the directories on the way. -/
def put (node : Node) : List String → Node → Node
  | [], _ => node
  | name :: names, here =>
    let child := put node names ((here.entries.lookup name).getD .empty)
    .directory (here.entries.filter (·.1 ≠ name) ++ [(name, child)]) here.isListable

end Node

/-- Why a file cannot be read. -/
inductive FileError where
  | notFound
  | denied
  | notDirectory
  | isDirectory
  | invalidText
deriving DecidableEq, Repr

/-- The wording of the error. -/
def FileError.message : FileError → String
  | notFound => "No such file or directory (os error 2)"
  | denied => "Permission denied (os error 13)"
  | notDirectory => "Not a directory (os error 20)"
  | isDirectory => "Is a directory (os error 21)"
  | invalidText => "stream did not contain valid UTF-8"

/-- Follow one part of a path below a root, from the place that the names `here` lead to. The root is
above itself, and a link is followed as soon as it is reached. -/
def enter (root : Node) (here : List String) (part : String) : Except FileError (List String) :=
  match root.at? here with
  | some (.directory ..) =>
    if part = "" ∨ part = "." then .ok here
    else if part = ".." then .ok here.dropLast
    else
      match root.at? (here ++ [part]) with
      | some (.link target) => .ok target
      | some _ => .ok (here ++ [part])
      | none => .error .notFound
  | some (.file ..) => .error .notDirectory
  | some (.link _) | none => .error .notFound

/-- The place to which the parts of a path lead from the root. -/
def follow (root : Node) (parts : List String) : Except FileError (List String) :=
  parts.foldlM (enter root) []

/-- The files below a root, and the names that lead from there to the working directory. -/
structure FileSystem where
  root : Node
  workingDirectory : List String

namespace FileSystem

/-- The parts of a path, and those of the working directory before them if the path starts there. -/
def partsFor (fs : FileSystem) (path : String) : List String :=
  if isAbsolute path then parts path else fs.workingDirectory ++ parts path

/-- The file or directory at a path. -/
def find (fs : FileSystem) (path : String) : Except FileError Node :=
  if path = "" then .error .notFound
  else
    match follow fs.root (fs.partsFor path) with
    | .error e => .error e
    | .ok place =>
      match fs.root.at? place with
      | some (.link _) | none => .error .notFound
      | some node => .ok node

/-- Whether there is a file at a path. -/
def isFile (fs : FileSystem) (path : String) : Bool :=
  match fs.find path with
  | .ok (.file ..) => true
  | _ => false

/-- The bytes of the file at a path. -/
def readBytes (fs : FileSystem) (path : String) : Except FileError ByteArray :=
  match fs.find path with
  | .ok (.file content readable) => if readable then .ok content else .error .denied
  | .ok (.directory _ listable) => .error (if listable then .isDirectory else .denied)
  | .ok (.link _) => .error .notFound
  | .error e => .error e

end FileSystem

/-- The text that bytes encode. -/
def textOf (content : ByteArray) : Except FileError (List Char) :=
  match String.fromUTF8? content with
  | some text => .ok text.toList
  | none => .error .invalidText

/-- The text of the file at a path. -/
def FileSystem.readText (fs : FileSystem) (path : String) : Except FileError (List Char) := do
  textOf (← fs.readBytes path)

end JavaNaming.Files
