import JavaNaming.Files.Tree

/-!
# The files to check

`FileSystem.javaFiles` lists the files that some paths stand for. A file stands for itself, and a
directory for the Java files at any depth below it, in the order of their names. Links below a directory
are not followed.
-/

namespace JavaNaming.Files

/-- Why a path does not stand for files. -/
inductive PathError where
  /-- The path does not lead to a file or directory. -/
  | missing (path : String)
  /-- The directory at `place`, which is at or below the path, cannot be listed. -/
  | unlistable (path place : String)
deriving DecidableEq, Repr

/-- The wording at each level of detail. -/
def PathError.causes : PathError → List String
  | missing path => [s!"path does not exist: {path}"]
  | unlistable path place =>
    let cause := FileError.message .denied
    [s!"failed to walk {path}", s!"IO error for operation on {place}: {cause}", cause]

/-- The extension of Java files. -/
def javaExtension : String := "java"

/-- Whether a name is that of a Java file. -/
def isJavaName (name : String) : Bool := extensionOf? name == some javaExtension

mutual

/-- The Java files of a node with a given path and name, each with its path. The error is the path of the
first directory that cannot be listed. -/
def javaFilesAt (path name : String) : Node → Except String (List String)
  | .file .. => .ok (if isJavaName name then [path] else [])
  | .directory _ false => .error path
  | .directory entries true => do
    let found := (javaFilesOf path entries).mergeSort fun a b => !(decide (b.1 < a.1))
    return (← found.mapM (·.2)).flatten
  | .link _ => .ok []

/-- The Java files of some entries of the directory with a given path, for the name of each entry. -/
def javaFilesOf (path : String) :
    List (String × Node) → List (String × Except String (List String))
  | [] => []
  | (name, node) :: entries =>
    (name, javaFilesAt (join path name) name node) :: javaFilesOf path entries

end

namespace FileSystem

/-- The files that a path stands for. -/
def javaFilesFor (fs : FileSystem) (path : String) : Except PathError (List String) :=
  match fs.find path with
  | .ok (.file ..) => .ok [path]
  | .ok node => (javaFilesAt path "" node).mapError (.unlistable path)
  | .error _ => .error (.missing path)

/-- The files that some paths stand for. -/
def javaFiles (fs : FileSystem) (paths : List String) : Except PathError (List String) := do
  return (← paths.mapM fs.javaFilesFor).flatten

end FileSystem

end JavaNaming.Files
