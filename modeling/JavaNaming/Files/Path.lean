/-!
# Paths

A path is a text whose parts are separated by slashes. `extension?` is what follows the last dot of its
last part, and `join` is the path of an entry of a directory.
-/

namespace JavaNaming.Files

/-- The texts between the slashes of a text; `part` is the start of the first one, in reverse. -/
def splitSlashes (part : List Char) : List Char → List (List Char)
  | [] => [part.reverse]
  | c :: cs => if c = '/' then part.reverse :: splitSlashes [] cs else splitSlashes (c :: part) cs

/-- The parts of a path. Slashes in a row, and at either end, give empty parts. -/
def parts (path : String) : List String :=
  (splitSlashes [] path.toList).map String.ofList

/-- Whether a path starts at the root. -/
def isAbsolute (path : String) : Bool := path.toList.head? = some '/'

/-- The last part of a path that is a name. There is none where the path ends with two dots. -/
def fileName? (path : String) : Option String :=
  match ((parts path).filter fun p => p ≠ "" ∧ p ≠ ".").getLast? with
  | some ".." => none
  | name? => name?

/-- What follows the last dot of a name. A dot in front of the name does not count. -/
def extensionOf? (name : String) : Option String :=
  let cs := name.toList
  let ending := (cs.reverse.takeWhile (· ≠ '.')).reverse
  if ending.length + 1 < cs.length then some (String.ofList ending) else none

/-- The extension of a path. -/
def extension? (path : String) : Option String := (fileName? path).bind extensionOf?

/-- The path of an entry of a directory. -/
def join (directory name : String) : String :=
  if directory.toList.getLast? = some '/' then directory ++ name else directory ++ "/" ++ name

end JavaNaming.Files
