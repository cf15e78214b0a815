import JavaNaming.Command.Run
import JavaNaming.Syntax.Outline

/-!
# Printing outlines

`printOutline` prints the outline of a Java file, or of the standard input where no file is named.
-/

namespace JavaNaming.Command

open Files (FileError FileSystem)

/-- The text to outline. Arguments after the first are not looked at. -/
def outlineInput (fs : FileSystem) (args : List String) (input : ByteArray) :
    Except FileError (List Char) :=
  match args with
  | path :: _ => fs.readText path
  | [] => Files.textOf input

/-- Print the outline of a text. -/
def printOutline (fs : FileSystem) (args : List String) (input : ByteArray) : Outcome :=
  match outlineInput fs args input with
  | .error e => ⟨1, "", s!"Error reading input: {e.message}\n", []⟩
  | .ok source =>
    match Java.parse source with
    | .error e => ⟨1, "", s!"Error: {e.message}\n", []⟩
    | .ok tree => ⟨0, (tree.outline source).render 0, "", []⟩

end JavaNaming.Command
