import JavaNaming.Text.Offset

/-!
# Rows and byte columns

A row ends with a line feed, and a column counts the bytes before it in its row. Both count from zero.
-/

namespace JavaNaming.Text

/-- A row and a column, both counted from zero. -/
structure Point where
  row : Nat
  column : Nat
deriving DecidableEq, Repr

namespace Point

/-- The start of a text. -/
def start : Point := ⟨0, 0⟩

/-- The point after a character. -/
def after (p : Point) (c : Char) : Point :=
  if c = '\n' then ⟨p.row + 1, 0⟩ else ⟨p.row, p.column + c.utf8Size⟩

/-- The point `offset` bytes after a point at which a text starts. -/
def advance (p : Point) : Nat → List Char → Point
  | 0, _ => p
  | _ + 1, [] => p
  | offset + 1, c :: cs => (p.after c).advance (offset + 1 - c.utf8Size) cs

/-- The point of an offset in a text. -/
def ofOffset (text : List Char) (offset : Nat) : Point := start.advance offset text

end Point

end JavaNaming.Text
