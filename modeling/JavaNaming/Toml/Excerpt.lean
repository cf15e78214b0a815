import JavaNaming.Text.Offset

/-!
# Quoting the place of an error

`Excerpt.render` quotes the line in which a range of a document starts and underlines the range as far as
that line goes. Lines end with a line feed, and columns count characters.
-/

namespace JavaNaming.Toml

open Text (Range byteLength)

/-- Where an offset stands: the number of its line and its column, both counted from zero, and the
offset at which the line starts. -/
structure Spot where
  line : Nat
  column : Nat
  lineStart : Nat
deriving DecidableEq, Repr

namespace Spot

/-- The start of a document. -/
def start : Spot := ⟨0, 0, 0⟩

/-- The spot after a character that ends at offset `next`. -/
def pass (s : Spot) (c : Char) (next : Nat) : Spot :=
  if c = '\n' then ⟨s.line + 1, 0, next⟩ else { s with column := s.column + 1 }

/-- The spot of an offset in a text whose first character is at offset `here` and stands at `spot`.
An offset inside a character has no column in characters, and gets the one in bytes. -/
def find (offset : Nat) : List Char → Nat → Spot → Spot
  | [], _, spot => spot
  | c :: cs, here, spot =>
    let next := here + c.utf8Size
    if offset + 1 = next then spot
    else if offset < next then { spot with column := offset - spot.lineStart }
    else find offset cs next (spot.pass c next)

/-- The spot of an offset in a document. An offset past the end continues the last line. -/
def ofOffset (document : List Char) (offset : Nat) : Spot :=
  let size := byteLength document
  if size = 0 then { start with column := offset }
  else
    let inside := min offset (size - 1)
    let spot := find inside document 0 start
    { spot with column := spot.column + (offset - inside) }

end Spot

/-- The line of a text that has a given number, counted from zero. -/
def lineAt : Nat → List Char → List Char
  | 0, cs => cs.takeWhile (· ≠ '\n')
  | n + 1, cs => lineAt n ((cs.dropWhile (· ≠ '\n')).drop 1)

/-- The number of marks under a range that starts in a line of `width` bytes: one at least, and none
past the end of the range. -/
def markCount (r : Range) (width : Nat) : Nat :=
  1 + (min r.stop (r.start + width) - (r.start + 1))

/-- The line in which a range of a document starts, with the range marked. -/
def excerpt (document : List Char) (r : Range) : String :=
  let spot := Spot.ofOffset document r.start
  let content := lineAt spot.line document
  let number := toString (spot.line + 1)
  let gutter := "".pushn ' ' (number.length + 1)
  let marks := "".pushn '^' (markCount r (byteLength content))
  s!"TOML parse error at line {number}, column {spot.column + 1}\n{gutter}|\n{number} | " ++
    String.ofList content ++ s!"\n{gutter}|" ++ "".pushn ' ' (spot.column + 1) ++ marks ++ "\n"

end JavaNaming.Toml
