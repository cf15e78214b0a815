import JavaNaming.Text.Offset

/-!
# Lines and columns

A line ends with a line feed, a carriage return, or the two together. `LineIndex.ofText` lists where
the lines of a text start, and `LineIndex.locate?` finds the line and column of an offset by binary
search in that list. Lines and columns count from one, and columns count characters.
-/

namespace JavaNaming.Text

/-- A line and a column, both counted from one. -/
structure Location where
  line : Nat
  column : Nat
deriving DecidableEq, Repr

/-- A location as text. -/
def Location.render (l : Location) : String :=
  s!"{l.line}:{l.column}"

/-- The offsets after the line ends of a text that starts at offset `here`. -/
def startsAfter (here : Nat) : List Char → List Nat
  | [] => []
  | '\r' :: '\n' :: cs => (here + 2) :: startsAfter (here + 2) cs
  | c :: cs =>
    let next := here + c.utf8Size
    if c = '\n' ∨ c = '\r' then next :: startsAfter next cs else startsAfter next cs

/-- Where the lines of a text start. -/
structure LineIndex where
  starts : Array Nat
deriving Repr

/-- Where a value stands in a sorted array, or where it would have to be inserted. -/
inductive Place where
  | found (i : Nat)
  | insertAt (i : Nat)
deriving DecidableEq, Repr

/-- Binary search for `x` between two indices of a sorted array. -/
def binarySearch (xs : Array Nat) (x : Nat) : Nat → Nat → Nat → Place
  | 0, lo, _ => .insertAt lo
  | fuel + 1, lo, hi =>
    if lo < hi then
      let mid := (lo + hi) / 2
      let y := xs.getD mid 0
      if y = x then .found mid
      else if y < x then binarySearch xs x fuel (mid + 1) hi
      else binarySearch xs x fuel lo mid
    else .insertAt lo

namespace LineIndex

/-- The index of a text. -/
def ofText (text : List Char) : LineIndex :=
  ⟨(0 :: startsAfter 0 text).toArray⟩

/-- Where an offset stands among the starts of the lines. -/
def place (index : LineIndex) (offset : Nat) : Place :=
  binarySearch index.starts offset (index.starts.size + 1) 0 index.starts.size

/-- The line of an offset, counted from zero. -/
def line (index : LineIndex) (offset : Nat) : Nat :=
  match index.place offset with
  | .found i => i
  | .insertAt i => i - 1

/-- The location of an offset. There is none past the end of the text and inside a character. -/
def locate? (index : LineIndex) (text : List Char) (offset : Nat) : Option Location := do
  let line := index.line offset
  let range ← (Range.between? (index.starts.getD line 0) offset).toOption
  let before ← slice? text range
  return ⟨line + 1, before.length + 1⟩

end LineIndex

/-- The location of an offset in a text. -/
def locate? (text : List Char) (offset : Nat) : Option Location :=
  (LineIndex.ofText text).locate? text offset

/-- The offsets between the characters of a text, its start and end included. -/
def boundaries (here : Nat) : List Char → List Nat
  | [] => [here]
  | c :: cs => here :: boundaries (here + c.utf8Size) cs

end JavaNaming.Text
