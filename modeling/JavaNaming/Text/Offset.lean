/-!
# Byte offsets and ranges

Places in a text are byte offsets into its UTF-8 form, and they fit into 32 bits. A range has a
start and an end, in this order.

`dropBytes?` and `takeBytes?` cut a text at an offset. They have no result where the offset lies
past the end of the text or inside a character.
-/

namespace JavaNaming.Text

/-- Offsets are smaller than this. -/
def offsetLimit : Nat := 4294967296

/-- A number that is too large for an offset. -/
inductive OffsetError where
  | tooLarge
deriving DecidableEq, Repr

/-- The wording of the error. -/
def OffsetError.message : OffsetError → String
  | tooLarge => "number too large to fit in target type"

/-- A number as an offset. -/
def offset? (n : Nat) : Except OffsetError Nat :=
  if n < offsetLimit then .ok n else .error .tooLarge

/-- The length of a text in bytes. -/
def byteLength : List Char → Nat
  | [] => 0
  | c :: cs => c.utf8Size + byteLength cs

/-! ## Ranges -/

/-- The bytes from `start` up to, and not including, `stop`. -/
structure Range where
  start : Nat
  stop : Nat
  start_le_stop : start ≤ stop
deriving DecidableEq, Repr

/-- The ends of a range in the wrong order. -/
structure RangeError where
  start : Nat
  stop : Nat
deriving DecidableEq, Repr

/-- The wording of the error. -/
def RangeError.message (e : RangeError) : String :=
  s!"invalid range: {e.start}..{e.stop}"

namespace Range

/-- The range between two offsets. -/
def between? (start stop : Nat) : Except RangeError Range :=
  if h : start ≤ stop then .ok ⟨start, stop, h⟩ else .error ⟨start, stop⟩

/-- The range from an offset to a later one, or the empty range there. -/
def upTo (start stop : Nat) : Range :=
  ⟨start, max start stop, Nat.le_max_left ..⟩

/-- A range as text. -/
def render (r : Range) : String :=
  s!"{r.start}..{r.stop}"

end Range

/-! ## Cutting a text at an offset -/

/-- The text after its first `n` bytes. -/
def dropBytes? : Nat → List Char → Option (List Char)
  | 0, cs => some cs
  | _ + 1, [] => none
  | n + 1, c :: cs => if n + 1 < c.utf8Size then none else dropBytes? (n + 1 - c.utf8Size) cs

/-- The first `n` bytes of the text. -/
def takeBytes? : Nat → List Char → Option (List Char)
  | 0, _ => some []
  | _ + 1, [] => none
  | n + 1, c :: cs =>
    if n + 1 < c.utf8Size then none
    else (takeBytes? (n + 1 - c.utf8Size) cs).map (c :: ·)

/-- The part of a text that a range covers. -/
def slice? (text : List Char) (r : Range) : Option (List Char) :=
  (dropBytes? r.start text).bind (takeBytes? (r.stop - r.start))

end JavaNaming.Text
