/-!
# Positions in a Java text

A position knows how many bytes and line feeds stand before it and which characters follow it, so
the text can be read on from it without any other context.
-/

namespace JavaNaming.Java

/-- A place in a text: the bytes and line feeds before it and the characters after it. -/
structure Position where
  byte : Nat
  row : Nat
  rest : List Char
deriving Repr

namespace Position

/-- The start of a text. -/
def start (text : List Char) : Position :=
  ⟨0, 0, text⟩

/-- The position after one more character. The end of the text stays where it is. -/
def next (p : Position) : Position :=
  match p.rest with
  | [] => p
  | c :: cs => ⟨p.byte + c.utf8Size, if c = '\n' then p.row + 1 else p.row, cs⟩

/-- The first `n` bytes of a text, as characters. -/
def takeBytes : Nat → List Char → List Char
  | _, [] => []
  | n, c :: cs => if n < c.utf8Size then [] else c :: takeBytes (n - c.utf8Size) cs

/-- The characters from `p` up to the later position `q`. -/
def textTo (p q : Position) : List Char :=
  takeBytes (q.byte - p.byte) p.rest

end Position

end JavaNaming.Java
