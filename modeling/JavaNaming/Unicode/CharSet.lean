import JavaNaming.Unicode.CaseFold
import JavaNaming.Unicode.Ranges

/-!
# Sets of characters

A set of characters is a list of ranges of code points, both ends included, in increasing order and
with gaps between them. `insertRange` keeps this form, and the other operations are built on it and on
the complement.
-/

namespace JavaNaming.Unicode

/-- The last code point. -/
def lastCodePoint : Nat := 0x10FFFF

/-- A set of characters, as ranges of code points in increasing order. -/
structure CharSet where
  ranges : List (Nat × Nat)
deriving DecidableEq, Repr

namespace CharSet

/-- The set without characters. -/
def empty : CharSet := ⟨[]⟩

/-- The set of all characters. -/
def full : CharSet := ⟨[(0, lastCodePoint)]⟩

/-- The characters from `a` to `b`. -/
def range (a b : Nat) : CharSet := ⟨[(a, b)]⟩

/-- A single character. -/
def single (c : Char) : CharSet := range c.toNat c.toNat

/-- The set that a table describes. -/
def ofTable (r : Ranges) : CharSet := ⟨r.pairs.toList⟩

/-- Whether a code point is in one of the ranges. -/
def inRanges (n : Nat) : List (Nat × Nat) → Bool
  | [] => false
  | (a, b) :: rs => if n < a then false else if n ≤ b then true else inRanges n rs

/-- Whether a character is in the set. -/
def contains (s : CharSet) (c : Char) : Bool := inRanges c.toNat s.ranges

/-- Add a range to ranges in increasing order, and join it with those that it touches. -/
def insertRange : Nat → Nat → List (Nat × Nat) → List (Nat × Nat)
  | a, b, [] => [(a, b)]
  | a, b, (c, d) :: rs =>
    if b + 1 < c then (a, b) :: (c, d) :: rs
    else if d + 1 < a then (c, d) :: insertRange a b rs
    else insertRange (min a c) (max b d) rs

/-- The characters in either set. -/
def union (s t : CharSet) : CharSet :=
  ⟨t.ranges.foldl (fun rs (a, b) => insertRange a b rs) s.ranges⟩

/-- The gaps between ranges in increasing order, from code point `next` on. -/
def gaps (next : Nat) : List (Nat × Nat) → List (Nat × Nat)
  | [] => if next ≤ lastCodePoint then [(next, lastCodePoint)] else []
  | (a, b) :: rs => if next < a then (next, a - 1) :: gaps (b + 1) rs else gaps (b + 1) rs

/-- The characters that are not in the set. -/
def complement (s : CharSet) : CharSet := ⟨gaps 0 s.ranges⟩

/-- The characters in both sets. -/
def inter (s t : CharSet) : CharSet := (s.complement.union t.complement).complement

/-- The characters of the first set that are not in the second. -/
def diff (s t : CharSet) : CharSet := s.inter t.complement

/-- The characters in exactly one of the sets. -/
def symmDiff (s t : CharSet) : CharSet := (s.diff t).union (t.diff s)

/-- The set of several code points. -/
def ofCodePoints (ns : List Nat) : CharSet :=
  ⟨ns.foldl (fun rs n => insertRange n n rs) []⟩

/-- Whether all characters of the set are in ASCII. -/
def isAscii (s : CharSet) : Bool := s.ranges.all (·.2 < 128)

/-- The set with all characters that differ from one of its own only in case. -/
def caseFold (s : CharSet) : CharSet :=
  let forms := s.union <| ofCodePoints <|
    (foldPairs.filter fun p => inRanges p.1 s.ranges).map (·.2)
  forms.union <| ofCodePoints <| (foldPairs.filter fun p => inRanges p.2 forms.ranges).map (·.1)

/-- The set with the other case of all its ASCII letters. -/
def caseFoldAscii (s : CharSet) : CharSet :=
  let shifted := fun (set : CharSet) (up : Bool) =>
    ⟨set.ranges.map fun (a, b) => if up then (a - 32, b - 32) else (a + 32, b + 32)⟩
  let lower := s.inter (range 'a'.toNat 'z'.toNat)
  let upper := s.inter (range 'A'.toNat 'Z'.toNat)
  (s.union (shifted lower true)).union (shifted upper false)

end CharSet

end JavaNaming.Unicode
