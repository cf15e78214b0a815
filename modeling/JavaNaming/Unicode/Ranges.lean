/-!
# Sets of code points

A set of code points is an array of ranges, both ends included, in increasing order. Tables of such
sets are written as strings of letters: each number is in base 26, its digits capital letters but
for the last, and the numbers are in turn the gap before a range and the length of the range less
one.
-/

namespace JavaNaming.Unicode

/-- A set of code points, as ranges in increasing order. -/
structure Ranges where
  pairs : Array (Nat × Nat)
deriving Repr, Inhabited

namespace Ranges

/-- What is known after some letters of a packed table: the number being read, the code point after
the last range, the start of a range whose length is still to come, and the ranges so far. -/
structure Reading where
  number : Nat
  next : Nat
  start : Option Nat
  pairs : Array (Nat × Nat)

/-- Read one letter of a packed table. -/
def readLetter (r : Reading) (c : Char) : Reading :=
  if c.isUpper then { r with number := (r.number + (c.toNat - 'A'.toNat)) * 26 }
  else
    let n := r.number + (c.toNat - 'a'.toNat)
    match r.start with
    | none => { r with number := 0, start := some (r.next + n) }
    | some a => { number := 0, next := a + n + 1, start := none, pairs := r.pairs.push (a, a + n) }

/-- Read a packed table. -/
def unpack (table : String) : Ranges :=
  ⟨(table.toList.foldl readLetter ⟨0, 0, none, #[]⟩).pairs⟩

/-- Binary search for the range that holds `n`, between two indices. -/
def search (rs : Ranges) (n : Nat) : Nat → Nat → Nat → Bool
  | 0, _, _ => false
  | fuel + 1, lo, hi =>
    if lo < hi then
      let mid := (lo + hi) / 2
      match rs.pairs[mid]? with
      | some (a, b) =>
        if n < a then search rs n fuel lo mid
        else if b < n then search rs n fuel (mid + 1) hi
        else true
      | none => false
    else false

/-- Whether a code point is in the set. -/
def contains (rs : Ranges) (n : Nat) : Bool :=
  rs.search n (rs.pairs.size + 1) 0 rs.pairs.size

end Ranges

end JavaNaming.Unicode
