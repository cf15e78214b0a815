import JavaNaming.Pattern.Part

/-!
# The size of a pattern

A pattern is refused if the automaton for it would be too large. The size is that of an automaton
over the bytes of the text, in which a repetition with counts has a copy of its body for each count.
It is built from the simplified description, once forwards and once backwards, and both have to fit.
-/

namespace JavaNaming.Pattern

open Unicode (CharSet)

/-- An automaton may take this many bytes. -/
def sizeLimit : Nat := 10485760

/-- The bytes of one state. -/
def stateSize : Nat := 32

/-- The bytes of one way out of a state with several conditions. -/
def arrowSize : Nat := 8

/-- The bytes of one way out of a state without conditions. -/
def branchSize : Nat := 4

/-! ## Characters as bytes -/

/-- A sequence of byte ranges, which matches the encodings of a range of characters. -/
abbrev ByteRanges := List (Nat × Nat)

/-- How the bytes of an encoding are split at the last `n` of them, which continue a character. The
ranges of characters given by `lo` and `hi` are cut where the bytes after the first do not run
through all values. -/
def splitAligned : Nat → Nat → Nat → List (Nat × Nat)
  | 0, lo, hi => [(lo, hi)]
  | n + 1, lo, hi =>
    let unit := Nat.pow 64 (n + 1)
    if lo / unit = hi / unit then splitAligned n lo hi
    else
      let low := if lo % unit = 0 then [] else splitAligned n lo (lo / unit * unit + unit - 1)
      let high := if hi % unit = unit - 1 then [] else splitAligned n (hi / unit * unit) hi
      let from_ := if lo % unit = 0 then lo else lo / unit * unit + unit
      let upTo := if hi % unit = unit - 1 then hi else hi / unit * unit - 1
      let middle := if from_ ≤ upTo then [(from_, upTo)] else []
      low ++ middle ++ high

/-- The bytes that continue a character, the last `n` of it. -/
def continuation : Nat → Nat → Nat → ByteRanges
  | 0, _, _ => []
  | n + 1, lo, hi =>
    let unit := Nat.pow 64 n
    (128 + lo / unit % 64, 128 + hi / unit % 64) :: continuation n lo hi

/-- The byte ranges for characters whose encodings have `n` bytes after a first byte, which is
counted from `lead`. -/
def encode (n lead lo hi : Nat) : List ByteRanges :=
  (splitAligned n lo hi).map fun (a, b) =>
    (lead + a / Nat.pow 64 n, lead + b / Nat.pow 64 n) :: continuation n a b

/-- The part of a range between two bounds, as byte ranges. -/
def encodePart (n lead from_ upTo lo hi : Nat) : List ByteRanges :=
  let a := max lo from_
  let b := min hi upTo
  if a ≤ b then encode n lead a b else []

/-- The byte ranges for a range of characters. -/
def encodeRange (lo hi : Nat) : List ByteRanges :=
  encodePart 0 0 0 0x7F lo hi ++ encodePart 1 0xC0 0x80 0x7FF lo hi ++
    encodePart 2 0xE0 0x800 0xD7FF lo hi ++ encodePart 2 0xE0 0xE000 0xFFFF lo hi ++
    encodePart 3 0xF0 0x10000 0x10FFFF lo hi

/-- The byte ranges for a set of characters. -/
def encodeSet (s : CharSet) : List ByteRanges :=
  s.ranges.flatMap fun (a, b) => encodeRange a b

/-- What may follow each of the first byte ranges of some sequences in order. -/
def branches : List ByteRanges → List ((Nat × Nat) × List ByteRanges)
  | [] => []
  | [] :: rest => branches rest
  | (b :: bs) :: rest =>
    match branches rest with
    | (b', group) :: more =>
      if b = b' then (b, bs :: group) :: more else (b, [bs]) :: (b', group) :: more
    | [] => [(b, [bs])]

/-- The states of an automaton for some sequences of at most `n` byte ranges: the sequences that are
left in each state. -/
def states : Nat → List ByteRanges → List (List ByteRanges)
  | 0, _ => []
  | n + 1, seqs =>
    let next := (branches seqs).map (·.2)
    if next.isEmpty then [] else seqs :: next.flatMap (states n)

/-- The beginnings of some sequences of at most `n` byte ranges. -/
def beginnings : Nat → List ByteRanges → Nat
  | 0, _ => 0
  | n + 1, seqs => (branches seqs).foldl (fun acc (_, group) => acc + 1 + beginnings n group) 0

/-- The size of a set of characters outside ASCII, forwards. States with the same way on are one. -/
def forwardSetSize (s : CharSet) : Nat :=
  (states 4 (encodeSet s)).eraseDups.foldl
    (fun acc seqs => acc + stateSize + arrowSize * (branches seqs).length) stateSize

/-- The size of a set of characters outside ASCII, backwards. -/
def backwardSetSize (s : CharSet) : Nat :=
  let seqs := encodeSet s
  2 * stateSize + branchSize * seqs.length + stateSize * beginnings 4 seqs

/-! ## Patterns -/

/-- The direction in which an automaton reads. -/
inductive Direction where
  | forward
  | backward
deriving DecidableEq, Repr

/-- The size of a set of several characters. -/
def setSize (d : Direction) (s : CharSet) : Nat :=
  if s.isAscii then
    let arrows := s.ranges.length
    2 * stateSize + if arrows = 1 then 0 else arrowSize * arrows
  else if d = .forward then forwardSetSize s else backwardSetSize s

/-- The bytes of a text, in the order in which they are read. -/
def bytesOf (d : Direction) (text : List Char) : List UInt8 :=
  let bytes := text.flatMap String.utf8EncodeChar
  if d = .forward then bytes else bytes.reverse

/-- The words between those that are empty. -/
def runs : List (List UInt8) → List (List (List UInt8))
  | [] => [[]]
  | [] :: words => [] :: runs words
  | word :: words =>
    match runs words with
    | run :: more => (word :: run) :: more
    | [] => [[word]]

/-- The words that are left after each of the first bytes of some words. -/
def tails : List (List UInt8) → List (UInt8 × List (List UInt8))
  | [] => []
  | [] :: words => tails words
  | (b :: word) :: words =>
    match (tails words).lookup b with
    | some group => (b, word :: group) :: (tails words).filter (·.1 ≠ b)
    | none => (b, [word]) :: tails words

/-- The size of a tree for some words of at most `n` bytes. Where a word ends, there is nothing to add
unless others go on from there; those before and those after it are kept apart. -/
def treeSize : Nat → List (List UInt8) → Nat
  | 0, _ => 0
  | n + 1, words =>
    if words.all List.isEmpty then 0
    else
      let groups := (runs words).map tails
      let arrows := fun (group : List (UInt8 × List (List UInt8))) =>
        if group.length = 1 then stateSize else stateSize + arrowSize * group.length
      let filled := groups.filter (!·.isEmpty)
      let below := (groups.flatMap fun group => group.map fun (_, rest) => treeSize n rest).sum
      (filled.map arrows).sum + stateSize + branchSize * (filled.length + groups.length - 1) + below

/-- The size of a repetition of a body with a given size. `proper` says that no match of it is empty. -/
def repetitionSize (size : Nat) (proper : Bool) (least : Nat) (most : Option Nat) : Nat :=
  let copies := if least = 0 then stateSize else least * size
  match most with
  | some m =>
    if least = 0 ∧ m = 1 then size + 2 * stateSize + 2 * branchSize
    else if m = least then copies
    else copies + stateSize + (m - least) * (size + stateSize + 2 * branchSize)
  | none =>
    if least = 0 then
      if proper then size + stateSize + 2 * branchSize
      else size + 3 * stateSize + 4 * branchSize
    else copies + stateSize + 2 * branchSize

/-- The text of a part that is one. -/
def Part.literal? : Part → Option (List Char)
  | .literal text => some text
  | _ => none

mutual

/-- The size of the automaton for a part. Alternatives that are all texts become a tree. -/
def Part.size (d : Direction) : Part → Nat
  | .empty | .look _ => stateSize
  | .literal text => stateSize * (bytesOf d text).length
  | .chars s => setSize d s
  | .capture body => body.size d + if d = .forward then 2 * stateSize else 0
  | .repetition least most body =>
    repetitionSize (body.size d) (body.shortest.any (0 < ·)) least most
  | .seq parts => sizeOfAll d parts
  | .alt parts =>
    match parts.mapM Part.literal? with
    | some texts =>
      let words := texts.map (bytesOf d)
      stateSize + treeSize ((words.map List.length).foldl max 0 + 1) words
    | none => sizeOfAll d parts + 2 * stateSize + branchSize * parts.length

/-- The size of the automata for some parts. -/
def Part.sizeOfAll (d : Direction) : List Part → Nat
  | [] => 0
  | p :: ps => p.size d + sizeOfAll d ps

end

/-- The size of what is around the automaton for a part: a loop over the text before a match unless that
has to be at the start, the bounds of the match, which are only noted forwards, and the end. -/
def frameSize (d : Direction) (p : Part) : Nat :=
  let loop := if p.anchored then stateSize else 3 * stateSize + 2 * branchSize
  loop + (if d = .forward then 2 * stateSize else 0) + stateSize

/-- Whether the automaton for a description fits, in both directions. -/
def Regex.fits (r : Regex) : Bool :=
  let p := r.part
  [Direction.forward, .backward].all fun d => p.size d + frameSize d p ≤ sizeLimit

end JavaNaming.Pattern
