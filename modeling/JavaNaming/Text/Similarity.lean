/-!
# Similar words

The similarity of two words is the mean of three shares: of the letters of each word that have a partner
in the other one, and of the partners that stand in the same order. Partners are equal letters that
stand not too far from each other.
-/

namespace JavaNaming.Text

/-- A share, as a fraction. -/
structure Share where
  num : Nat
  den : Nat
deriving DecidableEq, Repr

/-- Whether a share is less than another. -/
def Share.lt (a b : Share) : Bool := a.num * b.den < b.num * a.den

/-- Mark the first letter `c` of a word that has no mark and stands between two positions. `i` is the
position of the first letter of `word`. -/
def markPartner (c : Char) (low high : Nat) : Nat → List (Char × Bool) → Option (List (Char × Bool))
  | _, [] => none
  | i, (d, marked) :: word =>
    if i < high ∧ low ≤ i ∧ c = d ∧ marked = false then some ((d, true) :: word)
    else (markPartner c low high (i + 1) word).map ((d, marked) :: ·)

/-- The letters of a word that find partners, in order, and the other word with the partners marked. `i`
is the position of the first letter, and partners stand at most `reach` positions away. -/
def findPartners (reach : Nat) :
    Nat → List Char → List (Char × Bool) → List Char × List (Char × Bool)
  | _, [], other => ([], other)
  | i, c :: word, other =>
    match markPartner c (i - reach) (i + reach + 1) 0 other with
    | none => findPartners reach (i + 1) word other
    | some other =>
      let (found, other) := findPartners reach (i + 1) word other
      (c :: found, other)

/-- The similarity of two words. -/
def similarity (a b : List Char) : Share :=
  let reach := max a.length b.length / 2 - 1
  let (found, other) := findPartners reach 0 a (b.map (·, false))
  let partners := (other.filter (·.2)).map (·.1)
  let m := found.length
  if m = 0 then ⟨0, 1⟩
  else
    let moved := ((found.zip partners).filter fun (x, y) => x ≠ y).length / 2
    ⟨m * m * b.length + m * m * a.length + (m - moved) * a.length * b.length,
      3 * a.length * b.length * m⟩

/-- The share above which words count as similar. -/
def similarityLimit : Share := ⟨7, 10⟩

/-- The word of a list that is most similar to a word, the last one of several, if one is similar. -/
def mostSimilar? (word : List Char) (words : List String) : Option String :=
  let step := fun (best : Option (Share × String)) (w : String) =>
    let s := similarity word w.toList
    if similarityLimit.lt s then
      match best with
      | some (t, _) => if s.lt t then best else some (s, w)
      | none => some (s, w)
    else best
  (words.foldl step none).map (·.2)

end JavaNaming.Text
