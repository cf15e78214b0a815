import JavaNaming.Pattern.Expr
import JavaNaming.Unicode.Property

/-!
# Matching

A `Regex` says which stretches of a text match, without regard to how it was written. `ends` gives,
for a set of places in a text, all places where a match from one of them can end. `found` says
whether there is a match anywhere.

Places count characters. A set of places is a list in increasing order.
-/

namespace JavaNaming.Pattern

/-- Conditions on a place in a text. Words are made of Unicode or of ASCII characters. -/
inductive Look where
  | start
  | stop
  | startLine
  | stopLine
  | startLineCrlf
  | stopLineCrlf
  | wordBoundary (unicode : Bool)
  | notWordBoundary (unicode : Bool)
  | wordStart (unicode : Bool)
  | wordEnd (unicode : Bool)
  | wordStartHalf (unicode : Bool)
  | wordEndHalf (unicode : Bool)
deriving DecidableEq, Repr

/-- A description of the stretches of a text that match. -/
inductive Regex where
  | empty
  | chars (set : Unicode.CharSet)
  | look (l : Look)
  | capture (body : Regex)
  | repetition (counts : Counts) (body : Regex)
  | seq (first second : Regex)
  | alt (first second : Regex)
deriving Repr

/-- Whether a character belongs to words. -/
def isWordChar (unicode : Bool) (c : Char) : Bool :=
  if unicode then Unicode.word.contains c else c.isAlphanum || c == '_'

namespace Look

/-- Whether a condition holds between two characters, either of which is missing at an end of the
text. -/
def holdsBetween (before after : Option Char) : Look → Bool
  | start => before.isNone
  | stop => after.isNone
  | startLine => before.isNone || before == some '\n'
  | stopLine => after.isNone || after == some '\n'
  | startLineCrlf =>
    before.isNone || before == some '\n' || (before == some '\r' && after != some '\n')
  | stopLineCrlf =>
    after.isNone || after == some '\r' || (after == some '\n' && before != some '\r')
  | wordBoundary u => before.any (isWordChar u) != after.any (isWordChar u)
  | notWordBoundary u => before.any (isWordChar u) == after.any (isWordChar u)
  | wordStart u => !before.any (isWordChar u) && after.any (isWordChar u)
  | wordEnd u => before.any (isWordChar u) && !after.any (isWordChar u)
  | wordStartHalf u => !before.any (isWordChar u)
  | wordEndHalf u => !after.any (isWordChar u)

/-- Whether a condition holds at a place of a text. -/
def holds (text : Array Char) (l : Look) (i : Nat) : Bool :=
  l.holdsBetween (if i = 0 then none else text[i - 1]?) text[i]?

end Look

/-! ## Sets of places -/

/-- The places in either of two sets. -/
def mergePlaces : List Nat → List Nat → List Nat
  | [], ys => ys
  | x :: xs, ys =>
    let rest := mergePlaces xs ys
    insertPlace x rest
where
  /-- Add a place to a set. -/
  insertPlace (x : Nat) : List Nat → List Nat
    | [] => [x]
    | y :: ys => if x < y then x :: y :: ys else if x = y then y :: ys else y :: insertPlace x ys

/-- Apply a function a number of times, or until nothing is left. -/
def iteratePlaces (f : List Nat → List Nat) : Nat → List Nat → List Nat
  | 0, ps => ps
  | _ + 1, [] => []
  | n + 1, ps => iteratePlaces f n (f ps)

/-- All places that a function reaches within a number of steps. `seen` holds the places so far and
`fresh` those that the last step added. -/
def reachPlaces (f : List Nat → List Nat) : Nat → List Nat → List Nat → List Nat
  | 0, seen, _ => seen
  | _ + 1, seen, [] => seen
  | n + 1, seen, fresh =>
    let new := (f fresh).filter fun p => !seen.contains p
    reachPlaces f n (mergePlaces new seen) new

namespace Regex

/-- The places where a match from one of the given places can end. After as many rounds as the text
has places, further rounds of a repetition lead nowhere new. -/
def ends (text : Array Char) : Regex → List Nat → List Nat
  | empty, ps => ps
  | chars set, ps =>
    ps.filterMap fun i => if (text[i]?).any set.contains then some (i + 1) else none
  | look l, ps => ps.filter (l.holds text)
  | capture body, ps => ends text body ps
  | seq a b, ps => ends text b (ends text a ps)
  | alt a b, ps => mergePlaces (ends text a ps) (ends text b ps)
  | repetition counts body, ps =>
    let rounds := text.size + 2
    let first := iteratePlaces (ends text body) (min counts.least rounds) ps
    let more := match counts.most with
      | none => rounds
      | some m => min (m - counts.least) rounds
    reachPlaces (ends text body) more first first

/-- Whether some stretch of the text matches. -/
def found (r : Regex) (text : List Char) : Bool :=
  !(r.ends text.toArray (List.range (text.length + 1))).isEmpty

/-- Several descriptions one after the other. -/
def sequence : List Regex → Regex
  | [] => empty
  | [r] => r
  | r :: rs => seq r (sequence rs)

/-- The union of the sets, if all descriptions are sets of characters. -/
def unionOfSets? : List Regex → Option Unicode.CharSet
  | [] => some .empty
  | chars s :: rs => (unionOfSets? rs).map s.union
  | _ :: _ => none

/-- Any of several descriptions. Single characters are joined into one set. -/
def choice : List Regex → Regex
  | [] => chars .empty
  | [r] => r
  | r :: rs =>
    match unionOfSets? (r :: rs) with
    | some s => chars s
    | none => alt r (choice rs)

end Regex

end JavaNaming.Pattern
