import JavaNaming.Pattern.Regex

/-!
# Parts of an automaton

Before an automaton is built for a description, the description is simplified: texts are put together,
choices between single characters become sets, and what all alternatives start with is taken out of them.
`Regex.part` is what is left.
-/

namespace JavaNaming.Pattern

open Unicode (CharSet)

/-- A simplified description. -/
inductive Part where
  | empty
  | literal (text : List Char)
  | chars (set : CharSet)
  | look (l : Look)
  | capture (body : Part)
  | repetition (least : Nat) (most : Option Nat) (body : Part)
  | seq (parts : List Part)
  | alt (parts : List Part)

namespace Part

/-! ## Lengths of matches -/

mutual

/-- The length of the longest match, if there is one. -/
def longest : Part → Option Nat
  | .empty | .look _ => some 0
  | .literal text => some text.length
  | .chars set => if set.ranges.isEmpty then none else some 1
  | .capture body => body.longest
  | .repetition _ most body => do return (← most) * (← body.longest)
  | .seq parts => do return (← longests parts).sum
  | .alt parts => do (← longests parts).max?

/-- The lengths of the longest matches, if there is one for each part. -/
def longests : List Part → Option (List Nat)
  | [] => some []
  | p :: ps => do return (← p.longest) :: (← longests ps)

end

mutual

/-- The length of the shortest match, if there is a match. -/
def shortest : Part → Option Nat
  | .empty | .look _ => some 0
  | .literal text => some text.length
  | .chars set => if set.ranges.isEmpty then none else some 1
  | .capture body => body.shortest
  | .repetition least _ body => do return least * (← body.shortest)
  | .seq parts => do return (← shortests parts).sum
  | .alt parts => do (← shortests parts).min?

/-- The lengths of the shortest matches, if there is a match for each part. -/
def shortests : List Part → Option (List Nat)
  | [] => some []
  | p :: ps => do return (← p.shortest) :: (← shortests ps)

end

mutual

/-- Whether every match is at the start of the text. -/
def anchored : Part → Bool
  | .look l => l = .start
  | .capture body => body.anchored
  | .repetition least _ body => least != 0 && body.anchored
  | .seq parts => firstAnchored parts
  | .alt parts => allAnchored parts
  | .empty | .literal _ | .chars _ => false

/-- Whether this holds of a part before which nothing is matched. -/
def firstAnchored : List Part → Bool
  | [] => false
  | p :: ps => p.anchored || (p.longest == some 0 && firstAnchored ps)

/-- Whether this holds of all of some parts. -/
def allAnchored : List Part → Bool
  | [] => true
  | p :: ps => p.anchored && allAnchored ps

end

/-! ## Simplification -/

mutual

/-- Whether two parts are the same. No two groups that capture are. -/
def same : Part → Part → Bool
  | .empty, .empty => true
  | .literal a, .literal b => a == b
  | .chars a, .chars b => a = b
  | .look a, .look b => a = b
  | .repetition least most a, .repetition least' most' b =>
    least == least' && most == most' && a.same b
  | .seq as, .seq bs => sameAll as bs
  | .alt as, .alt bs => sameAll as bs
  | _, _ => false

/-- Whether two lists of parts are the same. -/
def sameAll : List Part → List Part → Bool
  | [], [] => true
  | a :: as, b :: bs => a.same b && sameAll as bs
  | _, _ => false

end

/-- The parts that follow each other. -/
def pieces : Part → List Part
  | .empty => []
  | .seq parts => parts
  | p => [p]

/-- The alternatives. -/
def choices : Part → List Part
  | .alt parts => parts
  | p => [p]

/-- Put a part in front of others. Texts are put together. -/
def join : Part → List Part → List Part
  | .literal a, .literal b :: ps => .literal (a ++ b) :: ps
  | p, ps => p :: ps

/-- One part after the other. -/
def concat (parts : List Part) : Part :=
  match (parts.flatMap pieces).foldr join [] with
  | [] => .empty
  | [p] => p
  | ps => .seq ps

/-- The only character of a text. -/
def single? : Part → Option CharSet
  | .literal [c] => some (.single c)
  | _ => none

/-- The characters of a set. -/
def set? : Part → Option CharSet
  | .chars set => some set
  | _ => none

/-- The part for a set of characters. -/
def ofSet (set : CharSet) : Part :=
  match set.ranges with
  | [(a, b)] => if a = b then .literal [Char.ofNat a] else .chars set
  | _ => .chars set

/-- The parts at the start of two lists that are the same. -/
def common : List Part → List Part → List Part
  | a :: as, b :: bs => if a.same b then a :: common as bs else []
  | _, _ => []

/-- The parts of a sequence of several. -/
def seq? : Part → Option (List Part)
  | .seq parts => some parts
  | _ => none

/-- One of several parts. What all of them start with is taken out at most `fuel` times. -/
def choice (fuel : Nat) (parts : List Part) : Part :=
  let ps := parts.flatMap choices
  match ps with
  | [] => .chars .empty
  | [p] => p
  | _ =>
    match ps.mapM single?, ps.mapM set?, fuel, ps.mapM seq? with
    | some sets, _, _, _ | none, some sets, _, _ => ofSet (sets.foldl CharSet.union .empty)
    | none, none, fuel + 1, some (first :: rest) =>
      match rest.foldl common first with
      | [] => .alt ps
      | start =>
        let ends := (first :: rest).map fun qs => concat (qs.drop start.length)
        concat (start ++ [choice fuel ends])
    | _, _, _, _ => .alt ps

/-- A part a number of times. What matches nothing but the empty text is matched at most once. -/
def repeated (least : Nat) (most : Option Nat) (body : Part) : Part :=
  let (least, most) :=
    if body.longest = some 0 then (min least 1, some (min (most.getD 1) 1)) else (least, most)
  if most = some 0 then .empty
  else if least = 1 ∧ most = some 1 then body
  else .repetition least most body

end Part

/-- The number of parts, which bounds how often something can be taken out of alternatives. -/
def Regex.depth : Regex → Nat
  | .empty | .chars _ | .look _ => 1
  | .capture body | .repetition _ body => body.depth + 1
  | .seq a b | .alt a b => a.depth + b.depth + 1

/-- The alternatives of a description, simplified. -/
def Regex.alternatives : Regex → List Part
  | .empty => [.empty]
  | .chars set => [.ofSet set]
  | .look l => [.look l]
  | .capture body => [.capture (.choice body.depth body.alternatives)]
  | .repetition counts body =>
    [.repeated counts.least counts.most (.choice body.depth body.alternatives)]
  | .seq a b => [.concat [.choice a.depth a.alternatives, .choice b.depth b.alternatives]]
  | .alt a b => .choice a.depth a.alternatives :: b.alternatives

/-- A description, simplified. -/
def Regex.part (r : Regex) : Part := .choice r.depth r.alternatives

end JavaNaming.Pattern
