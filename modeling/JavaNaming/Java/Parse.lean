import JavaNaming.Java.Scan
import JavaNaming.Java.Stack

/-!
# Parsing with recovery

The parser follows every reading of an ambiguous text at once, as versions of its stack. A version
that meets a token it cannot use pauses, and is forgotten if another version can go on. If none can,
the best of them recovers: it supplies a missing token, returns to an earlier state in which the
token can be used, or skips the token. Versions are compared by the cost of their damage, and the
best finished reading is the result, which `parseText` gives.
-/

namespace JavaNaming.Java

open Grammar

/-- Number of versions kept after each round. -/
def maxVersions : Nat := 6

/-- Number of versions by which a single reduction may exceed `maxVersions`. -/
def versionOverflow : Nat := 4

/-- Depth to which recovery looks for a state to return to. -/
def maxLandmarkDepth : Nat := 16

/-- A cost difference, weighted by progress, above which the costlier version is given up. -/
def maxCostDifference : Nat := 18 * skippedTreeCost

/-- A parse under way. -/
structure Parse where
  stack : Stack
  finished : Option Subtree
  accepted : Nat
  /-- The token read last. -/
  token : Option Subtree

namespace Parse

/-! ## Comparing versions -/

/-- What versions are compared by. -/
structure Standing where
  cost : Nat
  progress : Nat
  precedence : Int
  inError : Bool

/-- The outcome of a comparison. To `take` one side is to give up the other; to `prefer` it only
puts it first. -/
inductive Verdict where
  | takeLeft
  | preferLeft
  | neither
  | preferRight
  | takeRight
deriving DecidableEq

/-- Compare two versions. One outside error recovery beats one inside, then the lower cost wins,
then the higher precedence. -/
def Standing.compare (a b : Standing) : Verdict :=
  if !a.inError && b.inError then
    if a.cost < b.cost then .takeLeft else .preferLeft
  else if a.inError && !b.inError then
    if b.cost < a.cost then .takeRight else .preferRight
  else if a.cost < b.cost then
    if (b.cost - a.cost) * (1 + a.progress) > maxCostDifference then .takeLeft else .preferLeft
  else if b.cost < a.cost then
    if (a.cost - b.cost) * (1 + b.progress) > maxCostDifference then .takeRight else .preferRight
  else if a.precedence > b.precedence then .preferLeft
  else if b.precedence > a.precedence then .preferRight
  else .neither

/-- The standing of a version, whose progress must be up to date. -/
def standing (s : Stack) (v : Nat) : Standing where
  cost := s.cost v + if (s.head v).isPaused then skippedTreeCost else 0
  progress := s.progress v
  precedence := (s.top v).precedence
  inError := (s.head v).isPaused || (s.top v).state == errorState

/-- Look through the versions from `i` on for one that makes a version with standing `a` pointless. -/
def anyBetter (v : Nat) (a : Standing) : List Nat → Stack → Bool × Stack
  | [], s => (false, s)
  | i :: is, s =>
    if i = v ∨ !(s.head i).isActive ∨ (s.top i).position.byte < (s.top v).position.byte then
      anyBetter v a is s
    else
      let s := s.rebase i
      match a.compare (standing s i) with
      | .takeRight => (true, s)
      | .preferRight => if s.canMerge i v then (true, s) else anyBetter v a is s
      | _ => anyBetter v a is s

/-- Whether some finished or running version makes version `v` pointless if it had the given cost. -/
def betterExists (p : Parse) (v cost : Nat) : Bool × Parse :=
  if (p.finished.map fun t => decide (t.figures.cost ≤ cost)).getD false then (true, p)
  else
    let s := p.stack.rebase v
    let a : Standing :=
      { cost, progress := s.progress v, precedence := (s.top v).precedence, inError := false }
    let (better, s) := anyBetter v a (List.range s.size) s
    (better, { p with stack := s })

/-! ## Reading the next token -/

/-- The actions before a subtree that is a token. -/
def actionsFor (state : Nat) (t : Subtree) : List Action :=
  match t.symbol with
  | .terminal k => actions state k
  | _ => []

/-- Whether a token read in one state can serve in another. -/
def canReuse (state : Nat) (t : Subtree) : Bool :=
  match t.symbol with
  | .terminal k =>
    !(actions state k).isEmpty &&
      ((scanMode state == scanMode t.figures.state &&
          (k != identifier || t.figures.state == state)) ||
        ((t.size != 0 || k == endOfText) &&
          !(List.range terminalCount).any fun i =>
            (overlaps.getD k 0).testBit i && !(actions state i).isEmpty))
  | _ => false

/-- The next token of version `v`. -/
def lookahead (p : Parse) (v : Nat) : Subtree × Parse :=
  let f := p.stack.top v
  let fresh : Subtree × Parse :=
    let t := match lexeme f.state f.position with
      | .token t start stop =>
        Subtree.leaf (.terminal (promote f.state t start stop)) f.position start stop f.state
      | .garbage start stop => Subtree.leaf .error f.position start stop f.state
    (t, { p with token := some t })
  match p.token with
  | some t =>
    if t.figures.before.byte == f.position.byte && canReuse f.state t then (t, p) else fresh
  | none => fresh

/-! ## Reducing -/

/-- The state after a nonterminal, or the error state if there is none. -/
def stateAfter (state : Nat) (n : Nat) : Nat := (goto? state n).getD errorState

/-- The slices that end in one version, for each such version. -/
def groupSlices : List Stack.Slice → List (Nat × List Subtree × List (List Subtree))
  | [] => []
  | c :: cs =>
    match groupSlices cs with
    | (v, first, others) :: groups =>
      if v = c.version then (v, c.trees, first :: others) :: groups
      else (c.version, c.trees, []) :: (v, first, others) :: groups
    | [] => [(c.version, c.trees, [])]

/-- Build the subtree of a reduction from the best of several lists of children. Extras at their end
stay outside. -/
def buildReduced (r : Reduction) (p : Position) (first : List Subtree)
    (others : List (List Subtree)) : Subtree × List Subtree :=
  let symbol := Symbol.nonterminal r.lhs
  let build (trees : List Subtree) (layout : Nat) : Subtree × List Subtree :=
    let (children, extras) := Subtree.splitExtras trees
    (Subtree.node symbol children layout p, extras)
  others.foldl (fun best trees =>
    if best.1.prefersRight (build trees 0).1 then build trees r.layout else best)
    (build first r.layout)

/-- Push the result of a reduction for each group of slices. `removed` counts the versions that have
been merged or dropped so far. -/
def pushReduced (version : Nat) (r : Reduction) (limit : Nat) :
    List (Nat × List Subtree × List (List Subtree)) → Nat → Stack → Stack
  | [], _, s => s
  | (v, first, others) :: groups, removed, s =>
    let v := v - removed
    if v > limit then pushReduced version r limit groups (removed + 1) (s.remove v)
    else
      let (t, extras) := buildReduced r (s.top v).position first others
      let t := t.update fun f => { f with precedence := f.precedence + r.precedence }
      let state := stateAfter (s.top v).state r.lhs
      let s := (s.push v (some t) state).pushAll v extras state
      match s.mergeInto? v ((List.range v).filter (· ≠ version)) with
      | some s => pushReduced version r limit groups (removed + 1) s
      | none => pushReduced version r limit groups removed s

/-- Reduce on version `v`. The results are new versions, and the first of them is returned. -/
def reduce (s : Stack) (v : Nat) (r : Reduction) : Option Nat × Stack :=
  let count := s.size
  let (s, slices) := s.pop v r.length
  let limit := maxVersions + versionOverflow + s.haltedCount
  let s := pushReduced v r limit (groupSlices slices) 0 s
  (if s.size > count then some count else none, s)

/-! ## Accepting -/

/-- The finished subtree made of the pieces on the stack: the last piece that is no extra is opened,
and everything around it becomes part of it. -/
def closeRoot (trees : List Subtree) : Option Subtree :=
  let (front, extras) := Subtree.splitExtras trees
  front.getLast?.map fun last =>
    Subtree.node last.symbol (front.dropLast ++ last.children ++ extras) last.figures.layout
      last.figures.stop

/-- Finish version `v` before the end of the text. -/
def accept (p : Parse) (v : Nat) (endToken : Subtree) : Parse :=
  let s := p.stack.push v (some endToken) startState
  let (s, slices) := s.popAll v
  let p := slices.foldl (fun (p : Parse) c =>
    match closeRoot c.trees, p.finished with
    | some root, some best =>
      { p with
        accepted := p.accepted + 1
        finished := some (if best.prefersRight root then root else best) }
    | some root, none => { p with accepted := p.accepted + 1, finished := some root }
    | none, _ => p) p
  let s := match slices with
    | c :: _ => s.remove c.version
    | [] => s
  { p with stack := s.halt v }

/-! ## Recovering -/

/-- Return version `v` to a state `depth` subtrees back. What is passed becomes an error. -/
def returnTo (s : Stack) (v depth goal : Nat) : Bool × Stack :=
  let (s, slices) := s.pop v depth
  let step (acc : Option Nat × Stack) (c : Stack.Slice) : Option Nat × Stack :=
    let (done, s) := acc
    if done == some c.version then acc
    else if (s.top c.version).state ≠ goal then (done, s.halt c.version)
    else
      let (s, error) := s.popError c.version
      let trees := ((error.map (·.children)).getD []) ++ c.trees
      let (inside, extras) := Subtree.splitExtras trees
      let s := match inside with
        | [] => s
        | _ =>
          let t := Subtree.node .error inside 0 (s.top c.version).position
          s.push c.version (some (t.update fun f => { f with extra := true })) goal
      (some c.version, s.pushAll c.version extras goal)
  let (done, s) := slices.foldl step (none, s)
  (done.isSome, s)

/-- Look through the landmarks for a state to return to in which the token can be used. -/
def tryLandmarks (v : Nat) (t : Subtree) (versions cost progress : Nat) (here : Position) :
    List Landmark → Parse → Bool × Parse
  | [], p => (false, p)
  | m :: ms, p =>
    let taken := (List.range versions).any fun j =>
      (p.stack.top j).state == m.state && (p.stack.top j).position.byte == here.byte
    if m.state = errorState ∨ m.position.byte = here.byte ∨ taken then
      tryLandmarks v t versions cost progress here ms p
    else
      let depth := if progress > 0 then m.depth + 1 else m.depth
      let cost' := cost + (here.byte - m.position.byte) +
        skippedLineCost * (here.row - m.position.row)
      match p.betterExists v cost' with
      | (true, p) => (false, p)
      | (false, p) =>
        if (actionsFor m.state t).isEmpty then
          tryLandmarks v t versions cost progress here ms p
        else
          match returnTo p.stack v depth m.state with
          | (true, s) => (true, { p with stack := s })
          | (false, s) =>
            tryLandmarks v t versions cost progress here ms { p with stack := s }

/-- Remove the versions from `n` on that are not active. -/
def dropInactive (s : Stack) (n : Nat) : Stack :=
  { s with heads := s.heads.extract 0 n ++ (s.heads.extract n s.size).filter (·.isActive) }

/-- Bring the progress of the versions up to date, up to the first that is outside recovery. -/
def rebaseErrors : List Nat → Stack → Stack
  | [], s => s
  | v :: vs, s =>
    let s := s.rebase v
    if (standing s v).inError then rebaseErrors vs s else s

/-- Skip the token: it joins the damage that version `v` collects. -/
def skipToken (s : Stack) (v progress : Nat) (t : Subtree) : Stack :=
  let t := match t.symbol with
    | .terminal k =>
      if (actions startState k).getLast? == some .shiftExtra then
        t.update fun f => { f with extra := true }
      else t
    | _ => t
  let run := Subtree.node .errorRun [t] 0 t.figures.before
  let (s, run) :=
    if progress > 0 then
      let (s, slices) := s.pop v 1
      match slices with
      | c :: others =>
        let s := if others.isEmpty then s
          else { s with heads := s.heads.extract 0 (c.version + 1) }
        (s.renumber c.version v, Subtree.node .errorRun (c.trees ++ [run]) 0 t.figures.before)
      | [] => (s, run)
    else (s, run)
  let s := s.push v (some run) errorState
  rebaseErrors (List.range s.size) s

/-- Let version `v`, which is in the error state, deal with a token. -/
def recover (p : Parse) (v : Nat) (t : Subtree) : Parse :=
  let count := p.stack.size
  let here := (p.stack.top v).position
  let p := { p with stack := p.stack.rebase v }
  let progress := p.stack.progress v
  let cost := p.stack.cost v
  let landmarks := if t.symbol == .error then [] else ((p.stack.head v).landmarks).getD []
  let (returned, p) := tryLandmarks v t count cost progress here landmarks p
  let p := { p with stack := dropInactive p.stack count }
  if t.symbol == .terminal endOfText then
    let error := Subtree.node .error [] 0 (p.stack.top v).position
    { p with stack := p.stack.push v (some error) startState }.accept v t
  else if returned && p.stack.size > maxVersions then { p with stack := p.stack.halt v }
  else
    let cost' := cost + skippedTreeCost + (t.figures.stop.byte - t.figures.before.byte) +
      skippedLineCost * (t.figures.stop.row - t.figures.before.row)
    match p.betterExists v cost' with
    | (true, p) => { p with stack := p.stack.halt v }
    | (false, p) => { p with stack := skipToken p.stack v progress t }

/-- The reductions that a state offers before any of the given terminals, each once per left-hand
side and length. -/
def reductionChoices (state : Nat) (ts : List Nat) : List Reduction :=
  let all := ts.flatMap (reductionsAt state)
  (all.foldl (fun rs r =>
    if r.length = 0 ∨ rs.any (fun q => q.lhs == r.lhs && q.length == r.length) then rs
    else r :: rs) []).reverse

/-- Whether a state can shift one of the given terminals, or skip it in recovery. -/
def canShift (state : Nat) (ts : List Nat) : Bool :=
  ts.any fun t => (actions state t).any fun
    | .shift _ => true
    | .recover => true
    | _ => false

/-- Perform all reductions that are possible before the given terminals, on version `v` and on the
versions this creates. `strict` drops the versions that cannot go on. The answer is whether some
version can shift one of the terminals. -/
def reduceAll (start initial : Nat) (ts : List Nat) (strict : Bool) :
    Nat → Nat → Nat → Bool → Stack → Bool × Stack
  | 0, _, _, can, s => (can, s)
  | fuel + 1, round, v, can, s =>
    let count := s.size
    if v ≥ count then (can, s)
    else
      match s.mergeInto? v ((List.range v).filter (initial ≤ ·)) with
      | some s => reduceAll start initial ts strict fuel (round + 1) v can s
      | none =>
        let state := (s.top v).state
        let shifts := canShift state ts
        let (made, s) := (reductionChoices state ts).foldl
          (fun (acc : Option Nat × Stack) r => reduce acc.2 v r) (none, s)
        let after := if v = start then count else v + 1
        if shifts then reduceAll start initial ts strict fuel (round + 1) after true s
        else
          match made with
          | some w =>
            if round < maxVersions then
              reduceAll start initial ts strict fuel (round + 1) v can (s.renumber w v)
            else
              let s := if strict then s.remove v else s
              reduceAll start initial ts strict fuel (round + 1) after can s
          | none =>
            let s := if strict then s.remove v else s
            reduceAll start initial ts strict fuel (round + 1) after can s

/-- A bound on the number of rounds of `reduceAll`. -/
def reduceRounds : Nat := 10000

/-- All terminals but the end of the text, in order. -/
def allTerminals : List Nat := (List.range terminalCount).drop 1

/-- Perform all reductions on version `v` that are possible before terminal `t`, or before any
terminal if `t` is the end of the text. -/
def reduceBefore (s : Stack) (v t : Nat) : Bool × Stack :=
  if t = endOfText then reduceAll v s.size allTerminals false reduceRounds 0 v false s
  else reduceAll v s.size [t] true reduceRounds 0 v false s

/-- Supply the first missing token after which the lookahead terminal `t` can be used, on a further
version that has read what version `v` has. -/
def supplyMissing (v t : Nat) (p : Position) : List Nat → Stack → Bool × Stack
  | [], s => (false, s)
  | m :: ms, s =>
    let state := (s.top v).state
    match stateAfter? state m with
    | some q =>
      if q ≠ errorState ∧ q ≠ state ∧ !(reductionsAt q t).isEmpty then
        let w := s.size
        let tried := reduceBefore ((s.copy v).push w (some (Subtree.supplied m p)) q) w t
        if tried.1 then tried else supplyMissing v t p ms tried.2
      else supplyMissing v t p ms s
    | none => supplyMissing v t p ms s

/-- Put the versions `vs` into the error state. The first of them for which that works continues
with a missing token as well. -/
def enterError (t : Option Nat) (p : Position) : List Nat → Bool → Stack → Stack
  | [], _, s => s
  | v :: vs, supplied, s =>
    let (supplied, s) :=
      match supplied, t with
      | false, some t => supplyMissing v t p allTerminals s
      | _, _ => (supplied, s)
    enterError t p vs supplied (s.push v none errorState)

/-- Start recovery on version `v`, which cannot use the token `t`. -/
def handleError (p : Parse) (v : Nat) (t : Subtree) : Parse :=
  let before := p.stack.size
  let (_, s) := reduceAll v before allTerminals false reduceRounds 0 v false p.stack
  let after := s.size
  let here := (s.top v).position
  let terminal := match t.symbol with
    | .terminal k => some k
    | _ => none
  let others := (List.range (after - before)).map (· + before)
  let s := enterError terminal here (v :: others) false s
  let s := others.foldl (fun s _ => (s.merge? v before).getD s) s
  let s := s.noteLandmarks v maxLandmarkDepth
  { p with stack := s }.recover v t

/-! ## Rounds -/

/-- Perform the actions before a token on version `v`, from left to right. `none` means that the
version has moved on; otherwise the answer is whether a reduction was made, and the last version
that one created. -/
def perform (v : Nat) (state : Nat) (t : Subtree) :
    List Action → Bool × Option Nat → Parse → Option (Bool × Option Nat) × Parse
  | [], done, p => (some done, p)
  | a :: as, done, p =>
    match a with
    | .shift q => (none, { p with stack := p.stack.push v (some t) q })
    | .repeatShift _ => perform v state t as done p
    | .shiftExtra =>
      let t := t.update fun f => { f with extra := true }
      (none, { p with stack := p.stack.push v (some t) state })
    | .reduce r =>
      let (made, s) := reduce p.stack v r
      perform v state t as (true, made.or done.2) { p with stack := s }
    | .accept => (none, p.accept v t)
    | .recover => (none, p.recover v t)

/-- Read a keyword that state `state` cannot use as an identifier, if that helps. -/
def demote (state : Nat) (t : Subtree) : Option Subtree :=
  match t.symbol with
  | .terminal k =>
    if keywords.any (·.2 == k) && !(actions state identifier).isEmpty then
      some (t.update fun f => { f with symbol := .terminal identifier })
    else none
  | _ => none

/-- Let version `v` use token `t`: reduce as often as needed, then shift it or pause. -/
def useToken (v : Nat) : Nat → Subtree → Parse → Parse
  | 0, _, p => { p with stack := p.stack.halt v }
  | fuel + 1, t, p =>
    let state := (p.stack.top v).state
    match perform v state t (actionsFor state t) (false, none) p with
    | (none, p) => p
    | (some (_, some w), p) =>
      useToken v fuel t { p with stack := p.stack.renumber w v }
    | (some (true, none), p) => { p with stack := p.stack.halt v }
    | (some (false, none), p) =>
      match demote state t with
      | some t => useToken v fuel t p
      | none =>
        if state = errorState then p.recover v t
        else
          let count := (p.stack.top v).nodeCount
          let h := { p.stack.head v with status := .paused t, countAtError := count }
          { p with stack := p.stack.setHead v h }

/-- Advance version `v` by one token. -/
def advance (fuel : Nat) (p : Parse) (v : Nat) : Parse :=
  let (t, p) := p.lookahead v
  useToken v fuel t p

/-- Advance version `v` until it has got further than the versions before it. -/
def advanceFar (fuel v : Nat) : Nat → Nat → Parse → Nat × Parse
  | 0, last, p => (last, p)
  | n + 1, last, p =>
    if (p.stack.head v).isActive then
      let p := p.advance fuel v
      let here := (p.stack.top v).position.byte
      if here > last ∨ (v > 0 ∧ here = last) then (here, p)
      else advanceFar fuel v n last p
    else (last, p)

/-- Advance all versions in turn, those created on the way included. -/
def advanceAll (fuel : Nat) : Nat → Nat → Nat → Parse → Nat × Parse
  | 0, _, last, p => (last, p)
  | n + 1, v, last, p =>
    if v < p.stack.size then
      let (last, p) := advanceFar fuel v fuel last p
      advanceAll fuel n (v + 1) last p
    else (last, p)

/-- Compare version `i`, whose standing is `a`, with the versions from `j` up to it. The answer is
the next version to look at. -/
def settle (a : Standing) : Nat → Nat → Nat → Stack → Nat × Stack
  | 0, i, _, s => (i + 1, s)
  | fuel + 1, i, j, s =>
    if j < i then
      let s := s.rebase j
      match (standing s j).compare a with
      | .takeLeft => (i, s.remove i)
      | .takeRight => settle a fuel (i - 1) j (s.remove j)
      | .preferRight =>
        match s.merge? j i with
        | some s => (i, s)
        | none => settle a fuel i (j + 1) (s.swap i j)
      | _ =>
        match s.merge? j i with
        | some s => (i, s)
        | none => settle a fuel i (j + 1) s
    else (i + 1, s)

/-- Remove versions that are clearly worse than others and put the rest in order. The answer is the
least cost of a version outside recovery. -/
def sortVersions : Nat → Nat → Option Nat → Stack → Option Nat × Stack
  | 0, _, least, s => (least, s)
  | fuel + 1, i, least, s =>
    if i < s.size then
      if (s.head i).isHalted then sortVersions fuel i least (s.remove i)
      else
        let s := s.rebase i
        let a := standing s i
        let least :=
          if a.inError then least
          else some (match least with
            | some c => min c a.cost
            | none => a.cost)
        let (i, s) := settle a s.size i 0 s
        sortVersions fuel i least s
    else (least, s)

/-- Resume the best paused version if no version before it goes on, and forget the other paused
ones. `n` versions are left to look at, from `i` on. -/
def resumePaused : Nat → Nat → Bool → Option Nat → Parse → Option Nat × Parse
  | 0, _, _, least, p => (least, p)
  | n + 1, i, going, least, p =>
    match (p.stack.head i).status with
    | .paused t =>
      if !going && p.accepted < maxVersions then
        let cost := p.stack.cost i
        let h := p.stack.head i
        let p := { p with stack := p.stack.setHead i { h with status := .active } }
        resumePaused n (i + 1) true (some cost) (p.handleError i t)
      else resumePaused n i going least { p with stack := p.stack.remove i }
    | _ => resumePaused n (i + 1) true least p

/-- Tidy up after a round. The answer is the least cost of the versions that go on. -/
def condense (p : Parse) : Option Nat × Parse :=
  let (least, s) := sortVersions (2 * p.stack.size + 1) 0 none p.stack
  let s := { s with heads := s.heads.extract 0 maxVersions }
  resumePaused s.size 0 false least { p with stack := s }

/-- Whether the finished reading is better than any version that goes on. -/
def isDone (p : Parse) (least : Option Nat) : Bool :=
  p.stack.size == 0 ||
    match p.finished, least with
    | some t, some c => t.figures.cost < c
    | some _, none => true
    | none, _ => false

/-- Play rounds until the best reading is found. -/
def rounds (fuel : Nat) : Nat → Nat → Parse → Option Subtree
  | 0, _, _ => none
  | n + 1, last, p =>
    let (last, p) := advanceAll fuel fuel 0 last p
    let (least, p) := p.condense
    if p.isDone least then p.finished else rounds fuel n last p

end Parse

/-- Parse a text. There is no result only if the text needs more rounds than the parser plays. -/
def parseText (text : List Char) : Option Subtree :=
  let fuel := 1000 * (text.length + 10)
  Parse.rounds fuel fuel 0 ⟨Stack.initial (.start text), none, 0, none⟩

end JavaNaming.Java
