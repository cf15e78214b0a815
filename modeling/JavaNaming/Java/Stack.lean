import JavaNaming.Java.Grammar.Automaton
import JavaNaming.Java.Subtree

/-!
# The stack of an ambiguous parse

A stack is a graph of frames. Each version of the parse is a head that points at a frame, and a
frame has a link to every frame it can follow, with the subtree in between. Two versions that reach
the same state at the same place with the same cost share a frame from there on, and the frame then
has a link for each of the ways that lead to it.
-/

namespace JavaNaming.Java

/-- The step from a frame back to an earlier one. A link without a subtree marks the place where
error recovery began. -/
structure Link where
  frame : Nat
  tree : Option Subtree

/-- A place in the graph: the parser's state after some prefix of the text. -/
structure Frame where
  state : Nat
  position : Position
  links : List Link
  cost : Nat
  nodeCount : Nat
  precedence : Int

/-- What a version of the parse is doing. A paused version has met a token it cannot use. -/
inductive Status where
  | active
  | paused (lookahead : Subtree)
  | halted

/-- A state that lies below the place where error recovery began. -/
structure Landmark where
  position : Position
  depth : Nat
  state : Nat

/-- One version of the parse. -/
structure Head where
  frame : Nat
  /-- The node count when the version last met an error. -/
  countAtError : Nat
  status : Status
  landmarks : Option (List Landmark)

namespace Head

/-- Whether the version goes on reading. -/
def isActive (h : Head) : Bool :=
  match h.status with
  | .active => true
  | _ => false

/-- Whether the version waits for error recovery. -/
def isPaused (h : Head) : Bool :=
  match h.status with
  | .paused _ => true
  | _ => false

/-- Whether the version is given up. -/
def isHalted (h : Head) : Bool :=
  match h.status with
  | .halted => true
  | _ => false

end Head

/-- All versions of a parse. -/
structure Stack where
  frames : Array Frame
  heads : Array Head

namespace Stack

/-- At most this many links leave a frame. -/
def maxLinks : Nat := 8

/-- At most this many ways back are followed at once. -/
def maxWalkers : Nat := 64

/-- The stack before anything has been read. -/
def initial (p : Position) : Stack where
  frames := #[⟨Grammar.startState, p, [], 0, 0, 0⟩]
  heads := #[⟨0, 0, .active, none⟩]

/-- Number of versions. -/
def size (s : Stack) : Nat := s.heads.size

/-- The frame with a given number. -/
def frame (s : Stack) (i : Nat) : Frame :=
  s.frames.getD i ⟨Grammar.errorState, ⟨0, 0, []⟩, [], 0, 0, 0⟩

/-- The head of a version. -/
def head (s : Stack) (v : Nat) : Head :=
  s.heads.getD v ⟨0, 0, .halted, none⟩

/-- The frame that a version has reached. -/
def top (s : Stack) (v : Nat) : Frame := s.frame (s.head v).frame

/-- Change the head of a version. -/
def setHead (s : Stack) (v : Nat) (h : Head) : Stack :=
  { s with heads := s.heads.setIfInBounds v h }

/-- Give up a version and forget it. -/
def remove (s : Stack) (v : Nat) : Stack :=
  { s with heads := s.heads.eraseIdxIfInBounds v }

/-- Stop a version. It is forgotten later. -/
def halt (s : Stack) (v : Nat) : Stack :=
  s.setHead v { s.head v with status := .halted }

/-- Number of stopped versions. -/
def haltedCount (s : Stack) : Nat := s.heads.countP (·.isHalted)

/-- Move a version to a new frame, above the subtree `t`. -/
def push (s : Stack) (v : Nat) (t : Option Subtree) (state : Nat) : Stack :=
  let h := s.head v
  let below := s.frame h.frame
  let frame : Frame := match t with
    | none => { below with state, links := [⟨h.frame, none⟩] }
    | some t =>
      { state, links := [⟨h.frame, some t⟩], position := t.figures.stop,
        cost := below.cost + t.figures.cost, nodeCount := below.nodeCount + t.nodeCount,
        precedence := below.precedence + t.figures.precedence }
  let h := { h with
    frame := s.frames.size
    countAtError := if t.isNone then below.nodeCount else h.countAtError }
  ⟨s.frames.push frame, s.heads.setIfInBounds v h⟩

/-- Push several subtrees that leave the state as it is. -/
def pushAll (s : Stack) (v : Nat) (ts : List Subtree) (state : Nat) : Stack :=
  ts.foldl (fun s t => s.push v (some t) state) s

/-- The precedence of the subtree on a link. -/
def treePrecedence (t : Option Subtree) : Int := (t.map (·.figures.precedence)).getD 0

/-- Whether two frames may stand for one another. -/
def sameFrame (a b : Frame) : Bool :=
  a.state == b.state && a.position.byte == b.position.byte && a.cost == b.cost

/-- Add a link to frame `f`. A link that is already there is kept once, with the subtree of the
higher precedence, and links to frames that may stand for one another are joined further down. -/
def addLink : Nat → Array Frame → Nat → Link → Array Frame
  | 0, frames, _, _ => frames
  | fuel + 1, frames, f, link =>
    if link.frame = f then frames
    else
      match frames[f]?, frames[link.frame]? with
      | some frame, some below =>
        let offered := below.precedence + treePrecedence link.tree
        let same (l : Link) : Bool :=
          Subtree.interchangeable l.tree link.tree &&
            (l.frame == link.frame ||
              (frames[l.frame]?.map fun b => sameFrame b below).getD false)
        match frame.links.findIdx? same with
        | some i =>
          match frame.links[i]? with
          | some l =>
            if l.frame = link.frame then
              if treePrecedence l.tree < treePrecedence link.tree then
                frames.setIfInBounds f
                  { frame with links := frame.links.set i link, precedence := offered }
              else frames
            else
              let frames := below.links.foldl (fun fs k => addLink fuel fs l.frame k) frames
              frames.modify f fun frame =>
                { frame with precedence := max frame.precedence offered }
          | none => frames
        | none =>
          if frame.links.length ≥ maxLinks then frames
          else
            let count := below.nodeCount + (link.tree.map (·.nodeCount)).getD 0
            frames.setIfInBounds f
              { frame with
                links := frame.links ++ [link]
                nodeCount := max frame.nodeCount count
                precedence := max frame.precedence offered }
      | _, _ => frames

/-- Whether two versions may go on as one. -/
def canMerge (s : Stack) (v w : Nat) : Bool :=
  (s.head v).isActive && (s.head w).isActive && sameFrame (s.top v) (s.top w)

/-- Let version `w` go on as version `v`, if the two may. -/
def merge? (s : Stack) (v w : Nat) : Option Stack :=
  if s.canMerge v w then
    let f := (s.head v).frame
    let frames := (s.top w).links.foldl (fun fs l => addLink fs.size fs f l) s.frames
    let s : Stack := { s with frames }
    let h := s.head v
    let s := if (s.top v).state = Grammar.errorState then
        s.setHead v { h with countAtError := (s.top v).nodeCount }
      else s
    some (s.remove w)
  else none

/-- Merge version `w` into the first of the versions `vs` that it may go on as. -/
def mergeInto? (s : Stack) (w : Nat) (vs : List Nat) : Option Stack :=
  vs.findSome? fun v => s.merge? v w

/-- Let version `v` take the place of version `w`, which stands before it. -/
def renumber (s : Stack) (v w : Nat) : Stack :=
  if v = w then s
  else
    let source := s.head v
    let source := match source.landmarks with
      | none => { source with landmarks := (s.head w).landmarks }
      | some _ => source
    (s.setHead w source).remove v

/-- A further version that has read what version `v` has. -/
def copy (s : Stack) (v : Nat) : Stack :=
  { s with heads := s.heads.push { s.head v with landmarks := none } }

/-- Exchange two versions. -/
def swap (s : Stack) (v w : Nat) : Stack :=
  let a := s.head v
  let b := s.head w
  (s.setHead v b).setHead w a

/-- The cost of a version. -/
def cost (s : Stack) (v : Nat) : Nat :=
  let fresh := (s.top v).state == Grammar.errorState &&
    ((s.top v).links.head?.map (·.tree.isNone)).getD false
  (s.top v).cost + if (s.head v).isPaused || fresh then recoveryCost else 0

/-- Number of nodes that a version has read since it last met an error. -/
def progress (s : Stack) (v : Nat) : Nat :=
  (s.top v).nodeCount - (s.head v).countAtError

/-- Start counting a version's progress anew if it has gone back behind its last error. -/
def rebase (s : Stack) (v : Nat) : Stack :=
  let h := s.head v
  if (s.top v).nodeCount < h.countAtError then
    s.setHead v { h with countAtError := (s.top v).nodeCount }
  else s

/-! ## Going back -/

/-- A way back through the graph: the frame reached, the subtrees passed, from left to right, and
how many of them are no extras. -/
structure Walker where
  frame : Nat
  trees : List Subtree
  depth : Nat

/-- The end of a way back: the version that now stands there, and the subtrees passed. -/
structure Slice where
  version : Nat
  trees : List Subtree

/-- What to do at a frame on the way back. -/
structure Verdict where
  take : Bool
  stop : Bool

/-- Go back over one link. -/
def Walker.follow (w : Walker) (l : Link) : Walker where
  frame := l.frame
  trees := match l.tree with
    | some t => t :: w.trees
    | none => w.trees
  depth := match l.tree with
    | some t => if t.figures.extra then w.depth else w.depth + 1
    | none => w.depth + 1

/-- Record the end of a way back. Ways that end in one frame end in one version. -/
def addSlice (s : Stack) (slices : List Slice) (origin frame : Nat) (trees : List Subtree) :
    Stack × List Slice :=
  let known := slices.reverse.findIdx? fun c => (s.head c.version).frame == frame
  match known with
  | some i =>
    let place := slices.length - i
    let version := ((slices[place - 1]?).map (·.version)).getD 0
    (s, slices.insertIdx place ⟨version, trees⟩)
  | none =>
    let h : Head := ⟨frame, (s.head origin).countAtError, .active, none⟩
    ({ s with heads := s.heads.push h }, slices ++ [⟨s.size, trees⟩])

/-- The state of a walk back: the ways still followed are `kept` and `added`, both reversed. -/
structure Walk (σ : Type) where
  stack : Stack
  slices : List Slice
  memory : σ
  kept : List Walker
  added : List Walker
  count : Nat

/-- Take every way one link further back, or end it. -/
def walkStep {σ : Type} (origin : Nat) (visit : Stack → σ → Walker → σ × Verdict)
    (w : Walk σ) (walker : Walker) : Walk σ :=
  let links := (w.stack.frame walker.frame).links
  let (memory, verdict) := visit w.stack w.memory walker
  let (stack, slices) :=
    if verdict.take then addSlice w.stack w.slices origin walker.frame walker.trees
    else (w.stack, w.slices)
  match links, verdict.stop with
  | first :: others, false =>
    let room := maxWalkers - w.count
    let forks := (others.take room).map walker.follow
    { stack, slices, memory, kept := walker.follow first :: w.kept,
      added := forks.reverse ++ w.added, count := w.count + forks.length }
  | _, _ => { w with stack, slices, memory, count := w.count - 1 }

/-- Follow all ways back from a version until each has ended. -/
def walkBack {σ : Type} (origin : Nat) (visit : Stack → σ → Walker → σ × Verdict) :
    Nat → Stack → List Slice → σ → List Walker → Stack × List Slice × σ
  | 0, s, slices, memory, _ => (s, slices, memory)
  | _, s, slices, memory, [] => (s, slices, memory)
  | fuel + 1, s, slices, memory, walkers =>
    let w : Walk σ := ⟨s, slices, memory, [], [], walkers.length⟩
    let w := walkers.foldl (walkStep origin visit) w
    walkBack origin visit fuel w.stack w.slices w.memory (w.kept.reverse ++ w.added.reverse)

/-- Follow all ways back from version `v`. -/
def walk {σ : Type} (s : Stack) (v : Nat) (memory : σ)
    (visit : Stack → σ → Walker → σ × Verdict) : Stack × List Slice × σ :=
  walkBack v visit (s.frames.size + 1) s [] memory [⟨(s.head v).frame, [], 0⟩]

/-- Go back from version `v` over `n` subtrees that are no extras. -/
def pop (s : Stack) (v n : Nat) : Stack × List Slice :=
  let (s, slices, _) := s.walk v () fun _ _ w => ((), ⟨w.depth == n, w.depth == n⟩)
  (s, slices)

/-- Go back from version `v` to the start of the text. -/
def popAll (s : Stack) (v : Nat) : Stack × List Slice :=
  let (s, slices, _) := s.walk v () fun s _ w => ((), ⟨(s.frame w.frame).links.isEmpty, false⟩)
  (s, slices)

/-- Take the error directly below version `v` off the stack, if there is one. -/
def popError (s : Stack) (v : Nat) : Stack × Option Subtree :=
  let isError (t : Subtree) : Bool := t.symbol == .error
  if (s.top v).links.any fun l => (l.tree.map isError).getD false then
    let (t, slices, _) := s.walk v false fun _ found w =>
      match w.trees with
      | [] => (found, ⟨false, false⟩)
      | t :: _ => if !found && isError t then (true, ⟨true, true⟩) else (found, ⟨false, true⟩)
    match slices with
    | c :: _ => (t.renumber c.version v, c.trees.head?)
    | [] => (t, none)
  else (s, none)

/-- Note the states below version `v`, down to a given depth. -/
def noteLandmarks (s : Stack) (v maxDepth : Nat) : Stack :=
  let (_, _, marks) := s.walk v ([] : List Landmark) fun s marks w =>
    let f := s.frame w.frame
    if w.depth > maxDepth then (marks, ⟨false, true⟩)
    else
      -- `marks` is reversed, so the ones of this depth or below come first.
      let known := (marks.takeWhile fun m => m.depth ≥ w.depth).any fun m =>
        m.depth == w.depth && m.state == f.state
      (if known then marks else ⟨f.position, w.depth, f.state⟩ :: marks, ⟨false, false⟩)
  s.setHead v { s.head v with landmarks := some marks.reverse }

end Stack

end JavaNaming.Java
