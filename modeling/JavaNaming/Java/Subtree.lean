import JavaNaming.Java.Grammar.Productions
import JavaNaming.Java.Grammar.Symbols
import JavaNaming.Java.Position

/-!
# Subtrees

What the parser keeps on its stack: tokens, reduced productions and pieces of damaged text. A
subtree carries the figures by which competing readings of a text are compared. Its cost counts the
damage in it, its precedence adds up the dynamic precedences of its productions.
-/

namespace JavaNaming.Java

/-- The symbol of a subtree. `error` is damaged text that ends up in the syntax tree and
`errorRun` is damaged text that is still being collected. -/
inductive Symbol where
  | terminal (t : Nat)
  | nonterminal (n : Nat)
  | error
  | errorRun
deriving DecidableEq, Repr

namespace Symbol

/-- The visibility of the nodes that a symbol makes. -/
def visibility : Symbol → Grammar.Visibility
  | terminal t => (Grammar.terminalInfo t).visibility
  | nonterminal n => (Grammar.nonterminalInfo n).visibility
  | error => .named
  | errorRun => .hidden

/-- The kind of the nodes that a symbol makes. -/
def kind : Symbol → String
  | terminal t => (Grammar.terminalInfo t).name
  | nonterminal n => (Grammar.nonterminalInfo n).name
  | error => "ERROR"
  | errorRun => "_ERROR"

/-- The order in which symbols are preferred when all else is equal. -/
def rank : Symbol → Nat
  | terminal t => t
  | nonterminal n => Grammar.terminalCount + n
  | errorRun => 65534
  | error => 65535

end Symbol

/-! ## Costs of damage -/

/-- The cost of entering error recovery once. -/
def recoveryCost : Nat := 500

/-- The cost of a token that is not in the text, besides the recovery. -/
def missingCost : Nat := 110

/-- The cost of a skipped node. -/
def skippedTreeCost : Nat := 100

/-- The cost of a skipped line. A skipped byte costs one. -/
def skippedLineCost : Nat := 30

/-! ## Subtrees and their figures -/

/-- What is known of a subtree besides its children. -/
structure Figures where
  symbol : Symbol
  /-- Where the blanks before the subtree start. -/
  before : Position
  start : Position
  stop : Position
  /-- The subtree may stand anywhere and belongs to no position of a production. -/
  extra : Bool
  /-- A token that the parser supplied. -/
  missing : Bool
  cost : Nat
  precedence : Int
  /-- Number of visible nodes strictly below. -/
  descendants : Nat
  /-- Number of visible nodes that are children once hidden nodes are opened. -/
  visibleChildren : Nat
  layout : Nat
  /-- The state in which a token was read. -/
  state : Nat

/-- A node of the forest on the stack. -/
inductive Subtree where
  | mk (figures : Figures) (children : List Subtree)

namespace Subtree

/-- What is known of a subtree besides its children. -/
def figures : Subtree → Figures
  | mk f _ => f

/-- The children, hidden ones and extras included. -/
def children : Subtree → List Subtree
  | mk _ cs => cs

/-- The symbol of a subtree. -/
def symbol (t : Subtree) : Symbol := t.figures.symbol

/-- Whether a subtree is a node of its own in the syntax tree. -/
def visible (t : Subtree) : Bool := t.symbol.visibility != .hidden

/-- Change what is known of a subtree. -/
def update (t : Subtree) (g : Figures → Figures) : Subtree :=
  mk (g t.figures) t.children

/-- Bytes of blanks before a subtree. -/
def padding (t : Subtree) : Nat := t.figures.start.byte - t.figures.before.byte

/-- Bytes of the subtree itself. -/
def size (t : Subtree) : Nat := t.figures.stop.byte - t.figures.start.byte

/-- A token, or a piece of garbage if the symbol is `error`. The end of the text is an extra. -/
def leaf (symbol : Symbol) (before start stop : Position) (state : Nat) : Subtree :=
  mk { symbol, before, start, stop, state, extra := symbol == .terminal Grammar.endOfText,
       missing := false, cost := 0, precedence := 0, descendants := 0, visibleChildren := 0,
       layout := 0 } []

/-- A token that the parser supplies at a position. -/
def supplied (t : Nat) (p : Position) : Subtree :=
  mk { symbol := .terminal t, before := p, start := p, stop := p, state := 0, extra := false,
       missing := true, cost := missingCost + recoveryCost, precedence := 0, descendants := 0,
       visibleChildren := 0, layout := 0 } []

/-- Whether a symbol stands for damaged text. -/
def isDamage (s : Symbol) : Bool := s == .error || s == .errorRun

/-- What one child adds to its parent's figures. `i` is the child's position in the production. -/
def addChild (layout : Grammar.Layout) (acc : Figures × Nat) (child : Subtree) : Figures × Nat :=
  let (f, i) := acc
  let c := child.figures
  let skipped :=
    if isDamage f.symbol && !c.extra && !(c.symbol == .error && child.children.isEmpty) then
      if child.visible then skippedTreeCost
      else if child.children.isEmpty then 0
      else skippedTreeCost * c.visibleChildren
    else 0
  let named := !c.extra && (layout.slot i).kind.isSome
  let own := if named || child.visible then 1 else 0
  let opened :=
    if named || child.visible then 1
    else if child.children.isEmpty then 0
    else c.visibleChildren
  ({ f with
      stop := c.stop
      cost := f.cost + (if c.symbol == .errorRun then 0 else c.cost) + skipped
      precedence := f.precedence + c.precedence
      descendants := f.descendants + c.descendants + own
      visibleChildren := f.visibleChildren + opened },
    if c.extra then i else i + 1)

/-- A subtree with children. Without any it stands at position `p`. -/
def node (symbol : Symbol) (children : List Subtree) (layout : Nat) (p : Position) : Subtree :=
  let first := match children.head? with
    | some c => (c.figures.before, c.figures.start)
    | none => (p, p)
  let f : Figures :=
    { symbol, before := first.1, start := first.2, stop := first.2, extra := false,
      missing := false, cost := 0, precedence := 0, descendants := 0, visibleChildren := 0,
      layout, state := 0 }
  let f := (children.foldl (addChild (Grammar.layout layout)) (f, 0)).1
  let damage :=
    if isDamage symbol then
      recoveryCost + (f.stop.byte - f.start.byte) + skippedLineCost * (f.stop.row - f.start.row)
    else 0
  mk { f with cost := f.cost + damage } children

/-- Number of nodes a subtree contributes to the progress of a parse. Damage still being collected
counts too, so that skipping is progress. -/
def nodeCount (t : Subtree) : Nat :=
  t.figures.descendants + (if t.visible then 1 else 0) + (if t.symbol == .errorRun then 1 else 0)

/-- Split off the extras at the end of a list of subtrees. -/
def splitExtras (ts : List Subtree) : List Subtree × List Subtree :=
  let r := ts.reverse
  ((r.dropWhile (·.figures.extra)).reverse, (r.takeWhile (·.figures.extra)).reverse)

/-- Whether two subtrees on the stack are interchangeable. Of two damaged ones one suffices. -/
def interchangeable : Option Subtree → Option Subtree → Bool
  | none, none => true
  | some a, some b =>
    a.symbol == b.symbol &&
      ((a.figures.cost > 0 && b.figures.cost > 0) ||
        (a.padding == b.padding && a.size == b.size &&
          a.children.length == b.children.length && a.figures.extra == b.figures.extra))
  | _, _ => false

mutual

/-- Order subtrees by symbol, then by number of children, then by the children from left to right. -/
def order : Subtree → Subtree → Ordering
  | mk f cs, mk g ds =>
    (compare f.symbol.rank g.symbol.rank).then
      ((compare cs.length ds.length).then (orderAll cs ds))

/-- Order lists of subtrees by the first place where they differ. -/
def orderAll : List Subtree → List Subtree → Ordering
  | [], [] => .eq
  | [], _ :: _ => .lt
  | _ :: _, [] => .gt
  | c :: cs, d :: ds => (order c d).then (orderAll cs ds)

end

/-- Whether the second of two readings of the same text is the better one. -/
def prefersRight (left right : Subtree) : Bool :=
  if right.figures.cost < left.figures.cost then true
  else if left.figures.cost < right.figures.cost then false
  else if left.figures.precedence < right.figures.precedence then true
  else if right.figures.precedence < left.figures.precedence then false
  else if left.figures.cost > 0 then true
  else order left right == .gt

end Subtree

end JavaNaming.Java
