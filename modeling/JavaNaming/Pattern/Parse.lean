import JavaNaming.Pattern.Class
import JavaNaming.Pattern.Group

/-!
# Reading patterns

`Expr.parse` reads a pattern. The reader keeps the expressions of the current sequence, the
alternatives that came before it, and a stack of the groups that are open.
-/

namespace JavaNaming.Pattern

/-- A sequence of expressions that is being read. -/
structure Sequence where
  start : Spot
  /-- The expressions, the last one first. -/
  found : List Expr

/-- A sequence as one expression, up to a given place. -/
def Sequence.toExpr (s : Sequence) (stop : Spot) : Expr :=
  match s.found with
  | [] => .empty ⟨s.start, stop⟩
  | [e] => e
  | es => .concat ⟨s.start, stop⟩ es.reverse

/-- What is being read between two parentheses: the current sequence, and the alternatives before it,
the last one first. -/
structure Body where
  start : Spot
  alternatives : List Expr
  sequence : Sequence

namespace Body

/-- Nothing, at a place. -/
def none (s : Spot) : Body := ⟨s, [], ⟨s, []⟩⟩

/-- Add an expression to the current sequence. -/
def push (b : Body) (e : Expr) : Body :=
  { b with sequence := { b.sequence with found := e :: b.sequence.found } }

/-- A body as one expression, up to a given place. -/
def toExpr (b : Body) (stop : Spot) : Expr :=
  let last := b.sequence.toExpr stop
  match b.alternatives with
  | [] => last
  | earlier => .alternation ⟨b.start, stop⟩ (last :: earlier).reverse

end Body

/-- An open group: the body it stands in, its opening, and whether blanks were passed over before
it. -/
structure Frame where
  outer : Body
  opening : Span
  captures : Bool
  items : List FlagItem
  verbose : Bool

/-- A pattern that is being read, with the groups that are open. -/
structure Parsing where
  reader : Reader
  body : Body
  stack : List Frame
  names : GroupNames

/-- Add an expression to the current sequence and go on behind it. -/
def Parsing.push (p : Parsing) (e : Expr) (r : Reader) : Parsing :=
  { p with reader := r, body := p.body.push e }

/-! ## Groups and alternatives -/

/-- Open a group, or turn switches on and off. -/
def openGroup (p : Parsing) : Read Parsing := do
  let opening := p.reader.charSpan
  let ((what, names), r) ← readOpeningParen p.names p.reader
  let p := { p with names := names }
  match what with
  | .switches span items =>
    let verbose := (flagState? .verbose items).getD r.verbose
    return p.push (.flags span items) { r with verbose := verbose }
  | .group captures items =>
    let verbose := (flagState? .verbose items).getD r.verbose
    let frame : Frame := ⟨p.body, opening, captures, items, r.verbose⟩
    return { p with
      reader := { r with verbose := verbose }
      body := .none r.spot
      stack := frame :: p.stack }

/-- Close the innermost group. -/
def closeGroup (p : Parsing) : Read Parsing :=
  match p.stack with
  | [] => fail .groupUnopened p.reader.charSpan
  | frame :: stack =>
    let r := p.reader.bump
    let e := Expr.group (r.since frame.opening.start) frame.captures frame.items
      (p.body.toExpr p.reader.spot)
    .ok { p with
      reader := { r with verbose := frame.verbose }
      body := frame.outer.push e
      stack := stack }

/-- Begin another alternative. -/
def nextAlternative (p : Parsing) : Parsing :=
  let r := p.reader.bump
  let last := p.body.sequence.toExpr p.reader.spot
  { p with
    reader := r
    body := ⟨p.body.start, last :: p.body.alternatives, ⟨r.spot, []⟩⟩ }

/-! ## Repetitions -/

/-- The expression that a repetition applies to, and the sequence before it. -/
def repeated (p : Parsing) : Read (Expr × Sequence) :=
  match p.body.sequence.found with
  | [] => fail .repetitionMissing p.reader.here
  | .empty _ :: _ => fail .repetitionMissing p.reader.here
  | .flags _ _ :: _ => fail .repetitionMissing p.reader.here
  | e :: es => .ok (e, { p.body.sequence with found := es })

/-- Put a repetition in place of the last expression. -/
def pushRepetition (p : Parsing) (counts : Counts) (body : Expr) (before : Sequence) (r : Reader) :
    Parsing :=
  let e := Expr.repetition ⟨body.span.start, r.spot⟩ counts body
  { p with reader := r, body := { p.body with sequence := before }.push e }

/-- Go past a question mark, which makes a repetition prefer to be short. -/
def pastLazyMark (r : Reader) : Reader := if r.sees '?' then r.bump else r

/-- Repeat the last expression, by a mark of one character. -/
def readMark (counts : Counts) (p : Parsing) : Read Parsing := do
  let (body, before) ← repeated p
  return pushRepetition p counts body before (pastLazyMark p.reader.bump)

/-- Pass over blanks, in every form of pattern. -/
def passBlanks : List Char → Reader → Reader
  | c :: cs, r => if isBlank c then passBlanks cs r.bump else r
  | [], r => r

/-- Counts are smaller than this. -/
def countLimit : Nat := 4294967296

/-- Read a count and the blanks after it, in verbose form also comments. The reader goes past it also
where it is wrong. -/
def readCount (r : Reader) : Read Nat × Reader :=
  let r := passBlanks r.rest r
  let start := r.spot
  let (digits, r) := r.takeWhile Char.isDigit (r.rest.length + 1)
  let span := r.since start
  let (_, r) := r.takeWhile isBlank (r.rest.length + 1)
  let n := digits.foldl (fun acc c => acc * 10 + (c.toNat - '0'.toNat)) 0
  if digits.isEmpty then (fail .countEmpty span, r)
  else if n < countLimit then (.ok n, r)
  else (fail .decimalInvalid span, r)

/-- Read the counts between braces: the least number and, after a comma, the largest. -/
def readCounts (start : Spot) (r : Reader) : Read ((Nat × Option Nat) × Reader) := do
  let r := r.bumpSkip
  if r.atEnd then fail .countUnclosed (r.since start)
  else
    let (first, r) := readCount r
    if r.atEnd then fail .countUnclosed (r.since start)
    else if r.sees ',' then
      let r := r.bumpSkip
      if r.atEnd then fail .countUnclosed (r.since start)
      else if r.sees '}' then return ((← first, none), r)
      else
        let least ← first
        let (last, r) := readCount r
        return ((least, some (← last)), r)
    else
      let n ← first
      return ((n, some n), r)

/-- Repeat the last expression, by counts in braces. -/
def readRepetition (p : Parsing) : Read Parsing := do
  let start := p.reader.spot
  let (body, before) ← repeated p
  let ((least, most), r) ← readCounts start p.reader
  if !r.sees '}' then fail .countUnclosed (r.since start)
  else
    let r := pastLazyMark r.bumpSkip
    if h : ∀ m ∈ most, least ≤ m then return pushRepetition p ⟨least, most, h⟩ body before r
    else fail .countInvalid (r.since start)

/-! ## The whole pattern -/

/-- Read one expression, mark or parenthesis that starts with character `c`. -/
def readStep (p : Parsing) (c : Char) : Read Parsing := do
  let r := p.reader
  match c with
  | '(' => openGroup p
  | ')' => closeGroup p
  | '|' => return nextAlternative p
  | '[' =>
    let (e, r) ← readClass r
    return p.push e r
  | '?' => readMark ⟨0, some 1, fun _ _ => Nat.zero_le _⟩ p
  | '*' => readMark ⟨0, none, fun _ _ => Nat.zero_le _⟩ p
  | '+' => readMark ⟨1, none, nofun⟩ p
  | '{' => readRepetition p
  | '\\' =>
    let (e, r) ← readEscape r
    return p.push e r
  | '.' => return p.push (.dot r.charSpan) r.bump
  | '^' => return p.push (.assertion r.charSpan .startLine) r.bump
  | '$' => return p.push (.assertion r.charSpan .endLine) r.bump
  | c => return p.push (.literal ⟨r.charSpan, c, false⟩) r.bump

/-- Read on to the end of the pattern. -/
def readSteps : Nat → Parsing → Read Parsing
  | 0, p => .ok p
  | fuel + 1, p =>
    let p := { p with reader := p.reader.skip }
    match p.reader.char? with
    | none => .ok p
    | some c => do readSteps fuel (← readStep p c)

/-- What was read, when the end is reached. No group may be open. -/
def finish (p : Parsing) : Read Expr :=
  match p.stack with
  | [] => .ok (p.body.toExpr p.reader.spot)
  | frame :: _ => fail .groupUnclosed frame.opening

/-! ## Nesting -/

/-- Go one level deeper, if that is not too deep. -/
def deeper (depth : Nat) (span : Span) : Read Nat :=
  if depth < nestLimit then .ok (depth + 1) else fail .nestedTooDeep span

mutual

/-- Check that a class is not nested too deep. -/
def ClassSet.checkDepth (depth : Nat) : ClassSet → Read Unit
  | .bracketed span _ set => do set.checkDepth (← deeper depth span)
  | .union span items => do ClassSet.checkDepthAll (← deeper depth span) items
  | .op span _ lhs rhs => do
    let d ← deeper depth span
    lhs.checkDepth d
    rhs.checkDepth d
  | _ => .ok ()

/-- Check that several classes are not nested too deep. -/
def ClassSet.checkDepthAll (depth : Nat) : List ClassSet → Read Unit
  | [] => .ok ()
  | c :: cs => do
    c.checkDepth depth
    ClassSet.checkDepthAll depth cs

end

mutual

/-- Check that an expression is not nested too deep. -/
def Expr.checkDepth (depth : Nat) : Expr → Read Unit
  | .bracketed span _ set => do set.checkDepth (← deeper depth span)
  | .repetition span _ body => do body.checkDepth (← deeper depth span)
  | .group span _ _ body => do body.checkDepth (← deeper depth span)
  | .concat span parts => do Expr.checkDepthAll (← deeper depth span) parts
  | .alternation span parts => do Expr.checkDepthAll (← deeper depth span) parts
  | _ => .ok ()

/-- Check that several expressions are not nested too deep. -/
def Expr.checkDepthAll (depth : Nat) : List Expr → Read Unit
  | [] => .ok ()
  | e :: es => do
    e.checkDepth depth
    Expr.checkDepthAll depth es

end

/-- Read a pattern. -/
def Expr.parse (pattern : List Char) : Read Expr := do
  let start : Parsing := ⟨.ofPattern pattern, .none .origin, [], []⟩
  let e ← finish (← readSteps (pattern.length + 1) start)
  e.checkDepth 0
  return e

end JavaNaming.Pattern
