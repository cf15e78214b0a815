import JavaNaming.Pattern.Escape

/-!
# Classes in brackets

The reader of a class keeps a stack of the brackets that are open and of the operations whose right
side is still to come. Operations have no precedence over each other and group to the left.
-/

namespace JavaNaming.Pattern

/-- The items read so far between two brackets or operations. -/
structure Items where
  start : Spot
  stop : Spot
  /-- The items, the last one first. -/
  found : List ClassSet

namespace Items

/-- No items, at a place. -/
def none (s : Spot) : Items := ⟨s, s, []⟩

/-- Add an item. -/
def push (i : Items) (c : ClassSet) : Items :=
  { start := if i.found.isEmpty then c.span.start else i.start
    stop := c.span.stop
    found := c :: i.found }

/-- The items as one class. -/
def toSet (i : Items) : ClassSet :=
  match i.found with
  | [] => .nothing ⟨i.start, i.stop⟩
  | [c] => c
  | cs => .union ⟨i.start, i.stop⟩ cs.reverse

end Items

/-- What waits for the end of a class: an open bracket, with the items before it and the part that
opened it, or an operation with its left side. -/
inductive Waiting where
  | bracket (outer : Items) (opening : Span) (negated : Bool)
  | operation (kind : SetOp) (lhs : ClassSet)

/-- The error for a class that does not end: it points to the innermost open bracket. -/
def unclosed {α : Type} (here : Span) : List Waiting → Read α
  | [] => fail .classUnclosed here
  | .bracket _ opening _ :: _ => fail .classUnclosed opening
  | .operation _ _ :: ws => unclosed here ws

/-- Apply the operation on top of the stack, if there is one, to its right side. -/
def applyOp (rhs : ClassSet) : List Waiting → ClassSet × List Waiting
  | .operation kind lhs :: ws => (.op ⟨lhs.span.start, rhs.span.stop⟩ kind lhs rhs, ws)
  | ws => (rhs, ws)

/-- Take hyphens at the start of a class as themselves. -/
def readHyphens (start : Spot) : Nat → Reader → Items → Read (Items × Reader)
  | 0, r, items => .ok (items, r)
  | fuel + 1, r, items =>
    if r.sees '-' then
      let items := items.push (.literal ⟨r.charSpan, '-', false⟩)
      let r := r.bumpSkip
      if r.atEnd then fail .classUnclosed (.point start) else readHyphens start fuel r items
    else .ok (items, r)

/-- Read an opening bracket, its negation, and what stands for itself at the start of a class. -/
def readOpening (r : Reader) : Read ((Span × Bool × Items) × Reader) := do
  let start := r.spot
  let r := r.bumpSkip
  if r.atEnd then fail .classUnclosed (r.since start)
  else
    let negated := r.sees '^'
    let r := if negated then r.bumpSkip else r
    if r.atEnd then fail .classUnclosed (r.since start)
    else
      let (items, r) ← readHyphens start (r.rest.length + 1) r (.none r.spot)
      if items.found.isEmpty && r.sees ']' then
        let items := items.push (.literal ⟨r.charSpan, ']', false⟩)
        let r := r.bumpSkip
        if r.atEnd then fail .classUnclosed (r.since start)
        else return ((r.since start, negated, items), r)
      else return ((r.since start, negated, items), r)

/-- Read the name of an ASCII class, such as `[:alpha:]`, if one stands here. -/
def readAsciiClass? (r : Reader) : Option (ClassSet × Reader) := do
  let start := r.spot
  let r ← r.bumpIf? "[:"
  let negated := r.sees '^'
  let r := if negated then r.bump else r
  let name := r.rest.takeWhile (· != ':')
  let r := name.foldl (fun r _ => r.bump) r
  let r ← r.bumpIf? ":]"
  let kind ← AsciiClass.ofName? (String.ofList name)
  return (.ascii (r.since start) kind negated, r)

/-- Read a character or an escape within a class. -/
def readItem (r : Reader) : Read (Expr × Reader) :=
  match r.char? with
  | none => .ok (.empty r.here, r)
  | some '\\' => readEscape r
  | some c => .ok (.literal ⟨r.charSpan, c, false⟩, r.bump)

/-- An item as a class. -/
def itemSet : Expr → Read ClassSet
  | .literal l => .ok (.literal l)
  | .shorthand s k n => .ok (.shorthand s k n)
  | .property s q n => .ok (.property s q n)
  | e => fail .classEscapeInvalid e.span

/-- An item as an end of a range. -/
def itemLiteral : Expr → Read Literal
  | .literal l => .ok l
  | e => fail .classRangeLiteral e.span

/-- Read an item or a range. -/
def readRange (stack : List Waiting) (r : Reader) : Read (ClassSet × Reader) := do
  let (first, r) ← readItem r
  let r := r.skip
  if r.atEnd then unclosed r.here stack
  else if !r.sees '-' || r.peekSkip? == some ']' || r.peekSkip? == some '-' then
    return (← itemSet first, r)
  else
    let r := r.bumpSkip
    if r.atEnd then unclosed r.here stack
    else
      let (last, r) ← readItem r
      let span : Span := ⟨first.span.start, last.span.stop⟩
      let a ← itemLiteral first
      let b ← itemLiteral last
      if a.char ≤ b.char then return (.range span a b, r) else fail .classRangeInvalid span

/-- The operation that comes next. -/
def setOp? (r : Reader) : Option SetOp :=
  match r.char?, r.peek? with
  | some '&', some '&' => some .intersection
  | some '-', some '-' => some .difference
  | some '~', some '~' => some .symmetricDifference
  | _, _ => none

/-- A class that is being read: at its end, or with brackets and operations that wait. -/
inductive ClassProgress where
  | closed (e : Expr)
  | waiting (stack : List Waiting) (items : Items)

/-- Take an ASCII class, or open a bracket. -/
def openBracket (stack : List Waiting) (items : Items) (r : Reader) :
    Read (ClassProgress × Reader) := do
  match if stack.isEmpty then none else readAsciiClass? r with
  | some (c, r) => return (.waiting stack (items.push c), r)
  | none =>
    let ((opening, negated, inner), r) ← readOpening r
    return (.waiting (.bracket items opening negated :: stack) inner, r)

/-- Close the innermost bracket. -/
def closeBracket (stack : List Waiting) (items : Items) (r : Reader) :
    Read (ClassProgress × Reader) :=
  match applyOp items.toSet stack with
  | (set, .bracket outer opening negated :: stack) =>
    let r := r.bump
    let span := r.since opening.start
    if stack.isEmpty then .ok (.closed (.bracketed span negated set), r)
    else .ok (.waiting stack (outer.push (.bracketed span negated set)), r)
  | (_, stack) => unclosed r.here stack

/-- Read one bracket, operation, item or range. -/
def readClassStep (stack : List Waiting) (items : Items) (r : Reader) :
    Read (ClassProgress × Reader) := do
  match r.char? with
  | none => unclosed r.here stack
  | some '[' => openBracket stack items r
  | some ']' => closeBracket stack items r
  | some _ =>
    match setOp? r with
    | some kind =>
      let (lhs, stack) := applyOp items.toSet stack
      let r := r.bump.bump
      return (.waiting (.operation kind lhs :: stack) (.none r.spot), r)
    | none =>
      let (c, r) ← readRange stack r
      return (.waiting stack (items.push c), r)

/-- Read on in a class until the bracket at the bottom of the stack is closed. -/
def readClassLoop : Nat → List Waiting → Items → Reader → Read (Expr × Reader)
  | 0, stack, _, r => unclosed r.here stack
  | fuel + 1, stack, items, r => do
    match ← readClassStep stack items r.skip with
    | (.closed e, r) => return (e, r)
    | (.waiting stack items, r) => readClassLoop fuel stack items r

/-- Read a class. The reader is at its opening bracket. -/
def readClass (r : Reader) : Read (Expr × Reader) :=
  readClassLoop (r.rest.length + 1) [] (.none r.spot) r

end JavaNaming.Pattern
