import JavaNaming.Java.Parse
import JavaNaming.Syntax.Damage

/-!
# Java sources

`parse` reads a Java text into a syntax tree. It refuses every text in whose tree some node is
damaged, and says where the first damage is.
-/

namespace JavaNaming.Java

open Syntax (Tree Label Mark Reason)

/-- Put a node into a field, unless it is in one already. -/
def inField (field : Option String) : Tree → Tree
  | .node l cs => .node { l with field := l.field.or field } cs

mutual

/-- The visible nodes of a subtree that stands in a given slot of its parent. Hidden nodes are opened
and pass their field on to their children. -/
def visibleNodes (slot : Grammar.Slot) : Subtree → List Tree
  | .mk f cs =>
    let children := visibleChildren (Grammar.layout f.layout) 0 cs
    if slot.kind.isSome || f.symbol.visibility != .hidden then
      let label : Label :=
        { kind := slot.kind.getD f.symbol.kind
          named := slot.kind.isSome || f.symbol.visibility == .named
          range := Text.Range.upTo f.start.byte f.stop.byte
          field := slot.field
          mark := if f.missing then .missing else if f.symbol == .error then .error else .sound
          damaged := f.cost > 0 }
      [.node label children]
    else children.map (inField slot.field)

/-- The visible nodes of several subtrees, the first of them at position `i` of a production. -/
def visibleChildren (layout : Grammar.Layout) (i : Nat) : List Subtree → List Tree
  | [] => []
  | t :: ts =>
    if t.figures.extra then
      visibleNodes ⟨none, none⟩ t ++ visibleChildren layout i ts
    else
      visibleNodes (layout.slot i) t ++ visibleChildren layout (i + 1) ts

end

/-- Why a text could not be read. -/
inductive ParseError where
  /-- The parser gave up. -/
  | aborted
  | syntaxError (location : Text.Location) (reason : Reason)
deriving DecidableEq, Repr

/-- The wording of an error. -/
def ParseError.message : ParseError → String
  | aborted => "parser produced no syntax tree"
  | syntaxError l r => s!"syntax error at {l.render}: {r.message}"

/-- The error for a damaged node. A node whose range is no part of the text has none. -/
def damageError (source : List Char) (t : Tree) : ParseError :=
  match Text.locate? source t.range.start, Syntax.reason? source t with
  | some l, some r => .syntaxError l r
  | _, _ => .aborted

/-- The syntax tree of a text, damaged where the text is. -/
def recoveredTree? (source : List Char) : Option Tree :=
  (parseText source).bind fun t => (visibleNodes ⟨none, none⟩ t).head?

/-- The syntax tree of a text, refused if some node of it is damaged. -/
def undamaged (source : List Char) (t : Tree) : Except ParseError Tree :=
  match t.firstDamage? with
  | some d => .error (damageError source d)
  | none => .ok t

/-- The syntax tree of a text without damage. -/
def parse (source : List Char) : Except ParseError Tree :=
  match recoveredTree? source with
  | none => .error .aborted
  | some t => undamaged source t

end JavaNaming.Java
