import JavaNaming.Syntax.Tree
import JavaNaming.Text.Lines

/-!
# Damaged nodes

`firstDamage?` finds the first error node or missing token of a tree, without looking below nodes
that are marked as sound throughout. `reason?` says what is wrong there and quotes the text.
-/

namespace JavaNaming.Syntax

namespace Tree

/-- Whether the root is an error node or a missing token. -/
def isDamage (t : Tree) : Bool := t.label.mark != .sound

mutual

/-- The first damaged node, each node before its children. Sound subtrees are not searched. -/
def firstDamage? : Tree → Option Tree
  | node l cs =>
    if l.mark != .sound then some (node l cs)
    else if l.damaged then firstDamageAll? cs
    else none

/-- The first damaged node of several trees. -/
def firstDamageAll? : List Tree → Option Tree
  | [] => none
  | t :: ts => (firstDamage? t).or (firstDamageAll? ts)

end

end Tree

/-- What is wrong at a place. -/
inductive Reason where
  | missing (kind : String)
  | unexpected (snippet : String)
  | unexpectedEnd
deriving DecidableEq, Repr

/-- The wording of a reason. -/
def Reason.message : Reason → String
  | missing kind => s!"missing `{kind}`"
  | unexpected snippet => s!"unexpected `{snippet}`"
  | unexpectedEnd => "unexpected end of input"

/-- A snippet has at most this many characters. -/
def snippetLength : Nat := 24

/-- The start of a text, up to the end of its first line and not too long to be quoted. -/
def snippet (text : List Char) : List Char :=
  (text.takeWhile fun c => c != '\n' && c != '\r').take snippetLength

/-- What is wrong with a damaged node. -/
def reason? (source : List Char) (t : Tree) : Option Reason :=
  if t.label.mark = .missing then some (.missing t.kind)
  else (t.text? source).map fun text =>
    match snippet text with
    | [] => .unexpectedEnd
    | quoted => .unexpected (String.ofList quoted)

end JavaNaming.Syntax
