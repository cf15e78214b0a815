import JavaNaming.Java.Grammar.Automaton
import JavaNaming.Java.Grammar.ScanRows
import JavaNaming.Java.Position
import JavaNaming.Unicode.Identifier

/-!
# Reading tokens

The scanner reads one token at a time. Which tokens it looks for depends on the scanning mode of the
parser's state. It takes the longest match; blanks before the token are skipped. Where the mode has
no token the scanner tries the mode of error recovery, and where that has none either it collects
characters until some token can be read again.
-/

namespace JavaNaming.Java

open Grammar

/-- The class of a character in the scanner's automaton. -/
def charClass (c : Char) : Nat :=
  if c.toNat < 128 then asciiClasses.getD c.toNat otherClass
  else if Unicode.isIdentifierStart c then startClass
  else if Unicode.isIdentifierContinue c || c.toNat == 0xA2 then continueClass
  else otherClass

/-- How a run of the scanner ended: the longest token found with the position after it, the place
where the token starts, and the place where the automaton stopped. -/
structure ScanResult where
  found : Option (Nat × Position)
  start : Position
  stop : Position

/-- The row of a scanner state. -/
def scanRow (s : Nat) : ScanRow :=
  scanRows.getD s ⟨none, none, 0⟩

/-- Run the automaton from state `s` at position `⟨byte, row, text⟩`, where the token starts at
`start` and `found` is the longest token so far. -/
def scanFrom (s byte row : Nat) (start : Position) (found : Option (Nat × Position)) :
    List Char → ScanResult
  | [] =>
    let here : Position := ⟨byte, row, []⟩
    let found := match (scanRow s).complete with
      | some t => some (t, here)
      | none => found
    match (scanRow s).atEnd.bind fun e => (scanRow e).complete with
    | some t => ⟨some (t, here), start, here⟩
    | none => ⟨found, start, here⟩
  | c :: cs =>
    let here : Position := ⟨byte, row, c :: cs⟩
    let found := match (scanRow s).complete with
      | some t => some (t, here)
      | none => found
    let move := rowEntry (scanRow s).moves 9 (charClass c)
    if move = 0 then ⟨found, start, here⟩
    else
      let after := here.next
      let start := if move % 2 = 1 then after else start
      scanFrom (move / 2 - 1) after.byte after.row start found cs

/-- Run the automaton in a scanning mode. A byte order mark at the start of the text is skipped. -/
def scan (mode : Nat) (p : Position) : ScanResult :=
  let p := match p.byte, p.rest with
    | 0, '\uFEFF' :: _ => p.next
    | _, _ => p
  scanFrom (scanStarts.getD mode 0) p.byte p.row p none p.rest

/-- What the scanner makes of the text at a position. -/
inductive Lexeme where
  | token (terminal : Nat) (start stop : Position)
  | garbage (start stop : Position)

/-- Collect characters up to the next place where error recovery finds a token. `stop` is where the
last attempt ended and `last` the end of what is collected so far. -/
def collectGarbage : Nat → Position → Position → Position
  | 0, last, _ => last
  | fuel + 1, last, stop =>
    if stop.byte = last.byte ∧ stop.rest = [] then last
    else
      let last := if stop.byte = last.byte then stop.next else stop
      let r := scan (scanMode errorState) last
      if r.found.isSome then last else collectGarbage fuel last r.stop

/-- The lexeme at a position, for a parser in state `s`. -/
def lexeme (s : Nat) (p : Position) : Lexeme :=
  let r := scan (scanMode s) p
  match r.found with
  | some (t, stop) => .token t r.start stop
  | none =>
    let r := scan (scanMode errorState) p
    match r.found with
    | some (t, stop) => .token t r.start stop
    | none => .garbage r.start (collectGarbage (r.start.rest.length + 1) r.start r.stop)

/-- Read an identifier as a keyword where its spelling is one that state `s` can use. -/
def promote (s t : Nat) (start stop : Position) : Nat :=
  if t = identifier then
    match keyword? (start.textTo stop) with
    | some k => if (actions s k).isEmpty then t else k
    | none => t
  else t

end JavaNaming.Java
