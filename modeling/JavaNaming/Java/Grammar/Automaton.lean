import JavaNaming.Java.Grammar.Symbols
import JavaNaming.Java.Grammar.Productions
import JavaNaming.Java.Grammar.ShiftRows
import JavaNaming.Java.Grammar.GotoRows
import JavaNaming.Java.Grammar.ReduceRows
import JavaNaming.Java.Grammar.StateRows

/-!
# The parsing automaton

`actions s t` lists what a parser in state `s` may do before terminal `t`, and `goto? s n` is the
state entered once nonterminal `n` has been built there. The grammar is ambiguous in places, so a
state may offer several actions at once: the reductions come first, in the order in which they are
tried, and at most one shift comes last.
-/

namespace JavaNaming.Java.Grammar

/-- The state of a parser that has met a token it cannot use. -/
def errorState : Nat := 0

/-- The state before anything has been read. -/
def startState : Nat := 1

/-- What the parser may do before a terminal. -/
inductive Action where
  | shift (state : Nat)
  /-- A shift inside a repetition. It is left to the reduction it competes with. -/
  | repeatShift (state : Nat)
  /-- The terminal may stand anywhere and leaves the state as it is. -/
  | shiftExtra
  | reduce (r : Reduction)
  | accept
  | recover
deriving DecidableEq, Repr

/-- The `i`-th entry of a packed row. -/
def rowEntry (row width i : Nat) : Nat :=
  (row >>> (width * i)) &&& (1 <<< width - 1)

/-- Binary search between two indices of a packed row for the entry with a given low byte. The
result is the rest of the entry. -/
def findEntry (row width key : Nat) : Nat → Nat → Nat → Option Nat
  | 0, _, _ => none
  | fuel + 1, lo, hi =>
    if lo < hi then
      let mid := (lo + hi) / 2
      let entry := rowEntry row width mid
      let k := entry &&& 255
      if k = key then some (entry >>> 8)
      else if k < key then findEntry row width key fuel (mid + 1) hi
      else findEntry row width key fuel lo mid
    else none

/-- The entry of a packed row for a symbol. Rows have fewer than 256 entries. -/
def lookupRow (row width key : Nat) : Option Nat :=
  if row = 0 then none else findEntry row width key 9 0 (row.log2 / width + 1)

/-- The packed row of a state. -/
def stateRow (s : Nat) : Nat :=
  stateRows.getD s 0

/-- The scanning mode of a state. -/
def scanMode (s : Nat) : Nat :=
  stateRow s >>> 30

/-- The shift that a state offers for a terminal, if any. -/
def shift? (s t : Nat) : Option Action :=
  (lookupRow (shiftRows.getD (stateRow s &&& 1023) 0) 20 t).map fun e =>
    if e >>> 11 = 0 then .shift e else .repeatShift (e &&& 2047)

/-- The state entered from `s` over nonterminal `n`. -/
def goto? (s n : Nat) : Option Nat :=
  lookupRow (gotoRows.getD ((stateRow s >>> 10) &&& 1023) 0) 19 n

/-- The reductions that a state offers before a terminal. -/
def reductionsAt (s t : Nat) : List Reduction :=
  (reduceRows.getD ((stateRow s >>> 20) &&& 1023) []).filterMap fun (r, before) =>
    if before.testBit t then reductions[r]? else none

/-- Everything that a parser in state `s` may do before terminal `t`. -/
def actions (s t : Nat) : List Action :=
  match (reductionsAt s t).map .reduce ++ (shift? s t).toList with
  | [] =>
    if extras.contains t then [.shiftExtra]
    else if s = errorState then if recoverable.testBit t then [.recover] else []
    else if s = acceptingState ∧ t = endOfText then [.accept]
    else []
  | offered => offered

/-- The state entered when terminal `t` is forced onto the stack in state `s`, if there is one. -/
def stateAfter? (s t : Nat) : Option Nat :=
  match (actions s t).getLast? with
  | some (.shift q) | some (.repeatShift q) => some q
  | some .shiftExtra => some s
  | _ => none

end JavaNaming.Java.Grammar
