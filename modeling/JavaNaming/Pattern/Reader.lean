import JavaNaming.Pattern.Error
import JavaNaming.Unicode.Property

/-!
# Reading a pattern character by character

A reader stands at a place of a pattern. Where the pattern is in verbose form, `skip` passes over
blanks and comments.
-/

namespace JavaNaming.Pattern

/-- Whether a character is blank. -/
def isBlank (c : Char) : Bool := Unicode.whiteSpace.contains c

/-- A place in a pattern and what follows it. -/
structure Reader where
  rest : List Char
  spot : Spot
  /-- Whether blanks and comments are passed over. -/
  verbose : Bool
deriving Repr

/-- Pass over blanks and comments. -/
def skipBlanks (inComment : Bool) : List Char → Spot → List Char × Spot
  | [], s => ([], s)
  | c :: cs, s =>
    if inComment then skipBlanks (c != '\n') cs (s.after c)
    else if isBlank c then skipBlanks false cs (s.after c)
    else if c == '#' then skipBlanks true cs (s.after c)
    else (c :: cs, s)

/-- What a look past blanks finds in verbose form. It stops at the first character of a comment that
is not blank, and at the very next character if there are only blanks. -/
def peekPast (inComment : Bool) : List Char → Option Char
  | [] => none
  | c :: cs =>
    if isBlank c then peekPast inComment cs
    else if !inComment && c == '#' then peekPast true cs
    else some c

namespace Reader

/-- A reader at the start of a pattern. -/
def ofPattern (pattern : List Char) : Reader := ⟨pattern, .origin, false⟩

/-- The character at the place. -/
def char? (r : Reader) : Option Char := r.rest.head?

/-- Whether the end is reached. -/
def atEnd (r : Reader) : Bool := r.rest.isEmpty

/-- Whether a given character comes next. -/
def sees (r : Reader) (c : Char) : Bool := r.char? == some c

/-- Go past one character. -/
def bump (r : Reader) : Reader :=
  match r.rest with
  | [] => r
  | c :: cs => { r with rest := cs, spot := r.spot.after c }

/-- Pass over blanks and comments in verbose form. -/
def skip (r : Reader) : Reader :=
  if r.verbose then
    let (rest, spot) := skipBlanks false r.rest r.spot
    { r with rest := rest, spot := spot }
  else r

/-- Go past one character and what may be skipped after it. -/
def bumpSkip (r : Reader) : Reader := r.bump.skip

/-- Go past several characters if they come next. -/
def bumpIf? (r : Reader) (text : String) : Option Reader :=
  if text.toList.isPrefixOf r.rest then some (text.toList.foldl (fun r _ => r.bump) r) else none

/-- The character after the next one. -/
def peek? (r : Reader) : Option Char := r.bump.char?

/-- The character after the next one, past what may be skipped. -/
def peekSkip? (r : Reader) : Option Char :=
  if r.verbose then (peekPast false r.bump.rest).or r.peek? else r.peek?

/-- The empty part at the place. -/
def here (r : Reader) : Span := .point r.spot

/-- The part that the next character takes. -/
def charSpan (r : Reader) : Span := ⟨r.spot, r.bump.spot⟩

/-- The part from a place up to the reader. -/
def since (r : Reader) (start : Spot) : Span := ⟨start, r.spot⟩

/-- The characters that come next and pass a test, and the reader after them. -/
def takeWhile (test : Char → Bool) : Nat → Reader → List Char × Reader
  | 0, r => ([], r)
  | fuel + 1, r =>
    match r.char? with
    | some c =>
      if test c then
        let (cs, r) := takeWhile test fuel r.bumpSkip
        (c :: cs, r)
      else ([], r)
    | none => ([], r)

end Reader

/-- The result of reading a part of a pattern. -/
abbrev Read := Except SyntaxError

/-- An error in a part of a pattern. -/
def fail {α : Type} (flaw : Flaw) (span : Span) : Read α :=
  .error { flaw, span }

end JavaNaming.Pattern
