import JavaNaming.Pattern.Escape

/-!
# Openings of groups

What may follow an opening parenthesis: switches, a name, or nothing special.
-/

namespace JavaNaming.Pattern

/-- What an opening parenthesis starts: switches for the rest of the enclosing group, or a group. -/
inductive Opening where
  | switches (span : Span) (items : List FlagItem)
  | group (captures : Bool) (items : List FlagItem)

/-- The names of groups so far, with the parts where they stand. -/
abbrev GroupNames := List (List Char × Span)

/-- The first item of a list that is equal to a given one. -/
def sameItem? (item : FlagItem) (items : List (Span × FlagItem)) : Option Span :=
  (items.find? (·.2 == item)).map (·.1)

/-- Read switches up to a colon or a closing parenthesis. `items` holds those before, the last one
first. -/
def readFlags : Nat → List (Span × FlagItem) → Reader → Read (List FlagItem × Reader)
  | 0, _, r => fail .flagUnfinished r.here
  | fuel + 1, items, r =>
    match r.char? with
    | none => fail .flagUnfinished r.here
    | some c =>
      if c == ':' || c == ')' then
        match items with
        | (span, .negation) :: _ => fail .flagDanglingNegation span
        | _ => .ok ((items.map (·.2)).reverse, r)
      else
        let item? := if c == '-' then some .negation else (Flag.ofLetter? c).map FlagItem.flag
        match item? with
        | none => fail .flagUnrecognized r.charSpan
        | some item =>
          match sameItem? item items with
          | some first =>
            let flaw := if item = .negation then Flaw.flagRepeatedNegation else .flagDuplicate
            .error ⟨flaw, r.charSpan, some first⟩
          | none => readFlags fuel ((r.charSpan, item) :: items) r.bump

/-- Whether a character may stand in the name of a group. -/
def isNameChar (isFirst : Bool) (c : Char) : Bool :=
  c == '_' || Unicode.alphabetic.contains c ||
    (!isFirst && (c == '.' || c == '[' || c == ']' || Unicode.numeric.contains c))

/-- Read the characters of the name of a group up to its closing bracket. -/
def readNameChars (isFirst : Bool) : Nat → Reader → Read (List Char × Reader)
  | 0, r => fail .groupNameUnfinished r.here
  | fuel + 1, r =>
    match r.char? with
    | none => fail .groupNameUnfinished r.here
    | some '>' => .ok ([], r)
    | some c =>
      if isNameChar isFirst c then do
        let (name, r) ← readNameChars false fuel r.bump
        return (c :: name, r)
      else fail .groupNameInvalid r.charSpan

/-- Read the name of a group and the bracket after it. -/
def readGroupName (names : GroupNames) (r : Reader) : Read (GroupNames × Reader) := do
  let start := r.spot
  let (name, r) ← readNameChars true (r.rest.length + 1) r
  let span := r.since start
  if name.isEmpty then fail .groupNameEmpty (.point start)
  else
    match names.lookup name with
    | some first => .error ⟨.groupNameDuplicate, span, some first⟩
    | none => return ((name, span) :: names, r.bump)

/-- The reader after a look-around opening, if there is one. -/
def lookAround? (r : Reader) : Option Reader :=
  ((r.bumpIf? "?=").or (r.bumpIf? "?!")).or ((r.bumpIf? "?<=").or (r.bumpIf? "?<!"))

/-- Read the opening of a group. The reader is at the parenthesis. -/
def readOpeningParen (names : GroupNames) (r : Reader) : Read ((Opening × GroupNames) × Reader) := do
  let opening := r.charSpan
  let r := r.bumpSkip
  if let some after := lookAround? r then
    fail .lookAround ⟨opening.start, after.spot⟩
  else if let some after := (r.bumpIf? "?P<").or (r.bumpIf? "?<") then
    let (names, r) ← readGroupName names after
    return ((.group true [], names), r)
  else if r.sees '?' then
    let question := r.here
    let r := r.bump
    if r.atEnd then fail .groupUnclosed opening
    else
      let (items, r) ← readFlags (r.rest.length + 1) [] r
      let after := r.bump
      if r.sees ')' then
        if items.isEmpty then fail .repetitionMissing question
        else return ((.switches (after.since opening.start) items, names), after)
      else return ((.group false items, names), after)
  else return ((.group true [], names), r)

end JavaNaming.Pattern
