import JavaNaming.Toml.Error

/-!
# Dates and times

A date, a time, or both with an optional offset from universal time. `checkMoment` decides whether a
text is one of them and says what is wrong with it otherwise. Seconds may be left out.
-/

namespace JavaNaming.Toml

namespace Moment

/-- Digits and what stands between them. -/
inductive Sign where
  | digits (text : List Char)
  | dash
  | colon
  | dot
  | plus
  | separator
  | universal
  | other
deriving DecidableEq, Repr

/-- The sign that a character is, unless it is a digit. -/
def Sign.ofChar : Char → Sign
  | '-' => .dash
  | ':' => .colon
  | '.' => .dot
  | '+' => .plus
  | 'T' | 't' | ' ' => .separator
  | 'Z' | 'z' => .universal
  | _ => .other

/-- The signs of a text. -/
def signs : List Char → List Sign
  | [] => []
  | c :: cs =>
    if c.isDigit then
      match signs cs with
      | .digits text :: rest => .digits (c :: text) :: rest
      | rest => .digits [c] :: rest
    else Sign.ofChar c :: signs cs

/-- Why a text is no date or time: the part that is wrong, and what it should be. -/
structure Problem where
  part : MomentPart
  wanted? : Option String
deriving DecidableEq, Repr

/-- The number that decimal digits write. -/
def number (digits : List Char) : Nat :=
  digits.foldl (fun n c => 10 * n + (c.toNat - '0'.toNat)) 0

/-- Read digits. -/
def takeDigits (part : MomentPart) (wanted : String) :
    List Sign → Except Problem (List Char × List Sign)
  | .digits text :: rest => .ok (text, rest)
  | _ => .error ⟨part, some wanted⟩

/-- Read a sign. -/
def takeSign (part : MomentPart) (sign : Sign) (wanted : String) :
    List Sign → Except Problem (List Sign)
  | s :: rest => if s = sign then .ok rest else .error ⟨part, some wanted⟩
  | [] => .error ⟨part, some wanted⟩

/-- Ask for a condition. -/
def require (condition : Bool) (part : MomentPart) (wanted : String) : Except Problem Unit :=
  if condition then .ok () else .error ⟨part, some wanted⟩

/-- The number of days of a month. -/
def daysIn (year month : Nat) : Nat :=
  if month = 2 then
    if year % 4 = 0 ∧ (year % 100 ≠ 0 ∨ year % 400 = 0) then 29 else 28
  else if month ∈ [4, 6, 9, 11] then 30 else 31

/-- Read the rest of a date, after its year and a dash. -/
def readDate (year : List Char) (signs : List Sign) : Except Problem (List Sign) := do
  let (month, signs) ← takeDigits .date "month" signs
  let signs ← takeSign .date .dash "`-` (MM-DD)" signs
  let (day, signs) ← takeDigits .date "day" signs
  require (year.length = 4) .date "a four-digit year (YYYY)"
  require (month.length = 2) .date "a two-digit month (MM)"
  require (day.length = 2) .date "a two-digit day (DD)"
  require (1 ≤ number month && number month ≤ 12) .date "month between 01 and 12"
  let days := daysIn (number year) (number month)
  require (1 ≤ number day && number day ≤ days) .date s!"day between 01 and {days}"
  return signs

/-- Read the fraction of a second, if there is one. -/
def readFraction : List Sign → Except Problem (List Sign)
  | .dot :: .digits _ :: rest => .ok rest
  | .dot :: _ => .error ⟨.time, some "nanosecond"⟩
  | signs => .ok signs

/-- Read the rest of a time, after its hour and a colon. -/
def readTime (hour : List Char) (signs : List Sign) : Except Problem (List Sign) := do
  let (minute, signs) ← takeDigits .time "minute" signs
  let (second?, signs) ←
    match signs with
    | .colon :: rest => do
      let (second, rest) ← takeDigits .time "second" rest
      pure (some second, ← readFraction rest)
    | signs => pure (none, signs)
  require (hour.length = 2) .time "a two-digit hour (HH)"
  require (minute.length = 2) .time "a two-digit minute (MM)"
  require (second?.all (·.length = 2)) .time "a two-digit second (SS)"
  require (number hour ≤ 23) .time "hour between 00 and 23"
  require (number minute ≤ 59) .time "minute between 00 and 59"
  require (second?.all (number · ≤ 60)) .time "second between 00 and 60"
  return signs

/-- Read an offset from universal time, if there is one. -/
def readOffset : List Sign → Except Problem (List Sign)
  | .universal :: rest => .ok rest
  | .plus :: rest | .dash :: rest => do
    let (hour, rest) ← takeDigits .offset "hour" rest
    let rest ← takeSign .offset .colon "`:` (HH:MM)" rest
    let (minute, rest) ← takeDigits .offset "minute" rest
    require (hour.length = 2) .offset "a two-digit hour (HH)"
    require (minute.length = 2) .offset "a two-digit minute (MM)"
    require (number hour ≤ 23) .offset "hours between 00 and 23"
    require (number minute ≤ 59) .offset "minutes between 00 and 59"
    return rest
  | signs => .ok signs

/-- Read what may follow a date: a time and an offset. -/
def readTimeOfDate : List Sign → Except Problem (List Sign)
  | [] => .ok []
  | .separator :: rest => do
    let (hour, rest) ← takeDigits .time "hour" rest
    let rest ← takeSign .time .colon "`:` (HH:MM)" rest
    readOffset (← readTime hour rest)
  | _ => .error ⟨.dateTime, some "`T` between date and time"⟩

end Moment

/-- Whether a text is a date or a time. -/
def checkMoment (text : List Char) : Except Moment.Problem Unit := do
  let (first, rest) ← Moment.takeDigits .dateTime "year or hour" (Moment.signs text)
  let left ←
    match rest with
    | .dash :: rest => do Moment.readTimeOfDate (← Moment.readDate first rest)
    | .colon :: rest => Moment.readTime first rest
    | _ => throw ⟨.dateTime, some "`-` (YYYY-MM) or `:` (HH:MM)"⟩
  if left.isEmpty then return () else throw ⟨.dateTime, none⟩

end JavaNaming.Toml
