import JavaNaming.Decimal.Shortest
import JavaNaming.Toml.Moment
import JavaNaming.Toml.Quoted

/-!
# Scalars of TOML documents

`Piece.scalar` gives the value of a scalar. What stands without quotes is a boolean, a number or a date,
judged by its first characters.
-/

namespace JavaNaming.Toml

open Text (Range byteLength)

/-- A float: a number, or one of the words for what is no number. -/
inductive FloatValue where
  | finite (negative : Bool) (magnitude : Decimal.Scientific)
  | infinite (negative : Bool)
  | notANumber
deriving DecidableEq, Repr

/-- A scalar. An integer that marks its base and has no digits after the mark has no value. -/
inductive Scalar where
  | string (text : List Char)
  | integer (value? : Option Int)
  | float (value : FloatValue)
  | boolean (value : Bool)
  | moment
deriving DecidableEq, Repr

/-- Text within a piece, and the offset at which it starts. -/
structure Portion where
  start : Nat
  text : List Char

namespace Portion

/-- A portion without its first `n` characters. -/
def drop (p : Portion) (n : Nat) : Portion :=
  ⟨p.start + byteLength (p.text.take n), p.text.drop n⟩

/-- The place of the first `n` characters. -/
def firstRange (p : Portion) (n : Nat) : Range := Range.upTo p.start (p.start + n)

end Portion

/-! ## Words -/

/-- The error of a piece that would have to be a string. -/
def Piece.unquoted (p : Piece) : FormError := .on .unquotedString p.range

/-- A piece that has to be a certain word. -/
def Piece.word (p : Piece) (found : List Char) (word : String) (flaw : Flaw) (value : Scalar) :
    Except FormError Scalar :=
  if found = word.toList then .ok value
  else if p.text.contains ' ' then .error p.unquoted
  else .error (.on flaw p.range)

/-! ## Underscores -/

/-- The texts between the underscores of a portion. -/
def underscoreParts : Nat → List Char → List Char → List Portion
  | start, part, [] => [⟨start, part.reverse⟩]
  | start, part, c :: cs =>
    if c = '_' then
      ⟨start, part.reverse⟩ :: underscoreParts (start + byteLength part + 1) [] cs
    else underscoreParts start (c :: part) cs

/-- The flaw of a part between underscores of a piece: one of its ends is no digit. -/
def partFlaw? (isDigit : Char → Bool) (p : Piece) (part : Portion) : Option FormError :=
  let stop := part.start + byteLength part.text
  if p.start < part.start && !(part.text.head?.any isDigit) then
    some (.on .underscore (Range.upTo (part.start - 1) part.start))
  else if 1 < part.text.length && stop < p.stop && !(part.text.getLast?.any isDigit) then
    some (.on .underscore (Range.upTo stop (stop + 1)))
  else none

/-- The text of a portion of a piece without its underscores, which may only stand between digits. -/
def dropUnderscores (isDigit : Char → Bool) (p : Piece) (portion : Portion) :
    Except FormError (List Char) :=
  let size := byteLength portion.text
  if !portion.text.contains '_' then .ok portion.text
  else if portion.text.head? = some '_' then .error (.on .underscore (portion.firstRange 1))
  else if portion.text.getLast? = some '_' then
    .error (.on .underscore (Range.upTo (portion.start + size - 1) (portion.start + size)))
  else
    let parts := underscoreParts portion.start [] portion.text
    match parts.findSome? (partFlaw? isDigit p) with
    | some e => .error e
    | none => .ok (parts.flatMap (·.text))

/-! ## Numbers -/

/-- The number that digits write in a base. -/
def numberIn (radix : Nat) (digits : List Char) : Nat :=
  digits.foldl (fun n c => radix * n + (hexValue? c).getD 0) 0

/-- A text without its sign, and whether the sign is a minus. -/
def splitSign : List Char → Bool × List Char
  | '-' :: cs => (true, cs)
  | '+' :: cs => (false, cs)
  | cs => (false, cs)

/-- Whether a character is a digit of some base. -/
def isAnyDigit (c : Char) : Bool := (hexValue? c).isSome

/-- A decimal integer. -/
def decimalInteger (p : Piece) (portion : Portion) : Except FormError Scalar := do
  let (negative, digits) := splitSign (← dropUnderscores isAnyDigit p portion)
  let n := numberIn 10 digits
  return .integer (some (if negative then -n else n))

/-- Look for a zero in front of other digits. -/
def checkNoLeadingZero (portion : Portion) : Except FormError Unit :=
  if portion.text.head? = some '0' then .error (.on .leadingZero (portion.firstRange 1)) else .ok ()

/-- The offset of the first character that is no digit of a base. -/
def badDigit? (radix : Nat) (portion : Portion) : Option Nat :=
  match portion.text.findIdx? (fun c => c != '_' && !((hexValue? c).any (· < radix))) with
  | some i => some (portion.drop i).start
  | none => none

/-- An integer in a base other than ten, or with a mark for ten, after the mark. -/
def markedInteger (p : Piece) (base? : Option Base) (portion : Portion) :
    Except FormError Scalar := do
  let radix := (base?.map Base.radix).getD 10
  if portion.text.head?.any fun c => c == '+' || c == '-' then
    throw (.on .signAfterBase (portion.firstRange 1))
  match badDigit? radix portion with
  | some offset => throw (.before (.digit base?) offset)
  | none =>
    let digits ← dropUnderscores isAnyDigit p portion
    return .integer (if digits.isEmpty then none else some (numberIn radix digits))

/-- Whether a character is a digit or an underscore. -/
def isDigitOrUnderscore (c : Char) : Bool := c.isDigit || c == '_'

/-- Pass the digits of a part of a float. -/
def passDigits (part : FloatPart) (portion : Portion) : Except FormError Portion :=
  let run := portion.text.takeWhile isDigitOrUnderscore
  let count := (run.filter (·.isDigit)).length
  if count = 0 then .error (.before (.floatPart part) portion.start)
  else if part = .mantissa ∧ 1 < count ∧ run.head? = some '0' then
    .error (.on .leadingZero (portion.firstRange 1))
  else .ok (portion.drop run.length)

/-- Whether a portion starts with one of some characters. -/
def Portion.startsWith (p : Portion) (cs : List Char) : Bool := p.text.head?.any cs.contains

/-- Look at the form of a float. -/
def checkFloat (p : Piece) (portion : Portion) : Except FormError Unit := do
  let portion ← passDigits .mantissa portion
  let portion ←
    if portion.startsWith ['.'] then passDigits .fraction (portion.drop 1) else pure portion
  let portion ←
    if portion.startsWith ['e', 'E'] then
      let portion := portion.drop 1
      passDigits .exponent (if portion.startsWith ['+', '-'] then portion.drop 1 else portion)
    else pure portion
  if portion.text.isEmpty then return ()
  else throw (.on .floatRest (Range.upTo portion.start p.stop))

/-- The value of a float that has the right form. -/
def floatValue (text : List Char) : FloatValue :=
  let (negative, text) := splitSign text
  let whole := text.takeWhile (·.isDigit)
  let rest := text.dropWhile (·.isDigit)
  let fraction := if rest.head? = some '.' then (rest.drop 1).takeWhile (·.isDigit) else []
  let rest := if rest.head? = some '.' then (rest.drop 1).dropWhile (·.isDigit) else rest
  let (down, exponent) := splitSign (rest.drop 1)
  let e : Int := numberIn 10 exponent
  .finite negative
    ⟨numberIn 10 (whole ++ fraction), (if down then -e else e) - fraction.length⟩

/-- A float. -/
def float (p : Piece) (portion : Portion) : Except FormError Scalar := do
  checkFloat p portion
  return .float (floatValue (← dropUnderscores Char.isDigit p ⟨p.start, p.text⟩))

/-- A number or date, from its first digit on. -/
def numberOrMoment (p : Piece) (portion : Portion) : Except FormError Scalar := do
  let rest := portion.text.dropWhile (·.isDigit)
  if rest.isEmpty then
    checkNoLeadingZero portion
    decimalInteger p ⟨p.start, p.text⟩
  else if rest.head? = some '-' ∨ rest.head? = some ':' then
    match checkMoment p.text with
    | .ok () => return .moment
    | .error problem => throw (.on (.moment problem.part problem.wanted?) p.range)
  else if rest.contains ' ' then throw p.unquoted
  else if rest.any fun c => c == '.' || c == 'e' || c == 'E' then float p portion
  else if rest.head? = some '_' then
    checkNoLeadingZero portion
    decimalInteger p ⟨p.start, p.text⟩
  else throw p.unquoted

/-- The base that a letter after a zero marks, and whether the letter is a capital. -/
def baseOf? : Char → Option (Option Base × Bool)
  | 'x' => some (some .hexadecimal, false)
  | 'X' => some (some .hexadecimal, true)
  | 'o' => some (some .octal, false)
  | 'O' => some (some .octal, true)
  | 'b' => some (some .binary, false)
  | 'B' => some (some .binary, true)
  | 'd' => some (none, false)
  | 'D' => some (none, true)
  | _ => none

/-- What starts with a zero. -/
def zeroFirst (p : Piece) (signed : Bool) (portion : Portion) : Except FormError Scalar := do
  match portion.text.drop 1 with
  | [] => decimalInteger p ⟨p.start, p.text⟩
  | letter :: _ =>
    match baseOf? letter with
    | none => numberOrMoment p portion
    | some (base?, capital) =>
      if signed then throw (.on .signedBase (Range.upTo p.start (p.start + 1)))
      match base? with
      | none => throw (.on .redundantBase (portion.firstRange 2))
      | some base =>
        if capital then throw (.on (.upperCaseBase base) ((portion.drop 1).firstRange 1))
      markedInteger p base? (portion.drop 2)

/-- What stands after a sign. -/
def afterSign (p : Piece) (negative : Bool) (portion : Portion) : Except FormError Scalar :=
  match portion.text with
  | [] => .error p.unquoted
  | c :: _ =>
    if c = '+' ∨ c = '-' then .error (.on .redundantSign (portion.firstRange 1))
    else if c = '0' then zeroFirst p true portion
    else if c.isDigit ∨ c = '_' then numberOrMoment p portion
    else if c = '.' then float p portion
    else if c = 'i' ∨ c = 'I' then
      p.word portion.text "inf" (.floatWord "inf") (.float (.infinite negative))
    else if c = 'n' ∨ c = 'N' then
      p.word portion.text "nan" (.floatWord "nan") (.float .notANumber)
    else .error p.unquoted

/-- The value of a piece without quotes. -/
def Piece.bareScalar (p : Piece) : Except FormError Scalar :=
  let portion : Portion := ⟨p.start, p.text⟩
  match p.text with
  | [] => .error p.unquoted
  | c :: _ =>
    if c = '+' ∨ c = '-' then afterSign p (c == '-') (portion.drop 1)
    else if c = '0' then zeroFirst p false portion
    else if c.isDigit ∨ c = '_' then numberOrMoment p portion
    else if c = '.' then float p portion
    else if c = 't' ∨ c = 'T' then p.word p.text "true" (.boolean "true") (.boolean true)
    else if c = 'f' ∨ c = 'F' then p.word p.text "false" (.boolean "false") (.boolean false)
    else if c = 'i' ∨ c = 'I' then
      p.word p.text "inf" (.floatWord "inf") (.float (.infinite false))
    else if c = 'n' ∨ c = 'N' then p.word p.text "nan" (.floatWord "nan") (.float .notANumber)
    else .error p.unquoted

/-- The value of a scalar. -/
def Piece.scalar (p : Piece) : Except FormError Scalar :=
  match p.form? with
  | some form => (p.string form).map Scalar.string
  | none => p.bareScalar

end JavaNaming.Toml
