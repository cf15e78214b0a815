import JavaNaming.Xml.Error

/-!
# References

A reference stands between an ampersand and a semicolon. It names one of five entities, or gives the
number of a character in decimal or, after an `x`, in hexadecimal digits.
-/

namespace JavaNaming.Xml

open Text (Range byteLength)

/-- The characters that have names. -/
def entity? : List Char → Option Char
  | ['l', 't'] => some '<'
  | ['g', 't'] => some '>'
  | ['a', 'm', 'p'] => some '&'
  | ['a', 'p', 'o', 's'] => some '\''
  | ['q', 'u', 'o', 't'] => some '"'
  | _ => none

/-- The value of a digit. -/
def digit? (radix : Nat) (c : Char) : Option Nat :=
  let value? :=
    if c.isDigit then some (c.toNat - '0'.toNat)
    else if 'a' ≤ c ∧ c ≤ 'z' then some (c.toNat - 'a'.toNat + 10)
    else if 'A' ≤ c ∧ c ≤ 'Z' then some (c.toNat - 'A'.toNat + 10)
    else none
  value?.filter (· < radix)

/-- The greatest number of a code that can be read. -/
def codeLimit : Nat := 4294967296

/-- The number that digits write, after those that write `n`. -/
def codeFrom (radix n : Nat) : List Char → Except NumberError Nat
  | [] => .ok n
  | c :: cs =>
    match digit? radix c with
    | none => .error .digit
    | some d =>
      if radix * n + d < codeLimit then codeFrom radix (radix * n + d) cs else .error .tooLarge

/-- The number that digits write. -/
def code (radix : Nat) : List Char → Except NumberError Nat
  | [] => .error .empty
  | '+' :: _ | '-' :: _ => .error .sign
  | cs => codeFrom radix 0 cs

/-- The character with the number that is written after the number sign. -/
def numbered (text : List Char) : Except NumberError Char := do
  let n ←
    match text with
    | 'x' :: digits => code 16 digits
    | digits => code 10 digits
  if n = 0 then throw .null
  else if h : n.isValidChar then return Char.ofNatAux n h
  else throw (.noCharacter n)

/-- The character that a reference stands for; its place is given for the error. -/
def resolve (range : Range) (name : List Char) : Except EscapeError Char :=
  match name with
  | '#' :: number =>
    match numbered number with
    | .ok c => .ok c
    | .error e => .error (.number e)
  | _ =>
    match entity? name with
    | some c => .ok c
    | none => .error (.unknownEntity range (String.ofList name))

/-- A text with its references resolved. `here` is the offset of `cs` in the text, and `size` the length
of the text. -/
def unescapeFrom (size : Nat) : Nat → Nat → List Char → Except EscapeError (List Char)
  | 0, _, _ => .ok []
  | _ + 1, _, [] => .ok []
  | fuel + 1, here, c :: cs =>
    if c = '&' then
      let name := cs.takeWhile fun d => d != '&' && d != ';'
      let stop := here + 1 + byteLength name
      match cs.drop name.length with
      | ';' :: rest => do
        let d ← resolve (Range.upTo (here + 1) stop) name
        let text ← unescapeFrom size fuel (stop + 1) rest
        return d :: text
      | _ => .error (.unterminated (Range.upTo here size))
    else do
      let text ← unescapeFrom size fuel (here + c.utf8Size) cs
      return c :: text

/-- A text with its references resolved. -/
def unescape (text : List Char) : Except EscapeError (List Char) :=
  unescapeFrom (byteLength text) (text.length + 1) 0 text

end JavaNaming.Xml
