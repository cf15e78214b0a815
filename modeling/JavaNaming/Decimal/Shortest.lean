/-!
# The shortest decimal for a binary number

`nearestBinary` rounds a positive fraction to a number of 53 binary digits, a half going to the even
neighbour. `shortest` finds the decimal with the fewest digits that is rounded to a given binary number,
and the nearest of them. `positional` writes a decimal without an exponent.
-/

namespace JavaNaming.Decimal

/-- The number `mantissa * 2 ^ exponent`. -/
structure Binary where
  mantissa : Nat
  exponent : Int
deriving DecidableEq, Repr

/-- The decimal `digits * 10 ^ exponent`. -/
structure Scientific where
  digits : Nat
  exponent : Int
deriving DecidableEq, Repr

/-- A fraction times a power, with the power in the numerator or the denominator. -/
def scale (base : Nat) (e : Int) (num den : Nat) : Nat × Nat :=
  if 0 ≤ e then (num * Nat.pow base e.toNat, den)
  else (num, den * Nat.pow base (-e).toNat)

/-! ## Rounding to binary -/

/-- The least exponent of a binary number. -/
def leastExponent : Int := -1074

/-- The least number of 53 binary digits. -/
def leastNormal : Nat := 4503599627370496

/-- The greatest exponent of a binary number. -/
def greatestExponent : Int := 971

/-- The quotient, rounded to the nearest number, a half to the even one. -/
def roundDiv (num den : Nat) : Nat :=
  let q := num / den
  let r := num % den
  if 2 * r < den ∨ (2 * r = den ∧ q % 2 = 0) then q else q + 1

/-- The exponent at which a positive fraction has 53 binary digits before the point. -/
def binaryExponent (num den : Nat) : Int :=
  let guess : Int := (num.log2 : Int) - (den.log2 : Int) - 52
  let (n, d) := scale 2 (-guess) num den
  max leastExponent (if n / d < leastNormal then guess - 1 else guess)

/-- The binary number nearest to a positive fraction. There is none where it is too large. -/
def nearestBinary? (num den : Nat) : Option Binary :=
  let e := binaryExponent num den
  let (n, d) := scale 2 (-e) num den
  let m := roundDiv n d
  let rounded : Binary := if m = 2 * leastNormal then ⟨leastNormal, e + 1⟩ else ⟨m, e⟩
  if rounded.exponent ≤ greatestExponent then some rounded else none

/-! ## Back to decimal -/

/-- The fractions that are rounded to a binary number lie between `4 * mantissa - low` and
`4 * mantissa + 2` quarters of its unit. The ends belong to them if the mantissa is even. -/
def lowGap (b : Binary) : Nat :=
  if b.mantissa = leastNormal ∧ leastExponent < b.exponent then 1 else 2

/-- Whether a decimal is rounded to a binary number. -/
def roundsTo (b : Binary) (s : Scientific) : Bool :=
  -- `s` in quarters of the unit of `b`, as a fraction
  let (n, d) := scale 10 s.exponent s.digits 1
  let (n, d) := scale 2 (2 - b.exponent) n d
  let low := (4 * b.mantissa - lowGap b) * d
  let high := (4 * b.mantissa + 2) * d
  if b.mantissa % 2 = 0 then low ≤ n && n ≤ high else low < n && n < high

/-- The least exponent whose power of ten is greater than a positive fraction, found from a guess
that is not greater. -/
def decimalExponent (num den : Nat) : Nat → Int → Int
  | 0, e => e
  | fuel + 1, e =>
    let (n, d) := scale 10 (-e) num den
    if n < d then e else decimalExponent num den fuel (e + 1)

/-- The two neighbours of a fraction among the multiples of a power of ten, the nearer one first. -/
def neighbours (num den : Nat) (e : Int) : List Scientific :=
  let (n, d) := scale 10 (-e) num den
  let q := n / d
  if 2 * (n % d) ≤ d then [⟨q, e⟩, ⟨q + 1, e⟩] else [⟨q + 1, e⟩, ⟨q, e⟩]

/-- A decimal without a zero at its end, which can stand there where a neighbour has one digit more. -/
def dropZero (s : Scientific) : Scientific :=
  if s.digits % 10 = 0 then ⟨s.digits / 10, s.exponent + 1⟩ else s

/-- The first decimal with `digits` digits or more that is rounded to a binary number. -/
def shortestFrom (b : Binary) (num den : Nat) (top : Int) : Nat → Nat → Scientific
  | 0, digits => ⟨roundDiv num den, top - digits⟩
  | fuel + 1, digits =>
    match (neighbours num den (top - digits)).find? (roundsTo b) with
    | some s => dropZero s
    | none => shortestFrom b num den top fuel (digits + 1)

/-- The decimal with the fewest digits that is rounded to a positive binary number. -/
def shortest (b : Binary) : Scientific :=
  let (num, den) := scale 2 b.exponent b.mantissa 1
  let guess : Int := ((num.log2 : Int) - (den.log2 : Int) - 1) * 3 / 10 - 1
  let top := decimalExponent num den 700 guess
  shortestFrom b num den top 17 1

/-! ## Writing -/

/-- The digits of a number. -/
def digitsOf (n : Nat) : List Char := (toString n).toList

/-- A decimal without an exponent, with a point and a digit after it. -/
def positional (s : Scientific) : String :=
  let digits := digitsOf s.digits
  if 0 ≤ s.exponent then
    String.ofList (digits ++ List.replicate s.exponent.toNat '0') ++ ".0"
  else
    let places := (-s.exponent).toNat
    let padded := List.replicate (places + 1 - digits.length) '0' ++ digits
    let whole := padded.take (padded.length - places)
    String.ofList whole ++ "." ++ String.ofList (padded.drop (padded.length - places))

/-- A decimal as it reads after rounding to binary. There is none where it is too large. -/
def rounded? (s : Scientific) : Option String :=
  if s.digits = 0 then some "0.0"
  else
    let size := (digitsOf s.digits).length
    -- far outside of what a binary number can be
    if s.exponent + size < -330 then some "0.0"
    else if 310 < s.exponent + size then none
    else
      let (num, den) := scale 10 s.exponent s.digits 1
      (nearestBinary? num den).map fun b =>
        if b.mantissa = 0 then "0.0" else positional (shortest b)

end JavaNaming.Decimal
