/-!
# Binary floating-point numbers of 64 bits

A finite number is a sign, a significand below `2 ^ 53` and an exponent of two that is at least
`-1074`; its value is `significand * 2 ^ exponent`.  `ofDecimal` rounds a decimal to the nearest
such number, a tie going to the even significand, and `integer?` reads a whole number back.
-/

namespace GridAsm

/-- A number of the format. -/
inductive Binary64 where
  | nan
  | infinite (negative : Bool)
  | finite (negative : Bool) (significand : Nat) (exponent : Int)
  deriving DecidableEq, Repr

namespace Binary64

/-- The least exponent of two. -/
def minExponent : Int := -1074

/-- The greatest exponent of two. -/
def maxExponent : Int := 971

/-- Significands lie below this bound. -/
def significandBound : Nat := Nat.pow 2 53

/-- The quotient of two numbers to the nearest whole number, a tie going to the even one. -/
def roundedQuotient (num den : Nat) : Nat :=
  let q := num / den
  let r := 2 * (num % den)
  if r < den then q else if den < r then q + 1 else if q % 2 = 0 then q else q + 1

/-- The fraction `num / den` divided by a power of two, as a fraction. -/
def scaled (num den : Nat) (exponent : Int) : Nat × Nat :=
  if 0 ≤ exponent then (num, den * Nat.pow 2 exponent.toNat)
  else (num * Nat.pow 2 (-exponent).toNat, den)

/-- The finite number with a significand that may have reached the bound, or an infinity if its
exponent is out of range. -/
def normal (negative : Bool) (significand : Nat) (exponent : Int) : Binary64 :=
  let (m, e) :=
    if significand < significandBound then (significand, exponent)
    else (significand / 2, exponent + 1)
  if maxExponent < e then .infinite negative else .finite negative m e

/-- The number nearest to the positive fraction `num / den`. -/
def ofFraction (negative : Bool) (num den : Nat) : Binary64 :=
  let least := max minExponent ((num.log2 : Int) - den.log2 - 53)
  let (n, d) := scaled num den least
  let exponent := if n / d < significandBound then least else least + 1
  let (n, d) := scaled num den exponent
  normal negative (roundedQuotient n d) exponent

/-- Decimals of this order of magnitude and above are infinite. -/
def decimalCeiling : Int := 310

/-- Decimals below this order of magnitude are zero. -/
def decimalFloor : Int := -330

/-- The number nearest to `digits * 10 ^ exponent`. -/
def ofDecimal (negative : Bool) (digits : Nat) (exponent : Int) : Binary64 :=
  let magnitude := ((Nat.toDigits 10 digits).length : Int) + exponent
  if digits = 0 ∨ magnitude < decimalFloor then .finite negative 0 minExponent
  else if decimalCeiling < magnitude then .infinite negative
  else if 0 ≤ exponent then ofFraction negative (digits * Nat.pow 10 exponent.toNat) 1
  else ofFraction negative digits (Nat.pow 10 (-exponent).toNat)

/-- The value of a number that is whole. -/
def integer? : Binary64 → Option Int
  | .finite negative m e =>
    let magnitude? : Option Nat :=
      if 0 ≤ e then some (m * Nat.pow 2 e.toNat)
      else
        let unit := Nat.pow 2 (-e).toNat
        if m % unit = 0 then some (m / unit) else none
    magnitude?.map fun n => if negative then -(n : Int) else n
  | _ => none

end Binary64

end GridAsm
