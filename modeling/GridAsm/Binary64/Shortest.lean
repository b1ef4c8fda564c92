import GridAsm.Binary64.Basic
import GridAsm.Text.Column

/-!
# Shortest decimals

The decimal with the fewest digits that reads back as a given number.  The decimals that read back
form an interval around the number, whose ends belong to it if the significand is even.  For one,
two, three, … digits the two neighbours of the number on the grid of such decimals are tried; the
first grid with a neighbour in the interval gives the digits, and of two neighbours the nearer one,
or the even one if both are equally near.
-/

namespace GridAsm.Binary64

open Text

/-- Four times a number and the ends of its rounding interval, in quarters of the unit of its last
place. -/
structure Interval where
  /-- The lower end. -/
  low : Nat
  /-- The number itself. -/
  mid : Nat
  /-- The upper end. -/
  high : Nat
  /-- Whether the ends belong to the interval. -/
  closed : Bool

/-- The interval around a significand.  Below a power of two the numbers lie twice as close. -/
def Interval.around (m : Nat) (e : Int) : Interval :=
  let gap := if m = significandBound / 2 ∧ minExponent < e then 1 else 2
  ⟨4 * m - gap, 4 * m, 4 * m + 2, m % 2 = 0⟩

/-- Whether `a` lies below `b`, or at `b` if the interval is closed. -/
def Interval.reaches (i : Interval) (a b : Nat) : Bool :=
  if i.closed then a ≤ b else a < b

/-- A decimal `digits * 10 ^ exponent`. -/
structure Decimal where
  /-- The digits as a whole number. -/
  digits : Nat
  /-- The power of ten of the last digit. -/
  exponent : Int

/-- A power of ten that exceeds the reciprocal of every positive number of the format. -/
def reach : Nat := 400

/-- The power of ten right above the positive fraction `num / den`. -/
def magnitude (num den : Nat) : Int :=
  ((Nat.toDigits 10 (num * Nat.pow 10 reach / den)).length : Int) - reach

/-- `n * 10 ^ k` over a denominator of `d`, as a fraction of whole numbers. -/
def timesTen (n d : Nat) (k : Int) : Nat × Nat :=
  if 0 ≤ k then (n * Nat.pow 10 k.toNat, d) else (n, d * Nat.pow 10 (-k).toNat)

/-- The neighbour on the grid of the decimals with last place `10 ^ place` that lies in the interval
and is nearest to its number.  A quarter unit is `num / den`. -/
def neighbour? (i : Interval) (num den : Nat) (place : Int) : Option Decimal :=
  -- In units of the grid the number is `i.mid * n / d`, and so for the ends.
  let (n, d) := timesTen num den (-place)
  let below := i.mid * n / d
  let rest := 2 * (i.mid * n % d)
  let lowFits := i.reaches (i.low * n) (below * d)
  let highFits := i.reaches ((below + 1) * d) (i.high * n)
  if lowFits && highFits then
    some ⟨if rest < d ∨ (rest = d ∧ below % 2 = 0) then below else below + 1, place⟩
  else if lowFits then some ⟨below, place⟩
  else if highFits then some ⟨below + 1, place⟩
  else none

/-- Searches the grids of `count`, `count + 1`, … digits, `fuel` of them. -/
def shortestFrom (i : Interval) (num den : Nat) (top : Int) : Nat → Nat → Decimal
  | 0, count => ⟨0, top - count⟩
  | fuel + 1, count =>
    match neighbour? i num den (top - count) with
    | some d => d
    | none => shortestFrom i num den top fuel (count + 1)

/-- The shortest decimal of the positive number `m * 2 ^ e`.  Seventeen digits always suffice. -/
def shortest (m : Nat) (e : Int) : Decimal :=
  let (num, den) := if 2 ≤ e then (Nat.pow 2 (e - 2).toNat, 1) else (1, Nat.pow 2 (2 - e).toNat)
  let i := Interval.around m e
  shortestFrom i num den (magnitude (i.mid * num) den) 17 1

/-- The decimal without zeros at the end of its digits; `fuel` bounds their number. -/
def Decimal.stripped : Nat → Decimal → Decimal
  | 0, d => d
  | fuel + 1, d =>
    if d.digits % 10 = 0 ∧ d.digits ≠ 0 then stripped fuel ⟨d.digits / 10, d.exponent + 1⟩ else d

/-! ### Writing numbers -/

/-- How numbers are written. -/
structure NumberStyle where
  /-- With the point after this many digits or fewer, and more than `leastPoint`, no exponent is
  written. -/
  greatestPoint : Int
  /-- See `greatestPoint`; the point is left of the first digit if this is negative. -/
  leastPoint : Int
  /-- The least number of digits of an exponent. -/
  exponentWidth : Nat
  /-- The text of a number that is none. -/
  nan : String
  /-- The text of infinity. -/
  infinity : String

/-- An exponent is written from `10 ^ 16` on and below `10 ^ -4`, with its sign and two digits at
least. -/
def cellStyle : NumberStyle :=
  ⟨16, -4, 2, "nan", "inf"⟩

/-- The digits of a positive number with a point, or with an exponent; `point` is the number of
digits before the point. -/
def NumberStyle.digits (f : NumberStyle) (ds : List Char) (point : Int) : List Char :=
  if f.leastPoint < point ∧ point ≤ f.greatestPoint then
    if point ≤ 0 then '0' :: '.' :: List.replicate (-point).toNat '0' ++ ds
    else if (ds.length : Int) ≤ point then
      ds ++ List.replicate (point.toNat - ds.length) '0' ++ ['.', '0']
    else ds.take point.toNat ++ '.' :: ds.drop point.toNat
  else
    let power := point - 1
    let sign := if power < 0 then '-' else '+'
    let fraction := if ds.length ≤ 1 then ds else ds.take 1 ++ '.' :: ds.drop 1
    fraction ++ 'e' :: sign :: zeroFilled f.exponentWidth (Nat.toDigits 10 power.natAbs)

/-- The text of a number. -/
def text (f : NumberStyle) : Binary64 → String
  | .nan => f.nan
  | .infinite negative => (if negative then "-" else "") ++ f.infinity
  | .finite negative m e =>
    let d := (shortest m e).stripped 17
    let ds := Nat.toDigits 10 d.digits
    let body := if m = 0 then ['0', '.', '0'] else f.digits ds (ds.length + d.exponent)
    (if negative then "-" else "") ++ String.ofList body

end GridAsm.Binary64
