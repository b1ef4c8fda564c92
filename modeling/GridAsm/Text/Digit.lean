import GridAsm.Text.CodePoint

/-!
# Decimal digits

The decimal digits of every script: each script has ten of them in a row, so a list of the zeros
gives them all.  A numeral may mix scripts.
-/

namespace GridAsm.Text

/-- The zero of every script that has decimal digits. -/
def digitZeros : List Nat :=
  [0x30, 0x660, 0x6F0, 0x7C0, 0x966, 0x9E6, 0xA66, 0xAE6, 0xB66, 0xBE6, 0xC66, 0xCE6, 0xD66,
   0xDE6, 0xE50, 0xED0, 0xF20, 0x1040, 0x1090, 0x17E0, 0x1810, 0x1946, 0x19D0, 0x1A80, 0x1A90,
   0x1B50, 0x1BB0, 0x1C40, 0x1C50, 0xA620, 0xA8D0, 0xA900, 0xA9D0, 0xA9F0, 0xAA50, 0xABF0,
   0xFF10, 0x104A0, 0x10D30, 0x11066, 0x110F0, 0x11136, 0x111D0, 0x112F0, 0x11450, 0x114D0,
   0x11650, 0x116C0, 0x11730, 0x118E0, 0x11950, 0x11C50, 0x11D50, 0x11DA0, 0x16A60, 0x16AC0,
   0x16B50, 0x1D7CE, 0x1D7D8, 0x1D7E2, 0x1D7EC, 0x1D7F6, 0x1E140, 0x1E2F0, 0x1E950, 0x1FBF0]

/-- The value of the code point `n` as a digit, given the zeros in ascending order. -/
def digitAfterZero? (n : Nat) : List Nat → Option Nat
  | [] => none
  | z :: rest => if n < z then none else if n < z + 10 then some (n - z) else digitAfterZero? n rest

/-- The value of a decimal digit, of any script. -/
def digitValue? (p : CodePoint) : Option Nat :=
  digitAfterZero? p.code digitZeros

/-- Whether a code point is a decimal digit, of any script. -/
def isDigit (p : CodePoint) : Bool :=
  (digitValue? p).isSome

/-- The value of an ASCII hexadecimal digit, of either case. -/
def hexDigitValue? (c : Char) : Option Nat :=
  if '0' ≤ c ∧ c ≤ '9' then some (c.toNat - '0'.toNat)
  else if 'a' ≤ c ∧ c ≤ 'f' then some (c.toNat - 'a'.toNat + 10)
  else if 'A' ≤ c ∧ c ≤ 'F' then some (c.toNat - 'A'.toNat + 10)
  else none

/-- The value of a code point that is an ASCII hexadecimal digit, of either case. -/
def hexValue? : CodePoint → Option Nat
  | .char c => hexDigitValue? c
  | .lone _ => none

/-- The positional value of digits in a base, the leading digit first. -/
def positional (base : Nat) (digits : List Nat) : Nat :=
  digits.foldl (fun acc d => acc * base + d) 0

/-- A non-empty text of digits as a number, where `value?` reads one digit in the base. -/
def numeral? (base : Nat) (value? : CodePoint → Option Nat) (ps : List CodePoint) : Option Nat :=
  if ps.isEmpty then none else (ps.mapM value?).map (positional base)

/-- A decimal numeral of more digits than this is not converted. -/
def digitLimit : Nat := 4300

/-- The least number that has more than `digitLimit` digits. -/
def writingLimit : Nat := Nat.pow 10 digitLimit

/-- The digits of `n` in a base up to sixteen, written with capitals. -/
def digitsUpper (base n : Nat) : List Char :=
  (Nat.toDigits base n).map Char.toUpper

/-- An integer in decimal, with a minus sign if it is negative. -/
def decimal (n : Int) : String :=
  match n with
  | .ofNat m => String.ofList (Nat.toDigits 10 m)
  | .negSucc m => String.ofList ('-' :: Nat.toDigits 10 (m + 1))

/-- Why a number is not read or written. -/
inductive NumberFault where
  /-- A number has more than `digitLimit` digits. -/
  | tooManyDigits (count : Nat)
  /-- A number is too large to be written. -/
  | tooLongToWrite
  deriving DecidableEq, Repr

/-- The wording of the fault. -/
def NumberFault.message : NumberFault → String
  | .tooManyDigits count =>
    "Exceeds the limit (" ++ decimal digitLimit ++
      " digits) for integer string conversion: value has " ++ decimal count ++
      " digits; use sys.set_int_max_str_digits() to increase the limit"
  | .tooLongToWrite =>
    "Exceeds the limit (" ++ decimal digitLimit ++
      " digits) for integer string conversion; use sys.set_int_max_str_digits() to increase the " ++
      "limit"

end GridAsm.Text
