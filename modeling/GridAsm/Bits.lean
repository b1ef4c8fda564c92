/-!
# Bits of integers

Integers are read as two's complement without end: bit `i` of `n` is the parity of `n / 2 ^ i`
rounded down.  `mask` keeps the low bits, `deposit` replaces a range of bits, and `signed` reads the
low bits as a signed number.

`write` and `signed` take their positions as integers and refuse a range that reaches below bit
zero.  There is no upper bound to a position here: counts of bits beyond what a machine can hold are
outside the model.
-/

namespace GridAsm.Bits

/-- A range of bits reaches below bit zero. -/
structure BelowZero where
  deriving DecidableEq, Repr

/-- The text of the refusal. -/
def BelowZero.message (_ : BelowZero) : String :=
  "negative shift count"

/-- The weight of bit `i`. -/
def weight (i : Nat) : Int :=
  Int.pow 2 i

/-- Bit `i` of an integer. -/
def bit (n : Int) (i : Nat) : Bool :=
  n / weight i % 2 == 1

/-- The low `width` bits of a value; no bits for a width of zero or less. -/
def mask (value width : Int) : Int :=
  value % weight width.toNat

/-- `word` with the bits from `lsb` on, `width` of them, replaced by the low bits of `value`. -/
def deposit (word : Int) (lsb width : Nat) (value : Int) : Int :=
  word - word / weight lsb % weight width * weight lsb + value % weight width * weight lsb

/-- The lowest bit of the range of `width` bits whose highest bit is `msb`. -/
def lowest (msb width : Int) : Int :=
  msb - width + 1

/-- `word` with the bits `msb` down to `lowest msb width` replaced by the low bits of `value`.  An
empty range leaves the word as it is.  Shift counts beyond the interpreter's own limit, which it
refuses, are outside the model. -/
def write (word msb width value : Int) : Except BelowZero Int :=
  if width ≤ 0 then .ok word
  else if lowest msb width < 0 then .error {}
  else .ok (deposit word (lowest msb width).toNat width.toNat value)

/-- The low `width` bits of a value as a two's complement number.  As for `write`, a width beyond
the interpreter's own limit on shift counts is outside the model. -/
def signed (value width : Int) : Except BelowZero Int :=
  if width ≤ 0 then .error {}
  else
    let low := mask value width
    .ok (if low < weight (width - 1).toNat then low else low - weight width.toNat)

end GridAsm.Bits
