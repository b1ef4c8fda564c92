import GridAsm.Operand.Values

/-!
# Instruction words

`Rule.pack` fills the fields of a rule with operand values.  `Rule.encode` gives the word of an
instruction: that of the fields, but for the branch and the jumps, whose form is fixed.

* `BRA` is the opcode `1111`, three bits of condition and eight of displacement.
* `JZ`, `JC` and `JMP` are the opcode that the fields give and eleven bits of target.

The highest bit of a word is always clear.
-/

namespace GridAsm

open Text

/-- The value that fills a field's bits, if it fills them. -/
def Content.value? (c : Content) (v : Operands) : Option Int :=
  match c with
  | .fixed value => some value
  | .ignored => none
  | .slice register hi lo => some (v.register register >>> (Content.sliceShift hi lo).toNat)
  | .registerBit register bit => some ((v.register register >>> bit.toNat) % 2)
  | .immediate name => some (v.immediate name)
  | .condition => some v.cond
  | .unknown => none

/-- The word with the field filled. -/
def Field.fill (v : Operands) (word : Int) (f : Field) : Int :=
  match f.content.value? v with
  | some value => Bits.deposit word f.lsb f.width value
  | none => word

/-- How the words of a mnemonic are made. -/
inductive Form where
  /-- By the fields of its rule. -/
  | fields
  /-- As a jump. -/
  | jump
  /-- As a branch. -/
  | branch
  deriving DecidableEq, Repr

/-- The form of a mnemonic in capitals. -/
def Form.ofMnemonic (mnemonic : Text) : Form :=
  if mnemonic = "BRA" then .branch
  else if mnemonic = "JZ" ∨ mnemonic = "JC" ∨ mnemonic = "JMP" then .jump
  else .fields

/-- The widths of the parts in which a word of the form is shown, from the highest bit on. -/
def Form.segments : Form → List Nat
  | .branch => [1, 4, 3, 8]
  | .jump => [1, 4, 11]
  | .fields => [1, 4, 3, 2, 3, 3]

namespace Rule

/-- The word of the fields. -/
def pack (r : Rule) (v : Operands) : Int :=
  r.fields.foldl (Field.fill v) 0

/-- The word of the rule's form, before the highest bit is cleared. -/
def formed (r : Rule) (v : Operands) : Int :=
  match Form.ofMnemonic r.mnemonic with
  | .branch => 15 * Bits.weight 11 + Bits.mask v.cond 3 * Bits.weight 8 + Bits.mask v.o 8
  | .jump => Bits.mask (r.pack v / Bits.weight 11) 4 * Bits.weight 11 + Bits.mask v.p 11
  | .fields => r.pack v

/-- The word of an instruction. -/
def encode (r : Rule) (v : Operands) : Int :=
  Bits.mask (r.formed v) 15

end Rule

/-! ### Words as text -/

namespace Word

/-- The low sixteen bits of a word. -/
def low16 (word : Int) : Nat :=
  (Bits.mask word 16).toNat

/-- A word in hexadecimal: four digits in capitals after `0x`. -/
def hex (word : Int) : Text :=
  "0x" ++ ofChars (zeroFilled 4 (digitsUpper 16 (low16 word)))

/-- The sixteen bits of a word, the highest first. -/
def bits (word : Int) : Text :=
  ofChars (zeroFilled 16 (Nat.toDigits 2 (low16 word)))

/-- A text cut into parts of the given widths. -/
def cut : List Nat → Text → List Text
  | [], _ => []
  | w :: ws, t => t.take w :: cut ws (t.drop w)

/-- A word in binary, in groups of four bits. -/
def binary (word : Int) : Text :=
  Text.join " " (cut [4, 4, 4, 4] (bits word))

/-- The widths of the parts in which the words of a mnemonic are shown. -/
def segmentsOf (mnemonic : Text) : List Nat :=
  (Form.ofMnemonic (upper mnemonic)).segments

/-- A word in binary, in the parts of its mnemonic. -/
def segmented (word : Int) (mnemonic : Text) : Text :=
  Text.join " | " (cut (segmentsOf mnemonic) (bits word))

end Word

end GridAsm
