import GridAsm.Text.Column
import GridAsm.Text.Digit

/-!
# UTF-8

Reading bytes as UTF-8.  The decoder takes one byte at a time and knows how many bytes it still
owes to the character it is in, and between which bounds the next one must lie; the bounds rule out
overlong forms, surrogates and code points beyond the last.  Bytes that are no UTF-8 are refused
with the first fault: a byte that starts no character, a byte that does not continue one, or an end
in the middle of one.
-/

namespace GridAsm.Text

/-- What is wrong with bytes that are no UTF-8. -/
inductive DecodeProblem where
  | badStart
  | badContinuation
  | earlyEnd
  deriving DecidableEq, Repr

/-- The wording of a problem. -/
def DecodeProblem.text : DecodeProblem → String
  | .badStart => "invalid start byte"
  | .badContinuation => "invalid continuation byte"
  | .earlyEnd => "unexpected end of data"

/-- A problem with the bytes that are at fault: `length` of them, the first of which has the value
`byte` and stands after `offset` others. -/
structure DecodeFault where
  /-- What is wrong. -/
  problem : DecodeProblem
  /-- The number of bytes before the fault. -/
  offset : Nat
  /-- The number of bytes at fault. -/
  length : Nat
  /-- The first byte at fault. -/
  byte : UInt8
  deriving DecidableEq, Repr

/-- The wording of a fault. -/
def DecodeFault.message (f : DecodeFault) : String :=
  let bytes :=
    if f.length = 1 then
      "byte 0x" ++ String.ofList (zeroFilled 2 (Nat.toDigits 16 f.byte.toNat)) ++ " in position " ++
        decimal f.offset
    else "bytes in position " ++ decimal f.offset ++ "-" ++ decimal (f.offset + f.length - 1)
  "'utf-8' codec can't decode " ++ bytes ++ ": " ++ f.problem.text

/-- A character of which some bytes have been read. -/
structure Partial where
  /-- The first byte. -/
  lead : UInt8
  /-- The number of bytes read. -/
  taken : Nat
  /-- The number of bytes that are still to come after the next one. -/
  owed : Nat
  /-- The least value of the next byte. -/
  low : Nat
  /-- The greatest value of the next byte. -/
  high : Nat
  /-- The bits read so far. -/
  bits : Nat

/-- A character after its first byte, if that byte starts one of two bytes or more. -/
def Partial.start? (b : UInt8) : Option Partial :=
  let n := b.toNat
  if 0xC2 ≤ n ∧ n ≤ 0xDF then some ⟨b, 1, 0, 0x80, 0xBF, n - 0xC0⟩
  else if n = 0xE0 then some ⟨b, 1, 1, 0xA0, 0xBF, 0⟩
  else if n = 0xED then some ⟨b, 1, 1, 0x80, 0x9F, n - 0xE0⟩
  else if 0xE1 ≤ n ∧ n ≤ 0xEF then some ⟨b, 1, 1, 0x80, 0xBF, n - 0xE0⟩
  else if n = 0xF0 then some ⟨b, 1, 2, 0x90, 0xBF, 0⟩
  else if 0xF1 ≤ n ∧ n ≤ 0xF3 then some ⟨b, 1, 2, 0x80, 0xBF, n - 0xF0⟩
  else if n = 0xF4 then some ⟨b, 1, 2, 0x80, 0x8F, n - 0xF0⟩
  else none

/-- The decoder between two bytes: the characters read, last first, the number of bytes read, and
the character that is being read. -/
structure Decoder where
  /-- The characters read, last first. -/
  done : List Char := []
  /-- The number of bytes read. -/
  offset : Nat := 0
  /-- The character that is being read, if any. -/
  current : Option Partial := none

/-- The decoder after one byte more. -/
def Decoder.step (d : Decoder) (b : UInt8) : Except DecodeFault Decoder :=
  match d.current with
  | none =>
    if b.toNat < 0x80 then .ok ⟨Char.ofNat b.toNat :: d.done, d.offset + 1, none⟩
    else match Partial.start? b with
      | some p => .ok ⟨d.done, d.offset + 1, some p⟩
      | none => .error ⟨.badStart, d.offset, 1, b⟩
  | some p =>
    if p.low ≤ b.toNat ∧ b.toNat ≤ p.high then
      let bits := p.bits * 0x40 + (b.toNat - 0x80)
      match p.owed with
      | 0 => .ok ⟨Char.ofNat bits :: d.done, d.offset + 1, none⟩
      | owed + 1 => .ok ⟨d.done, d.offset + 1, some ⟨p.lead, p.taken + 1, owed, 0x80, 0xBF, bits⟩⟩
    else .error ⟨.badContinuation, d.offset - p.taken, p.taken, p.lead⟩

/-- The characters at the end of the bytes. -/
def Decoder.finish (d : Decoder) : Except DecodeFault (List Char) :=
  match d.current with
  | none => .ok d.done.reverse
  | some p => .error ⟨.earlyEnd, d.offset - p.taken, p.taken, p.lead⟩

/-- The text that bytes stand for. -/
def decodeUtf8 (bytes : List UInt8) : Except DecodeFault Text := do
  return ofChars (← (← bytes.foldlM Decoder.step {}).finish)

/-! ### Bytes that are no UTF-8 -/

/-- A decoder that goes on after a fault, between two bytes. -/
structure Mender where
  /-- The text read, last code point first. -/
  done : Text := []
  /-- The character that is being read, if any, and its bytes, last first. -/
  current : Option (Partial × List UInt8) := none

/-- The decoder after the first byte of a character; `mend` gives a text for bytes that are none. -/
def Mender.start (mend : List UInt8 → Text) (done : Text) (b : UInt8) : Mender :=
  if b.toNat < 0x80 then ⟨.char (Char.ofNat b.toNat) :: done, none⟩
  else match Partial.start? b with
    | some p => ⟨done, some (p, [b])⟩
    | none => ⟨(mend [b]).reverse ++ done, none⟩

/-- The decoder after one byte more. -/
def Mender.step (mend : List UInt8 → Text) (d : Mender) (b : UInt8) : Mender :=
  match d.current with
  | none => .start mend d.done b
  | some (p, bytes) =>
    if p.low ≤ b.toNat ∧ b.toNat ≤ p.high then
      let bits := p.bits * 0x40 + (b.toNat - 0x80)
      match p.owed with
      | 0 => ⟨.char (Char.ofNat bits) :: d.done, none⟩
      | owed + 1 => ⟨d.done, some (⟨p.lead, p.taken + 1, owed, 0x80, 0xBF, bits⟩, b :: bytes)⟩
    else .start mend ((mend bytes.reverse).reverse ++ d.done) b

/-- The text at the end of the bytes. -/
def Mender.finish (mend : List UInt8 → Text) (d : Mender) : Text :=
  match d.current with
  | none => d.done.reverse
  | some (_, bytes) => d.done.reverse ++ mend bytes.reverse

/-- The text that bytes stand for, where `mend` gives a text for bytes at fault. -/
def decodeMended (mend : List UInt8 → Text) (bytes : List UInt8) : Text :=
  (bytes.foldl (Mender.step mend) {}).finish mend

/-! ### Files in UTF-8 -/

/-- The bytes of a text. -/
def encodeUtf8 (s : String) : List UInt8 :=
  s.toByteArray.toList

/-- The bytes of the byte-order mark. -/
def markBytes : List UInt8 :=
  [0xEF, 0xBB, 0xBF]

/-- The bytes without the byte-order mark before them.  Bytes that end within the mark hold no text
either. -/
def dropMark (bytes : List UInt8) : List UInt8 :=
  if bytes.isPrefixOf markBytes then []
  else if markBytes.isPrefixOf bytes then bytes.drop 3
  else bytes

/-- Continues `unifyLineEnds` after the code points of `done`, last first; `afterReturn` says
whether the last of them was a carriage return. -/
def unifyFrom (done : Text) (afterReturn : Bool) : Text → Text
  | [] => done.reverse
  | p :: rest =>
    if p = '\r' then unifyFrom ('\n' :: done) true rest
    else if p = '\n' ∧ afterReturn then unifyFrom done false rest
    else unifyFrom (p :: done) false rest

/-- The text with every line end as a line feed: a carriage return ends a line, and a line feed
right after it belongs to the same end. -/
def unifyLineEnds (t : Text) : Text :=
  unifyFrom [] false t

end GridAsm.Text
