import GridAsm.Text.Utf8

/-!
# Names as bytes

The machine knows files, and the variables of the environment, by bytes.  A text names the bytes of
its UTF-8; a byte that is no UTF-8 is named by the surrogate that lies that far above the code
`0xDC00`.  A text with any other lone surrogate names nothing.

Two texts that name the same bytes name the same file.  `nameRead` is the text that the machine
gives back for a name.
-/

namespace GridAsm.Text

/-- The byte that a code point names by itself: one of the upper half. -/
def namedByte? : CodePoint → Option UInt8
  | .lone offset =>
    if 0x480 ≤ offset.val ∧ offset.val < 0x500 then some offset.val.toUInt8 else none
  | .char _ => none

/-- The code point that names a byte of the upper half. -/
def byteName (b : UInt8) : CodePoint :=
  .ofCode (0xDC00 + b.toNat)

/-- The bytes that a code point names; none if there are no such bytes. -/
def pointBytes : CodePoint → List UInt8
  | .char c => encodeUtf8 (String.ofList [c])
  | p => (namedByte? p).toList

/-- Why a text names nothing, if it does not. -/
def nameFault? (t : Text) : Option EncodeFault :=
  encodeFaultFrom (fun p => (namedByte? p).isSome) 0 t

/-- The bytes that a text names. -/
def nameBytes (t : Text) : List UInt8 :=
  t.flatMap pointBytes

/-- The text of a name as the machine gives it back. -/
def nameRead (t : Text) : Text :=
  decodeMended (fun bytes => bytes.map byteName) (nameBytes t)

/-- The text of a name as it is shown, with replacement characters for bytes that are no UTF-8. -/
def nameShown (t : Text) : Text :=
  decodeMended (fun _ => [.ofCode 0xFFFD]) (nameBytes t)

end GridAsm.Text
