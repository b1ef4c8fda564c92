/-!
# Code points

A text may hold one half of a surrogate pair without the other: an escape in JSON can name it, and
it stands for a byte of a file's name that is no UTF-8.  Such a half has a code, but it is no
character.  A `CodePoint` is a character or a lone surrogate.
-/

namespace GridAsm

/-- Whether a code is the first half of a surrogate pair. -/
def isHighSurrogate (n : Nat) : Bool :=
  0xD800 ≤ n && n < 0xDC00

/-- Whether a code is the second half of a surrogate pair. -/
def isLowSurrogate (n : Nat) : Bool :=
  0xDC00 ≤ n && n < 0xE000

/-- The character that a pair of surrogates stands for. -/
def joinSurrogates (high low : Nat) : Char :=
  Char.ofNat (0x10000 + (high - 0xD800) * 0x400 + (low - 0xDC00))

/-- A character, or a surrogate that stands alone. -/
inductive CodePoint where
  /-- A character. -/
  | char (c : Char)
  /-- The surrogate whose code is `offset` more than that of the first one. -/
  | lone (offset : Fin 0x800)
  deriving DecidableEq, Repr

namespace CodePoint

instance : Coe Char CodePoint := ⟨.char⟩

/-- The number of the code point. -/
def code : CodePoint → Nat
  | .char c => c.toNat
  | .lone offset => 0xD800 + offset

/-- The code point of a number. -/
def ofCode (n : Nat) : CodePoint :=
  if h : 0xD800 ≤ n ∧ n < 0xE000 then .lone ⟨n - 0xD800, by omega⟩ else .char (Char.ofNat n)

/-- Whether the code point is a character with a property. -/
def satisfies (p : Char → Bool) : CodePoint → Bool
  | .char c => p c
  | .lone _ => false

/-- Whether the code point is a lone surrogate. -/
def isLone : CodePoint → Bool
  | .char _ => false
  | .lone _ => true

/-- The character, or the replacement character in the place of a lone surrogate. -/
def lossy : CodePoint → Char
  | .char c => c
  | .lone _ => Char.ofNat 0xFFFD

/-- The character, or the escape of a lone surrogate. -/
def escaped : CodePoint → List Char
  | .char c => [c]
  | .lone offset => '\\' :: 'u' :: Nat.toDigits 16 (0xD800 + offset)

@[simp] theorem satisfies_char (p : Char → Bool) (c : Char) : satisfies p (.char c) = p c := rfl

@[simp] theorem isLone_char (c : Char) : isLone (.char c) = false := rfl

@[simp] theorem lossy_char (c : Char) : lossy (.char c) = c := rfl

@[simp] theorem escaped_char (c : Char) : escaped (.char c) = [c] := rfl

end CodePoint

end GridAsm
