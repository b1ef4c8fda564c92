import GridAsm.Proofs.Bits
import GridAsm.Proofs.Literal
import GridAsm.Word

/-!
# Words in hexadecimal

A word is shown by four digits in capitals after `0x` (`exists_hex_eq`).  The text is a literal of the
word's low sixteen bits (`isLiteral_hex`), so that these are read back from it.
-/

namespace GridAsm.Word

open Text

/-- A hexadecimal digit in capitals. -/
def capitalDigit (d : Nat) : Char :=
  (Nat.digitChar d).toUpper

theorem low16_lt (word : Int) : low16 word < 16 ^ 4 := by
  have hpos : (0 : Int) < 2 ^ 16 := Bits.two_pow_pos 16
  have h0 : 0 ≤ word % 2 ^ 16 := Int.emod_nonneg _ hpos.ne'
  have h1 : word % 2 ^ 16 < 2 ^ 16 := Int.emod_lt_of_pos _ hpos
  have hlow : low16 word = (word % 2 ^ 16).toNat := rfl
  rw [hlow]
  omega

theorem low16_of_bounds {word : Int} (h0 : 0 ≤ word) (h1 : word < 2 ^ 16) :
    (low16 word : Int) = word := by
  have hlow : low16 word = (word % 2 ^ 16).toNat := rfl
  rw [hlow, Int.emod_eq_of_lt h0 h1, Int.toNat_of_nonneg h0]

theorem hex_eq_cons (word : Int) :
    hex word = .char '0' :: .char 'x' ::
      ofChars (zeroFilled 4 (digitsUpper 16 (low16 word))) := rfl

/-- The four digits of a word. -/
theorem exists_hex_eq (word : Int) :
    ∃ ds, hex word = .char '0' :: .char 'x' :: ofChars (ds.map capitalDigit) ∧ ds.length = 4 ∧
      (∀ d ∈ ds, d < 16) ∧ positional 16 ds = low16 word := by
  obtain ⟨ds, hds, hlength, hlt, hvalue⟩ :=
    exists_zeroFilled_eq (by omega) (by omega) (low16_lt word) Char.toUpper (by decide)
  refine ⟨ds, ?_, hlength, hlt, hvalue⟩
  rw [hex_eq_cons, digitsUpper, hds]
  rfl

/-- The digits of a word are capitals. -/
theorem exists_capitals_eq_hex (word : Int) : ∃ digits : List Char,
    hex word = ofString "0x" ++ ofChars digits ∧ digits.length = 4 ∧
      ∀ d ∈ digits, d ∈ "0123456789ABCDEF".toList := by
  obtain ⟨ds, hds, hlength, hlt, -⟩ := exists_hex_eq word
  refine ⟨ds.map capitalDigit, hds, by rw [List.length_map, hlength], ?_⟩
  intro c hc
  obtain ⟨d, hd, rfl⟩ := List.mem_map.mp hc
  have hall : ∀ d < 16, capitalDigit d ∈ "0123456789ABCDEF".toList := by decide
  exact hall d (hlt d hd)

/-- The text of a word is a literal of its low sixteen bits. -/
theorem isLiteral_hex (word : Int) : Literal.IsLiteral (hex word) (low16 word) := by
  obtain ⟨ds, hds, hlength, hlt, hvalue⟩ := exists_hex_eq word
  have hdigits : IsNumeral 16 IsHexDigit (ofChars (ds.map capitalDigit)) (low16 word) := by
    rw [← hvalue]
    apply isNumeral_ofChars
    · exact List.ne_nil_of_length_pos (by omega)
    · intro d hd
      exact ⟨hlt d hd, .inr rfl⟩
  exact ⟨("", 1), by decide, hex word, low16 word, rfl, hds ▸ .hex (.inl rfl) hdigits,
    (Int.one_mul _).symm⟩

theorem isBlank_of_mem_hex {word : Int} {p : CodePoint} (h : p ∈ hex word) : isBlank p = false :=
  (isLiteral_hex word).isBlank_eq_false p h

theorem parse?_hex (word : Int) : Literal.parse? (hex word) = some (low16 word : Int) :=
  (isLiteral_hex word).parse?_eq

end GridAsm.Word
