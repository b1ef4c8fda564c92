import GridAsm.Proofs.Bits
import Mathlib.Data.Int.Bitwise
import Mathlib.Data.Int.ModEq

/-!
# Writes and signed readings of two's complement integers

Whether a write is refused depends on its range alone (`write_ok_or_refused`), and one that is not
replaces the bits of the range and no others, for words and values of either sign
(`bit_of_write_eq_ok`).  Since an integer is known by its bits, writes to ranges without a common
bit may be done in either order (`write_comm`).

A signed reading is known by a range and a congruence (`Represents`): every value has such a number,
the balanced remainder, and only one (`signed_eq_ok_iff`).  What a reading does to masked values and
to numbers of the range follows from that alone.
-/

namespace GridAsm.Bits

/-- The bits are those of two's complement: a negative number has the complements of the bits of
its absolute value less one. -/
theorem bit_eq_testBit (n : Int) (i : Nat) : bit n i = n.testBit i := by
  cases n with
  | ofNat m => exact bit_natCast m i
  | negSucc m =>
    have hquot : Int.negSucc m / 2 ^ i = -((m / 2 ^ i : Nat) + 1) := by
      rw [Int.negSucc_ediv m (two_pow_pos i)]
      push_cast
      rfl
    show bit (Int.negSucc m) i = !m.testBit i
    rw [Nat.testBit_eq_decide_div_mod_eq, bit_eq_decide, hquot, ← decide_not, decide_eq_decide]
    omega

/-! ### Writes -/

section

variable {word written msb width value : Int}

theorem exists_write_eq_ok (h : width ≤ 0 ∨ 0 ≤ msb - width + 1) (word value : Int) :
    ∃ written, write word msb width value = .ok written := by
  by_cases hwidth : width ≤ 0
  · exact ⟨word, if_pos hwidth⟩
  · have hlow : ¬ lowest msb width < 0 := not_lt.mpr (h.resolve_left hwidth)
    exact ⟨deposit word (lowest msb width).toNat width.toNat value,
      (if_neg hwidth).trans (if_neg hlow)⟩

theorem write_eq_refusal (hwidth : 0 < width) (hlow : msb - width + 1 < 0) (word value : Int) :
    write word msb width value = .error {} :=
  (if_neg (not_le.mpr hwidth)).trans (if_pos hlow)

/-- The range alone decides whether a write is refused. -/
theorem write_ok_or_refused (msb width : Int) :
    (∀ word value, ∃ written, write word msb width value = .ok written) ∨
      ∀ word value, write word msb width value = .error {} := by
  by_cases h : width ≤ 0 ∨ 0 ≤ msb - width + 1
  · exact .inl (exists_write_eq_ok h)
  · exact .inr (write_eq_refusal (by omega) (by omega))

/-- A write replaces the bits of its range by the low bits of the value, and no others. -/
theorem bit_of_write_eq_ok (h : write word msb width value = .ok written) (i : Nat) :
    bit written i =
      if msb - width + 1 ≤ i ∧ i ≤ msb then bit value (i - (msb - width + 1)).toNat
      else bit word i := by
  rw [write, lowest] at h
  split_ifs at h with hwidth hlow
  · -- An empty range holds no bit.
    obtain rfl := Except.ok.inj h
    rw [if_neg (by omega)]
  · obtain rfl := Except.ok.inj h
    rw [bit_deposit]
    by_cases hi : msb - width + 1 ≤ i ∧ i ≤ msb
    · rw [if_pos hi, if_pos (by omega)]
      congr 1
      omega
    · rw [if_neg hi, if_neg (by omega)]

/-- Two ranges without a common bit that are written in either order. -/
theorem eq_of_writes_eq_ok {word value value' msb width msb' width' first first' both both' : Int}
    (hdisjoint : ∀ i : Nat, msb - width + 1 ≤ i ∧ i ≤ msb → ¬ (msb' - width' + 1 ≤ i ∧ i ≤ msb'))
    (hfirst : write word msb width value = .ok first)
    (hboth : write first msb' width' value' = .ok both)
    (hfirst' : write word msb' width' value' = .ok first')
    (hboth' : write first' msb width value = .ok both') : both = both' := by
  apply eq_of_bit_eq
  intro i
  rw [bit_of_write_eq_ok hboth, bit_of_write_eq_ok hfirst, bit_of_write_eq_ok hboth',
    bit_of_write_eq_ok hfirst']
  by_cases hi : msb - width + 1 ≤ i ∧ i ≤ msb
  · rw [if_neg (hdisjoint i hi), if_pos hi, if_pos hi]
  · rw [if_neg hi, if_neg hi]

/-- Writes to ranges without a common bit may be done in either order. -/
theorem write_comm (word value value' : Int) {msb width msb' width' : Int}
    (hdisjoint : ∀ i : Nat, msb - width + 1 ≤ i ∧ i ≤ msb → ¬ (msb' - width' + 1 ≤ i ∧ i ≤ msb')) :
    (write word msb width value >>= (write · msb' width' value')) =
      (write word msb' width' value' >>= (write · msb width value)) := by
  rcases write_ok_or_refused msb width with hok | hrefused
  · obtain ⟨first, hfirst⟩ := hok word value
    rcases write_ok_or_refused msb' width' with hok' | hrefused'
    · obtain ⟨first', hfirst'⟩ := hok' word value'
      obtain ⟨both, hboth⟩ := hok' first value'
      obtain ⟨both', hboth'⟩ := hok first' value
      rw [hfirst, hfirst']
      show write first msb' width' value' = write first' msb width value
      rw [hboth, hboth', eq_of_writes_eq_ok hdisjoint hfirst hboth hfirst' hboth']
    · -- The second range is refused, whichever write comes first.
      rw [hfirst, hrefused' word value']
      exact hrefused' first value'
  · rw [hrefused word value]
    cases hfirst' : write word msb' width' value' with
    | ok first' => exact (hrefused first' value).symm
    | error refusal => rfl

/-- **A write replaces the bits of its range and no others.**  An empty range leaves the word as it
is, a range that reaches below bit zero is refused, and any other gives a word whose bits in the
range are the low bits of the value, and outside it those of the word before.  Writes to ranges
without a common bit may be done in either order. -/
theorem write_replaces_its_bits (word msb width value : Int) :
    let lsb := msb - width + 1
    (width ≤ 0 → write word msb width value = .ok word) ∧
      (0 < width → 0 ≤ lsb →
        ∃ written, write word msb width value = .ok written ∧
          ∀ i : Nat, written.testBit i =
            if lsb ≤ i ∧ i ≤ msb then value.testBit (i - lsb).toNat else word.testBit i) ∧
      (0 < width → lsb < 0 →
        ∃ refusal, write word msb width value = .error refusal ∧
          refusal.message = "negative shift count") ∧
      ∀ msb' width' value' : Int,
        (∀ i : Nat, lsb ≤ i ∧ i ≤ msb → ¬ (msb' - width' + 1 ≤ i ∧ i ≤ msb')) →
        (write word msb width value >>= (write · msb' width' value')) =
          (write word msb' width' value' >>= (write · msb width value)) := by
  intro lsb
  refine ⟨fun hwidth => if_pos hwidth, fun hwidth hlow => ?_,
    fun hwidth hlow => ⟨{}, write_eq_refusal hwidth hlow word value, rfl⟩,
    fun msb' width' value' hdisjoint => write_comm word value value' hdisjoint⟩
  obtain ⟨written, hwritten⟩ := exists_write_eq_ok (.inr hlow) word value
  refine ⟨written, hwritten, fun i => ?_⟩
  rw [← bit_eq_testBit, ← bit_eq_testBit, ← bit_eq_testBit]
  exact bit_of_write_eq_ok hwritten i

/-- Bits 2 and 3 of a negative word are written from a negative value, before bit 1 or after it; a
range below bit zero and an empty one. -/
theorem write_replaces_bits_of_negative_word :
    write (-1) 3 2 (-2) = .ok (-5) ∧
      (∃ written, write (-1) 3 2 (-2) = .ok written ∧
        ∀ i : Nat, written.testBit i =
          if 2 ≤ (i : Int) ∧ (i : Int) ≤ 3 then (-2 : Int).testBit (i - 2 : Int).toNat
          else (-1 : Int).testBit i) ∧
      (write (-1) 3 2 (-2) >>= (write · 1 1 6)) = (write (-1) 1 1 6 >>= (write · 3 2 (-2))) ∧
      (∃ refusal, write 5 1 3 7 = .error refusal ∧ refusal.message = "negative shift count") ∧
      write 5 (-4) (-1) 7 = .ok 5 := by
  obtain ⟨-, hok, -, hcomm⟩ := write_replaces_its_bits (-1) 3 2 (-2)
  obtain ⟨-, -, hrefused, -⟩ := write_replaces_its_bits 5 1 3 7
  obtain ⟨hempty, -, -, -⟩ := write_replaces_its_bits 5 (-4) (-1) 7
  exact ⟨rfl, hok (by decide) (by decide), hcomm 1 1 6 (by omega),
    hrefused (by decide) (by decide), hempty (by decide)⟩

end

/-! ### Signed readings -/

/-- The number `s` has `width` bits in two's complement, and they are the low bits of `value`. -/
structure Represents (width value s : Int) : Prop where
  low : -2 ^ (width - 1).toNat ≤ s
  high : s < 2 ^ (width - 1).toNat
  modEq : s ≡ value [ZMOD 2 ^ width.toNat]

theorem represents_mask_iff {width value s : Int} :
    Represents width (mask value width) s ↔ Represents width value s := by
  have hmask : mask value width ≡ value [ZMOD 2 ^ width.toNat] := Int.mod_modEq ..
  exact ⟨fun h => ⟨h.low, h.high, h.modEq.trans hmask⟩,
    fun h => ⟨h.low, h.high, h.modEq.trans hmask.symm⟩⟩

theorem represents_succ_iff {k : Nat} {value s : Int} :
    Represents (k + 1 : Nat) value s ↔ -2 ^ k ≤ s ∧ s < 2 ^ k ∧ s ≡ value [ZMOD 2 ^ (k + 1)] := by
  have hhalf : ((k + 1 : Nat) - 1 : Int).toNat = k := by omega
  constructor
  · rintro ⟨hlow, hhigh, hmod⟩
    rw [hhalf] at hlow hhigh
    exact ⟨hlow, hhigh, hmod⟩
  · rintro ⟨hlow, hhigh, hmod⟩
    rw [← hhalf] at hlow hhigh
    exact ⟨hlow, hhigh, hmod⟩

/-- The balanced remainder is a signed number of the bits. -/
theorem represents_bmod (k : Nat) (value : Int) :
    Represents (k + 1 : Nat) value (value.bmod (2 ^ (k + 1))) := by
  have hpos : 0 < 2 ^ (k + 1) := Nat.two_pow_pos _
  have hcast : ((2 ^ (k + 1) : Nat) : Int) = 2 * 2 ^ k := by
    push_cast
    exact pow_succ' 2 k
  have hlow := @Int.le_bmod value _ hpos
  have hhigh := @Int.bmod_lt value _ hpos
  rw [hcast] at hlow hhigh
  rw [represents_succ_iff]
  refine ⟨by omega, by omega, ?_⟩
  exact_mod_cast @Int.bmod_emod value (2 ^ (k + 1))

section

variable {width : Int} (hwidth : 1 ≤ width)
include hwidth

theorem exists_represents (value : Int) : ∃ s, Represents width value s := by
  obtain ⟨k, rfl⟩ := Int.eq_succ_of_zero_lt hwidth
  exact ⟨_, represents_bmod k value⟩

/-- A signed reading is the one number of the range that is congruent to the value. -/
theorem signed_eq_ok_iff {value s : Int} :
    signed value width = .ok s ↔ Represents width value s := by
  have hread : ∀ {s}, Represents width value s → signed value width = .ok s := by
    intro s h
    obtain ⟨k, rfl⟩ := Int.eq_succ_of_zero_lt hwidth
    obtain ⟨hlow, hhigh, hmod⟩ := represents_succ_iff.mp h
    exact signed_eq_of_emod_eq hmod.symm hlow hhigh
  refine ⟨fun h => ?_, hread⟩
  -- The value has such a number, and that is what was read.
  obtain ⟨r, hr⟩ := exists_represents hwidth value
  obtain rfl := Except.ok.inj (h.symm.trans (hread hr))
  exact hr

end

/-- **A signed reading is the balanced remainder.**  From one bit on it is the one number between
`-2 ^ (width - 1)` and `2 ^ (width - 1)`, the second left out, that is congruent to the value.  So
it does not change when the value is masked before, it has the same mask as the value, and numbers
of the range are read as themselves.  Without bits it is refused, and the mask is zero. -/
theorem signed_is_balanced_remainder (value width : Int) :
    (1 ≤ width →
      (∃ s, signed value width = .ok s ∧ Represents width value s ∧
        (∀ r, Represents width value r → r = s) ∧ mask s width = mask value width) ∧
      signed (mask value width) width = signed value width ∧
      (-2 ^ (width - 1).toNat ≤ value → value < 2 ^ (width - 1).toNat →
        signed value width = .ok value)) ∧
    (width ≤ 0 →
      (∃ refusal, signed value width = .error refusal ∧
        refusal.message = "negative shift count") ∧
      mask value width = 0) := by
  constructor
  · intro hwidth
    obtain ⟨s, hs⟩ := exists_represents hwidth value
    have hsigned := (signed_eq_ok_iff hwidth).mpr hs
    refine ⟨⟨s, hsigned, hs, fun r hr => ?_, hs.modEq⟩, ?_, fun hlow hhigh => ?_⟩
    · exact Except.ok.inj (((signed_eq_ok_iff hwidth).mpr hr).symm.trans hsigned)
    · rw [hsigned]
      exact (signed_eq_ok_iff hwidth).mpr (represents_mask_iff.mpr hs)
    · exact (signed_eq_ok_iff hwidth).mpr ⟨hlow, hhigh, rfl⟩
  · intro hwidth
    have hzero : width.toNat = 0 := Int.toNat_of_nonpos hwidth
    refine ⟨⟨{}, if_pos hwidth, rfl⟩, ?_⟩
    rw [mask, hzero]
    exact Int.emod_one value

/-- Eight bits at both ends of their range, and no bits. -/
theorem signed_is_balanced_remainder_at_bounds :
    signed 128 8 = .ok (-128) ∧ Represents 8 128 (-128) ∧
      (∀ r, Represents 8 128 r → r = -128) ∧ mask (-128) 8 = mask 128 8 ∧
      signed (mask (-129) 8) 8 = signed (-129) 8 ∧ signed (-129) 8 = .ok 127 ∧
      signed (-128) 8 = .ok (-128) ∧ signed 127 8 = .ok 127 ∧
      (∃ refusal, signed 5 (-1) = .error refusal ∧ refusal.message = "negative shift count") ∧
      mask 5 (-1) = 0 := by
  obtain ⟨⟨s, hs, hrepresents, hunique, hmask⟩, -, -⟩ :=
    (signed_is_balanced_remainder 128 8).1 (by decide)
  obtain rfl : -128 = s := Except.ok.inj hs
  obtain ⟨-, hmasked, -⟩ := (signed_is_balanced_remainder (-129) 8).1 (by decide)
  obtain ⟨-, -, hlowest⟩ := (signed_is_balanced_remainder (-128) 8).1 (by decide)
  obtain ⟨-, -, hhighest⟩ := (signed_is_balanced_remainder 127 8).1 (by decide)
  obtain ⟨hrefused, hzero⟩ := (signed_is_balanced_remainder 5 (-1)).2 (by decide)
  exact ⟨hs, hrepresents, hunique, hmask, hmasked, rfl, hlowest (by decide) (by decide),
    hhighest (by decide) (by decide), hrefused, hzero⟩

end GridAsm.Bits
