import GridAsm.Bits
import Mathlib.Algebra.Order.Group.Unbundled.Int
import Mathlib.Tactic.LinearCombination
import Mathlib.Tactic.Positivity
import Mathlib.Tactic.Ring

/-!
# Bits of masked, shifted and deposited integers

An integer is known by its bits (`eq_of_bit_eq`).  Everything else here rests on one fact: a number
that is put together from a high part and `k` low bits has the bits of both, one above the other
(`bit_mul_two_pow_add`).  A deposit takes a number apart twice, below and above the range, so it
replaces the bits of the range and no others (`bit_deposit`).
-/

namespace GridAsm.Bits

/-! ### Numbers in parts -/

theorem two_pow_pos (k : Nat) : (0 : Int) < 2 ^ k := by
  positivity

theorem weight_eq (i : Nat) : weight i = 2 ^ i := rfl

theorem bit_eq_decide (n : Int) (i : Nat) : bit n i = decide (n / 2 ^ i % 2 = 1) := rfl

@[simp] theorem bit_zero_left (i : Nat) : bit 0 i = false := by
  simp [bit_eq_decide]

theorem bit_natCast (n i : Nat) : bit n i = n.testBit i := by
  rw [Nat.testBit_eq_decide_div_mod_eq, bit_eq_decide]
  exact decide_eq_decide.mpr (by norm_cast)

/-- The bits of a high part and of `k` low bits below it. -/
theorem bit_mul_two_pow_add (q : Int) {r : Int} {k : Nat} (h0 : 0 ≤ r) (h1 : r < 2 ^ k) (i : Nat) :
    bit (q * 2 ^ k + r) i = if i < k then bit r i else bit q (i - k) := by
  simp only [bit_eq_decide]
  by_cases hik : i < k
  · -- The high part is a multiple of `2 ^ (i + 1)`, so bit `i` does not see it.
    obtain ⟨d, rfl⟩ : ∃ d, k = i + (d + 1) := ⟨k - i - 1, by omega⟩
    have hsplit : q * 2 ^ (i + (d + 1)) + r = r + (q * 2 ^ d * 2) * 2 ^ i := by ring
    rw [if_pos hik, hsplit, Int.add_mul_ediv_right _ _ (two_pow_pos i).ne',
      Int.add_mul_emod_self_right]
  · obtain ⟨d, rfl⟩ : ∃ d, i = k + d := ⟨i - k, by omega⟩
    have hhigh : (q * 2 ^ k + r) / 2 ^ k = q := by
      rw [Int.add_comm, Int.add_mul_ediv_right _ _ (two_pow_pos k).ne', Int.ediv_eq_zero_of_lt h0 h1,
        Int.zero_add]
    rw [if_neg hik, pow_add, ← Int.ediv_ediv_of_nonneg (two_pow_pos k).le, hhigh,
      Nat.add_sub_cancel_left]

/-- The low bits of a number and nothing above them. -/
theorem bit_emod_two_pow (n : Int) (k i : Nat) :
    bit (n % 2 ^ k) i = (decide (i < k) && bit n i) := by
  have hr0 : 0 ≤ n % 2 ^ k := Int.emod_nonneg _ (two_pow_pos k).ne'
  have hr1 : n % 2 ^ k < 2 ^ k := Int.emod_lt_of_pos _ (two_pow_pos k)
  have hn : bit n i = bit (n / 2 ^ k * 2 ^ k + n % 2 ^ k) i := by rw [Int.ediv_mul_add_emod]
  have hlow : bit (n % 2 ^ k) i = bit (0 * 2 ^ k + n % 2 ^ k) i := by
    rw [Int.zero_mul, Int.zero_add]
  by_cases hik : i < k
  · rw [hn, bit_mul_two_pow_add _ hr0 hr1, if_pos hik, decide_eq_true hik, Bool.true_and]
  · rw [hlow, bit_mul_two_pow_add _ hr0 hr1, if_neg hik, decide_eq_false hik, bit_zero_left,
      Bool.false_and]

theorem bit_ediv_two_pow (n : Int) (k i : Nat) : bit (n / 2 ^ k) i = bit n (k + i) := by
  rw [bit_eq_decide, bit_eq_decide, Int.ediv_ediv_of_nonneg (two_pow_pos k).le, ← pow_add]

theorem bit_shiftRight (n : Int) (k i : Nat) : bit (n >>> k) i = bit n (k + i) := by
  have h : ((2 ^ k : Nat) : Int) = 2 ^ k := by push_cast; rfl
  rw [Int.shiftRight_eq_div_pow, h, bit_ediv_two_pow]

/-- Two integers with the same bits are the same. -/
theorem eq_of_bit_eq {m n : Int} (h : ∀ i, bit m i = bit n i) : m = n := by
  -- The difference is a multiple of every power of two.
  have hdvd : ∀ k : Nat, (2 : Int) ^ k ∣ m - n := by
    intro k
    induction k with
    | zero => simp
    | succ k ih =>
      obtain ⟨d, hd⟩ := ih
      have hquot : m / 2 ^ k = n / 2 ^ k + d := by
        rw [← Int.add_mul_ediv_right _ _ (two_pow_pos k).ne']
        congr 1
        linear_combination hd
      have hbit := h k
      simp only [bit_eq_decide, decide_eq_decide, hquot] at hbit
      have heven : d % 2 = 0 := by omega
      obtain ⟨e, rfl⟩ := Int.dvd_of_emod_eq_zero heven
      exact ⟨e, by rw [hd]; ring⟩
  have hlt : |m - n| < 2 ^ (m - n).natAbs := by
    rw [Int.abs_eq_natAbs]
    exact_mod_cast Nat.lt_two_pow_self
  have := Int.eq_zero_of_abs_lt_dvd (hdvd _) hlt
  omega

/-- A number whose bits from `k` on are clear is one of `k` bits. -/
theorem bounds_of_bit_eq_false {n : Int} {k : Nat} (h : ∀ i, k ≤ i → bit n i = false) :
    0 ≤ n ∧ n < 2 ^ k := by
  have hmod : n % 2 ^ k = n := by
    apply eq_of_bit_eq
    intro i
    rw [bit_emod_two_pow]
    by_cases hik : i < k
    · rw [decide_eq_true hik, Bool.true_and]
    · rw [h i (by omega), Bool.and_false]
  rw [← hmod]
  exact ⟨Int.emod_nonneg _ (two_pow_pos k).ne', Int.emod_lt_of_pos _ (two_pow_pos k)⟩

/-! ### Deposits -/

/-- A deposit replaces the bits of its range by the low bits of the value, and no others. -/
theorem bit_deposit (word : Int) (lsb width : Nat) (value : Int) (i : Nat) :
    bit (deposit word lsb width value) i =
      if lsb ≤ i ∧ i < lsb + width then bit value (i - lsb) else bit word i := by
  -- The word is `(above * 2 ^ width + range) * 2 ^ lsb + below`.
  have hbelow0 : 0 ≤ word % 2 ^ lsb := Int.emod_nonneg _ (two_pow_pos lsb).ne'
  have hbelow1 : word % 2 ^ lsb < 2 ^ lsb := Int.emod_lt_of_pos _ (two_pow_pos lsb)
  have hvalue0 : 0 ≤ value % 2 ^ width := Int.emod_nonneg _ (two_pow_pos width).ne'
  have hvalue1 : value % 2 ^ width < 2 ^ width := Int.emod_lt_of_pos _ (two_pow_pos width)
  have hword : word = word / 2 ^ lsb * 2 ^ lsb + word % 2 ^ lsb :=
    (Int.ediv_mul_add_emod word (2 ^ lsb)).symm
  have habove : word / 2 ^ lsb =
      word / 2 ^ lsb / 2 ^ width * 2 ^ width + word / 2 ^ lsb % 2 ^ width :=
    (Int.ediv_mul_add_emod (word / 2 ^ lsb) (2 ^ width)).symm
  have hdeposit : deposit word lsb width value =
      (word / 2 ^ lsb / 2 ^ width * 2 ^ width + value % 2 ^ width) * 2 ^ lsb + word % 2 ^ lsb := by
    simp only [deposit, weight_eq]
    linear_combination hword + (2 ^ lsb : Int) * habove
  rw [hdeposit, bit_mul_two_pow_add _ hbelow0 hbelow1]
  by_cases hlow : i < lsb
  · rw [if_pos hlow, if_neg (by omega), bit_emod_two_pow, decide_eq_true hlow,
      Bool.true_and]
  rw [if_neg hlow, bit_mul_two_pow_add _ hvalue0 hvalue1]
  by_cases hrange : i - lsb < width
  · rw [if_pos hrange, if_pos (by omega), bit_emod_two_pow, decide_eq_true hrange,
      Bool.true_and]
  · rw [if_neg hrange, if_neg (by omega), bit_ediv_two_pow, bit_ediv_two_pow]
    congr 1
    omega

/-- A write to a range that reaches no lower than bit zero is a deposit. -/
theorem write_eq_deposit (word : Int) (lsb : Nat) {width : Nat} (h : 0 < width) (value : Int) :
    write word (lsb + width - 1) width value = .ok (deposit word lsb width value) := by
  have hlow : lowest (lsb + width - 1) width = lsb := by
    rw [lowest]
    omega
  rw [write, hlow, if_neg (by omega), if_neg (by omega), Int.toNat_natCast,
    Int.toNat_natCast]

/-! ### Signed numbers -/

/-- The low bits of a small number are read back as that number. -/
theorem signed_eq_of_emod_eq {value n : Int} {k : Nat} (h : value % 2 ^ (k + 1) = n % 2 ^ (k + 1))
    (hlow : -2 ^ k ≤ n) (hhigh : n < 2 ^ k) : signed value (k + 1 : Nat) = .ok n := by
  have hpow : (2 : Int) ^ (k + 1) = 2 * 2 ^ k := pow_succ' 2 k
  have hhalf : ((k + 1 : Nat) - 1 : Int).toNat = k := by omega
  rw [signed, if_neg (by omega), hhalf]
  simp only [mask, weight_eq, Int.toNat_natCast, h]
  by_cases hn : 0 ≤ n
  · rw [Int.emod_eq_of_lt hn (by omega), if_pos hhigh]
  · -- A negative number wraps around once.
    have hwrap : n % 2 ^ (k + 1) = n + 2 ^ (k + 1) := by
      rw [← Int.add_emod_right, Int.emod_eq_of_lt (by omega) (by omega)]
    rw [hwrap, if_neg (by omega), Int.add_sub_cancel]

end GridAsm.Bits
