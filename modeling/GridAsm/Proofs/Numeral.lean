import GridAsm.Proofs.Text
import GridAsm.Text.Column
import Mathlib.Data.List.Forall2
import Mathlib.Data.Nat.Digits.Defs

/-!
# Numbers as digits and back

A numeral is a text of digits, and the number that it stands for is the library's `Nat.ofDigits` of
them (`IsNumeral`).  What a digit is does not depend on its reader: it has a place after the zero of a
script, or it is one of sixteen characters (`digitValue?_eq_some_iff`, `hexValue?_eq_some_iff`).
Whoever reads each digit as such reads numerals and nothing else (`numeral?_eq_some_iff`).

A number written in a base is a list of digits below the base whose positional value is the number
(`exists_toDigits_eq`), and zeros in front of them change nothing but how many there are
(`exists_zeroFilled_eq`).
-/

namespace GridAsm.Text

/-! ### Digits -/

/-- A code point is a decimal digit of some script: it stands `d` places after the script's zero. -/
def IsDecimalDigit (p : CodePoint) (d : Nat) : Prop :=
  d < 10 ∧ ∃ z ∈ digitZeros, p.code = z + d

/-- A code point is an ASCII hexadecimal digit, of either case. -/
def IsHexDigit (p : CodePoint) (d : Nat) : Prop :=
  d < 16 ∧ (p = .char (Nat.digitChar d) ∨ p = .char (Nat.digitChar d).toUpper)

/-- In a table of zeros that lie ten or more apart, a digit is found after its own zero. -/
theorem digitAfterZero?_eq_some_iff {zeros : List Nat}
    (h : zeros.Pairwise fun z z' => z + 10 ≤ z') {n d : Nat} :
    digitAfterZero? n zeros = some d ↔ d < 10 ∧ ∃ z ∈ zeros, n = z + d := by
  induction zeros with
  | nil => simp [digitAfterZero?]
  | cons z rest ih =>
    obtain ⟨hz, hrest⟩ := List.pairwise_cons.mp h
    rw [digitAfterZero?, List.exists_mem_cons_iff]
    split_ifs with hbelow hdigit
    · -- All zeros that follow are larger still.
      refine iff_of_false (by simp) ?_
      rintro ⟨-, hn | ⟨z', hz', hn⟩⟩
      · omega
      · have := hz z' hz'
        omega
    · rw [Option.some.injEq]
      constructor
      · intro hd
        exact ⟨by omega, .inl (by omega)⟩
      · rintro ⟨hd, hn | ⟨z', hz', hn⟩⟩
        · omega
        · have := hz z' hz'
          omega
    · rw [ih hrest]
      refine and_congr_right fun hd => ⟨.inr, ?_⟩
      rintro (hn | hn)
      · omega
      · exact hn

theorem digitValue?_eq_some_iff {p : CodePoint} {d : Nat} :
    digitValue? p = some d ↔ IsDecimalDigit p d :=
  digitAfterZero?_eq_some_iff (by decide)

theorem IsDecimalDigit.isDigit {p : CodePoint} {d : Nat} (h : IsDecimalDigit p d) :
    isDigit p = true := by
  rw [Text.isDigit, digitValue?_eq_some_iff.mpr h]
  rfl

theorem hexDigitValue?_eq_some_iff {c : Char} {d : Nat} :
    hexDigitValue? c = some d ↔ d < 16 ∧ (c = Nat.digitChar d ∨ c = (Nat.digitChar d).toUpper) := by
  constructor
  · intro h
    have hdecimal : ∀ d < 10, Char.ofNat (48 + d) = Nat.digitChar d := by decide
    have hsmall : ∀ d < 6, Char.ofNat (97 + d) = Nat.digitChar (d + 10) := by decide
    have hcapital : ∀ d < 6, Char.ofNat (65 + d) = (Nat.digitChar (d + 10)).toUpper := by decide
    -- A character is that many places after the first one of its range.
    have hplace : ∀ {first : Nat}, first ≤ c.toNat → c = Char.ofNat (first + (c.toNat - first)) := by
      intro first hfirst
      rw [Nat.add_sub_cancel' hfirst, Char.ofNat_toNat]
    rw [hexDigitValue?] at h
    split_ifs at h with hrange hrange hrange
    all_goals
      obtain rfl := Option.some.inj h
      obtain ⟨hlow, hhigh⟩ := hrange
    · have hlow' : 48 ≤ c.toNat := hlow
      have hhigh' : c.toNat ≤ 57 := hhigh
      have hd : c.toNat - 48 < 10 := by omega
      exact ⟨hd.trans (by decide), .inl ((hplace hlow').trans (hdecimal _ hd))⟩
    · have hlow' : 97 ≤ c.toNat := hlow
      have hhigh' : c.toNat ≤ 102 := hhigh
      have hd : c.toNat - 97 < 6 := by omega
      exact ⟨Nat.add_lt_add_right hd 10, .inl ((hplace hlow').trans (hsmall _ hd))⟩
    · have hlow' : 65 ≤ c.toNat := hlow
      have hhigh' : c.toNat ≤ 70 := hhigh
      have hd : c.toNat - 65 < 6 := by omega
      exact ⟨Nat.add_lt_add_right hd 10, .inr ((hplace hlow').trans (hcapital _ hd))⟩
  · have hall : ∀ d < 16, hexDigitValue? (Nat.digitChar d) = some d ∧
        hexDigitValue? (Nat.digitChar d).toUpper = some d := by decide
    rintro ⟨hd, rfl | rfl⟩
    · exact (hall d hd).1
    · exact (hall d hd).2

theorem hexValue?_eq_some_iff {p : CodePoint} {d : Nat} :
    hexValue? p = some d ↔ IsHexDigit p d := by
  cases p with
  | char c => simp [hexValue?, hexDigitValue?_eq_some_iff, IsHexDigit]
  | lone offset => simp [hexValue?, IsHexDigit]

/-! ### Numerals -/

/-- A text of digits in a base, one at least, and the number that they stand for. -/
def IsNumeral (base : Nat) (isDigit : CodePoint → Nat → Prop) (t : Text) (n : Nat) : Prop :=
  ∃ ds, t ≠ [] ∧ List.Forall₂ isDigit t ds ∧ n = Nat.ofDigits base ds.reverse

theorem positional_append_singleton (base : Nat) (ds : List Nat) (d : Nat) :
    positional base (ds ++ [d]) = positional base ds * base + d := by
  unfold positional
  rw [List.foldl_append, List.foldl_cons, List.foldl_nil]

theorem positional_replicate_append (base k : Nat) (ds : List Nat) :
    positional base (List.replicate k 0 ++ ds) = positional base ds := by
  unfold positional
  rw [List.foldl_append]
  congr 1
  induction k with
  | zero => rfl
  | succ k ih => rw [List.replicate_succ, List.foldl_cons, Nat.zero_mul, ih]

theorem positional_eq_ofDigits (base : Nat) (ds : List Nat) :
    positional base ds = Nat.ofDigits base ds.reverse := by
  induction ds using List.reverseRecOn with
  | nil => rfl
  | append_singleton ds d ih =>
    rw [positional_append_singleton, ih, List.reverse_append, List.reverse_singleton,
      List.singleton_append, Nat.ofDigits_cons, Nat.mul_comm, Nat.add_comm]

theorem mapM_eq_some_iff {value? : CodePoint → Option Nat} {t : Text} {ds : List Nat} :
    t.mapM value? = some ds ↔ List.Forall₂ (fun p d => value? p = some d) t ds := by
  induction t generalizing ds with
  | nil => simp [eq_comm]
  | cons p rest ih =>
    cases ds with
    | nil => simp [List.mapM_cons, Option.bind_eq_some_iff]
    | cons d ds => simp [List.mapM_cons, Option.bind_eq_some_iff, ih]

/-- Digits are read as the number that they stand for. -/
theorem numeral?_eq_some_iff {base : Nat} {value? : CodePoint → Option Nat}
    {isDigit : CodePoint → Nat → Prop} (h : ∀ {p d}, value? p = some d ↔ isDigit p d) {t : Text}
    {n : Nat} : numeral? base value? t = some n ↔ IsNumeral base isDigit t n := by
  have hdigits : ∀ ds, t.mapM value? = some ds ↔ List.Forall₂ isDigit t ds := by
    intro ds
    simp only [mapM_eq_some_iff, h]
  rw [numeral?]
  split_ifs with hempty
  · have hnil : t = [] := by simpa using hempty
    simp [IsNumeral, hnil]
  · have hne : t ≠ [] := by simpa using hempty
    simp [IsNumeral, hne, hdigits, positional_eq_ofDigits, eq_comm]

/-- What holds of the digits of a base holds of the code points of a numeral. -/
theorem IsNumeral.forall_mem {base : Nat} {isDigit : CodePoint → Nat → Prop} {t : Text} {n : Nat}
    (h : IsNumeral base isDigit t n) {P : CodePoint → Prop} (hP : ∀ {p d}, isDigit p d → P p) :
    ∀ p ∈ t, P p := by
  obtain ⟨ds, -, hds, -⟩ := h
  induction hds with
  | nil => simp
  | cons hd _ ih =>
    rw [List.forall_mem_cons]
    exact ⟨hP hd, ih⟩

/-- Digits that are written as such are a numeral of their positional value. -/
theorem isNumeral_ofChars {base : Nat} {isDigit : CodePoint → Nat → Prop} {write : Nat → Char}
    {ds : List Nat} (hne : ds ≠ []) (h : ∀ d ∈ ds, isDigit (.char (write d)) d) :
    IsNumeral base isDigit (ofChars (ds.map write)) (positional base ds) := by
  refine ⟨ds, by simpa [ofChars] using hne, ?_, positional_eq_ofDigits base ds⟩
  rw [ofChars, List.forall₂_map_left_iff, List.forall₂_map_left_iff, List.forall₂_same]
  exact h

/-! ### Numbers that are written -/

/-- The digits in which a number is written. -/
theorem exists_toDigits_eq {base : Nat} (hbase : 1 < base) (n : Nat) :
    ∃ ds, Nat.toDigits base n = ds.map Nat.digitChar ∧ ds ≠ [] ∧ (∀ d ∈ ds, d < base) ∧
      positional base ds = n := by
  induction n using Nat.strong_induction_on with
  | _ n ih =>
    rw [Nat.toDigits_eq_if hbase]
    by_cases hn : n < base
    · rw [if_pos hn]
      exact ⟨[n], rfl, by simp, by simpa using hn, by simp [positional]⟩
    · -- The last digit is the remainder, and the others are those of the quotient.
      rw [if_neg hn]
      have hquot : n / base < n := Nat.div_lt_self (by omega) hbase
      obtain ⟨ds, hds, -, hlt, hvalue⟩ := ih (n / base) hquot
      refine ⟨ds ++ [n % base], ?_, by simp, ?_, ?_⟩
      · rw [hds, List.map_append, List.map_singleton]
      · intro d hd
        rcases List.mem_append.mp hd with hd | hd
        · exact hlt d hd
        · rw [List.mem_singleton.mp hd]
          exact Nat.mod_lt _ (by omega)
      · rw [positional_append_singleton, hvalue, Nat.div_add_mod']

/-- A number that is written in a base is a numeral, whichever way its digits are written. -/
theorem isNumeral_map_toDigits {base : Nat} {isDigit : CodePoint → Nat → Prop} (hbase : 1 < base)
    {write : Char → Char} (h : ∀ d < base, isDigit (.char (write (Nat.digitChar d))) d) (n : Nat) :
    IsNumeral base isDigit (ofChars ((Nat.toDigits base n).map write)) n := by
  obtain ⟨ds, hds, hne, hlt, hvalue⟩ := exists_toDigits_eq hbase n
  have hwritten : (Nat.toDigits base n).map write = ds.map fun d => write (Nat.digitChar d) := by
    rw [hds, List.map_map]
    rfl
  rw [hwritten, ← hvalue]
  exact isNumeral_ofChars hne fun d hd => h d (hlt d hd)

theorem isNumeral_toDigits {base : Nat} {isDigit : CodePoint → Nat → Prop} (hbase : 1 < base)
    (h : ∀ d < base, isDigit (.char (Nat.digitChar d)) d) (n : Nat) :
    IsNumeral base isDigit (ofChars (Nat.toDigits base n)) n := by
  have hwritten := @isNumeral_map_toDigits base isDigit hbase id h n
  rwa [List.map_id] at hwritten

/-- The digits of a column: as many as it is wide, if the number has no more. -/
theorem exists_zeroFilled_eq {base width n : Nat} (hbase : 1 < base) (hwidth : 0 < width)
    (hn : n < base ^ width) (write : Char → Char) (hzero : write '0' = '0') :
    ∃ ds, zeroFilled width ((Nat.toDigits base n).map write) =
        ds.map (fun d => write (Nat.digitChar d)) ∧
      ds.length = width ∧ (∀ d ∈ ds, d < base) ∧ positional base ds = n := by
  have hlength : (Nat.toDigits base n).length ≤ width :=
    (Nat.length_toDigits_le_iff hbase hwidth).mpr hn
  obtain ⟨ds, hds, -, hlt, hvalue⟩ := exists_toDigits_eq hbase n
  rw [hds, List.length_map] at hlength
  refine ⟨List.replicate (width - ds.length) 0 ++ ds, ?_, ?_, ?_, ?_⟩
  · have hfill : write (Nat.digitChar 0) = '0' := hzero
    rw [zeroFilled, hds, List.length_map, List.length_map, List.map_append, List.map_replicate,
      List.map_map, hfill]
    rfl
  · rw [List.length_append, List.length_replicate]
    omega
  · intro d hd
    rcases List.mem_append.mp hd with hd | hd
    · rw [List.eq_of_mem_replicate hd]
      omega
    · exact hlt d hd
  · rw [positional_replicate_append, hvalue]

end GridAsm.Text
