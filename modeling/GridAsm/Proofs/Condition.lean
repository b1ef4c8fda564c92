import GridAsm.Proofs.Literal
import GridAsm.Proofs.Operand
import GridAsm.Proofs.Reference

/-!
# The grammar of conditions

`IsCondition t code` says, without reading the text, that it is a condition in capitals: a digit
below eight, a binary or a hexadecimal number, or one of the names.  `conditionCode?` finds the code
of these texts and of no others (`conditionCode?_eq_some_iff`).

Conditions have a reader of their own, which knows neither signs nor underscores.  Where both it and
the reader of literals take a text, they agree on the low three bits (`eq_emod_of_isLiteral`).  A
token that is no condition counts as `AL`, with a warning (`condition_of_isUnknown`).
-/

namespace GridAsm

open Text

/-! ### Hexadecimal digits in capitals -/

namespace Text

/-- A code point is an ASCII hexadecimal digit in capitals. -/
def IsCapitalDigit (p : CodePoint) (d : Nat) : Prop :=
  d < 16 ∧ p = .char (Nat.digitChar d).toUpper

/-- A hexadecimal digit has the same value in capitals. -/
theorem forall₂_upper {t : Text} {ds : List Nat} (h : List.Forall₂ IsHexDigit t ds) :
    List.Forall₂ IsCapitalDigit (upper t) ds := by
  have hall : ∀ d < 16,
      upperPoint (.char (Nat.digitChar d)) = [.char (Nat.digitChar d).toUpper] ∧
      upperPoint (.char (Nat.digitChar d).toUpper) = [.char (Nat.digitChar d).toUpper] := by
    decide
  induction h with
  | nil => exact .nil
  | @cons p d rest ds hd _ ih =>
    have hupper : upperPoint p = [.char (Nat.digitChar d).toUpper] := by
      rcases hd.2 with rfl | rfl
      · exact (hall d hd.1).1
      · exact (hall d hd.1).2
    show List.Forall₂ IsCapitalDigit (upperPoint p ++ upper rest) (d :: ds)
    rw [hupper]
    exact .cons ⟨hd.1, rfl⟩ ih

/-- A hexadecimal numeral stands for the same number in capitals. -/
theorem IsNumeral.upper {t : Text} {n : Nat} (h : IsNumeral 16 IsHexDigit t n) :
    IsNumeral 16 IsCapitalDigit (upper t) n := by
  obtain ⟨ds, hne, hds, hn⟩ := h
  have hupper := forall₂_upper hds
  refine ⟨ds, ?_, hupper, hn⟩
  intro hnil
  rw [hnil, List.forall₂_nil_left_iff] at hupper
  rw [hupper, List.forall₂_nil_right_iff] at hds
  exact hne hds

theorem IsNumeral.isHexDigit {t : Text} {n : Nat} (h : IsNumeral 16 IsCapitalDigit t n) :
    IsNumeral 16 IsHexDigit t n := by
  obtain ⟨ds, hne, hds, hn⟩ := h
  exact ⟨ds, hne, hds.imp fun p d hd => ⟨hd.1, .inr hd.2⟩, hn⟩

end Text

/-! ### What a condition is -/

namespace Token

/-- A condition in capitals and its code: a digit below eight, the low three bits of a binary or a
hexadecimal number, or a name. -/
inductive IsCondition : Text → Nat → Prop
  | digit {d : Nat} (hd : d < 8) : IsCondition [.char (Nat.digitChar d)] d
  | binary {digits : Text} {n : Nat} (h : IsNumeral 2 Literal.IsBinaryDigit digits n) :
      IsCondition (.char '0' :: .char 'B' :: digits) (n % 8)
  | hex {digits : Text} {n : Nat} (h : IsNumeral 16 IsCapitalDigit digits n) :
      IsCondition (.char '0' :: .char 'X' :: digits) (n % 8)
  | name {name : Text} {code : Nat} (h : (name, code) ∈ conditionNames) : IsCondition name code

theorem conditionDigit?_eq_some_iff {t : Text} {code : Nat} :
    conditionDigit? t = some code ↔ code < 8 ∧ t = [.char (Nat.digitChar code)] := by
  constructor
  · intro h
    unfold conditionDigit? at h
    split at h
    · next c =>
      split_ifs at h with hc
      obtain rfl := Option.some.inj h
      have hlow : 48 ≤ c.toNat := hc.1
      have hhigh : c.toNat ≤ 55 := hc.2
      have hall : ∀ d < 8, Char.ofNat (48 + d) = Nat.digitChar d := by decide
      have hdigit := hall (c.toNat - 48) (by omega)
      rw [Nat.add_sub_cancel' hlow, Char.ofNat_toNat] at hdigit
      have h48 : '0'.toNat = 48 := rfl
      rw [h48, ← hdigit]
      exact ⟨by omega, rfl⟩
    · cases h
  · have hall : ∀ d < 8, conditionDigit? [.char (Nat.digitChar d)] = some d := by decide
    rintro ⟨hcode, rfl⟩
    exact hall code hcode

theorem conditionNumber?_binary (digits : Text) :
    conditionNumber? (.char '0' :: .char 'B' :: digits) =
      (numeral? 2 Literal.binaryValue? digits).map (· % 8) := rfl

theorem conditionNumber?_hex (digits : Text) :
    conditionNumber? (.char '0' :: .char 'X' :: digits) =
      (numeral? 16 hexValue? digits).map (· % 8) := rfl

theorem isCondition_of_conditionNumber? {t : Text} (ht : upper t = t) {code : Nat}
    (h : conditionNumber? t = some code) : IsCondition t code := by
  unfold conditionNumber? at h
  split at h
  · obtain ⟨n, hn, rfl⟩ := Option.map_eq_some_iff.mp h
    exact .binary ((numeral?_eq_some_iff Literal.binaryValue?_eq_some_iff).mp hn)
  · next digits =>
    obtain ⟨n, hn, rfl⟩ := Option.map_eq_some_iff.mp h
    have hdigits : upper digits = digits := by
      have hcons : upper (.char '0' :: .char 'X' :: digits) =
        .char '0' :: .char 'X' :: upper digits := rfl
      rw [hcons] at ht
      exact (List.cons.inj (List.cons.inj ht).2).2
    have hupper := ((numeral?_eq_some_iff hexValue?_eq_some_iff).mp hn).upper
    rw [hdigits] at hupper
    exact .hex hupper
  · cases h

/-- The names are no digits and no numbers, and no two of them are the same. -/
theorem conditionNames_distinct : ∀ entry ∈ conditionNames, conditionDigit? entry.1 = none ∧
    conditionNumber? entry.1 = none ∧ conditionNames.lookup entry.1 = some entry.2 := by
  decide

theorem conditionCode?_eq_some_iff {t : Text} (ht : upper t = t) {code : Nat} :
    conditionCode? t = some code ↔ IsCondition t code := by
  have hcases : conditionCode? t = some code ↔ conditionDigit? t = some code ∨
      conditionDigit? t = none ∧ (conditionNumber? t = some code ∨
        conditionNumber? t = none ∧ conditionNames.lookup t = some code) := by
    simp only [conditionCode?, Option.orElse_eq_orElse, Option.orElse_eq_or, Option.or_eq_some_iff]
  rw [hcases]
  constructor
  · rintro (h | ⟨-, h | ⟨-, h⟩⟩)
    · obtain ⟨hd, rfl⟩ := conditionDigit?_eq_some_iff.mp h
      exact .digit hd
    · exact isCondition_of_conditionNumber? ht h
    · obtain ⟨before, after, hsplit, -⟩ := List.lookup_eq_some_iff.mp h
      exact .name (by rw [hsplit]; simp)
  · intro h
    cases h with
    | digit hd => exact .inl (conditionDigit?_eq_some_iff.mpr ⟨hd, rfl⟩)
    | binary h =>
      refine .inr ⟨rfl, .inl ?_⟩
      rw [conditionNumber?_binary, (numeral?_eq_some_iff Literal.binaryValue?_eq_some_iff).mpr h]
      rfl
    | hex h =>
      refine .inr ⟨rfl, .inl ?_⟩
      rw [conditionNumber?_hex, (numeral?_eq_some_iff hexValue?_eq_some_iff).mpr h.isHexDigit]
      rfl
    | name h =>
      obtain ⟨hdigit, hnumber, hlookup⟩ := conditionNames_distinct _ h
      exact .inr ⟨hdigit, .inr ⟨hnumber, hlookup⟩⟩

/-! ### Conditions that are literals -/

/-- A condition that starts with a zero and a letter is a number. -/
theorem conditionCode?_zero_cons {p : CodePoint} {digits : Text} :
    conditionCode? (.char '0' :: p :: digits) = conditionNumber? (.char '0' :: p :: digits) := by
  have hdigit : conditionDigit? (.char '0' :: p :: digits) = none := rfl
  have hname : conditionNames.lookup (.char '0' :: p :: digits) = none := by
    rw [List.lookup_eq_none_iff]
    intro entry hentry
    have hnames : ∀ entry ∈ conditionNames, entry.1.head? ≠ some (.char '0') := by decide
    rw [bne_iff_ne]
    intro heq
    exact hnames entry hentry (by rw [← heq]; rfl)
  rw [conditionCode?, hdigit, hname]
  cases conditionNumber? (.char '0' :: p :: digits) <;> rfl

/-- A hexadecimal literal without a sign is a condition: its low three bits. -/
theorem conditionCode?_of_hex {x : Char} (hx : x = 'x' ∨ x = 'X') {digits : Text} {m : Nat}
    (h : IsNumeral 16 IsHexDigit digits m) :
    conditionCode? (upper (.char '0' :: .char x :: digits)) = some (m % 8) := by
  have hupper : upper (.char '0' :: .char x :: digits) =
      .char '0' :: .char 'X' :: upper digits := by
    rcases hx with rfl | rfl <;> rfl
  have hvalue := (numeral?_eq_some_iff hexValue?_eq_some_iff).mpr h.upper.isHexDigit
  rw [hupper, conditionCode?_zero_cons, conditionNumber?_hex, hvalue]
  rfl

theorem of_isBinaryDigit {p : CodePoint} {d : Nat} (h : Literal.IsBinaryDigit p d) :
    upperPoint p = [p] ∧ p ≠ .char '_' := by
  have hall : ∀ d < 2, upperPoint (.char (Nat.digitChar d)) = [.char (Nat.digitChar d)] ∧
      CodePoint.char (Nat.digitChar d) ≠ .char '_' := by decide
  rw [h.2]
  exact hall d h.1

/-- A binary literal without a sign is a condition unless it has underscores. -/
theorem eq_of_conditionCode?_binary {b : Char} (hb : b = 'b' ∨ b = 'B') {digits : Text}
    {code m : Nat} (hm : IsNumeral 2 Literal.IsBinaryDigit (digits.filter (· ≠ .char '_')) m)
    (h : conditionCode? (upper (.char '0' :: .char b :: digits)) = some code) : code = m % 8 := by
  -- Binary digits and underscores are their own capitals.
  have hkept : ∀ p ∈ digits.filter (· ≠ .char '_'), upperPoint p = [p] :=
    hm.forall_mem fun hd => (of_isBinaryDigit hd).1
  have hfixed : upper digits = digits := by
    apply upper_eq_self
    intro p hp
    by_cases hunderscore : p = .char '_'
    · rw [hunderscore]
      decide
    · exact hkept p (List.mem_filter.mpr ⟨hp, decide_eq_true hunderscore⟩)
  have hupper : upper (.char '0' :: .char b :: digits) =
      .char '0' :: .char 'B' :: upper digits := by
    rcases hb with rfl | rfl <;> rfl
  rw [hupper, hfixed, conditionCode?_zero_cons, conditionNumber?_binary] at h
  obtain ⟨n, hn, rfl⟩ := Option.map_eq_some_iff.mp h
  -- A condition has binary digits only, so no underscore was dropped from the literal.
  have hdigits : ∀ p ∈ digits, p ≠ .char '_' :=
    ((numeral?_eq_some_iff Literal.binaryValue?_eq_some_iff).mp hn).forall_mem
      fun hd => (of_isBinaryDigit hd).2
  have hnone : digits.filter (· ≠ .char '_') = digits :=
    List.filter_eq_self.mpr fun p hp => decide_eq_true (hdigits p hp)
  rw [hnone, ← numeral?_eq_some_iff Literal.binaryValue?_eq_some_iff, hn] at hm
  rw [Option.some.inj hm]

/-- A decimal literal without a sign is a condition as a single digit only. -/
theorem eq_of_conditionCode?_decimal {digits : Text} {code m : Nat}
    (hm : IsNumeral 10 IsDecimalDigit digits m)
    (h : conditionCode? (upper digits) = some code) : code = m % 8 := by
  have hdigits := hm.forall_mem IsDecimalDigit.isDigit
  have hupper : upper digits = digits :=
    upper_eq_self fun p hp => upperPoint_of_isDigit (hdigits p hp)
  rw [hupper, conditionCode?_eq_some_iff hupper] at h
  cases h with
  | digit hd =>
    have hall : ∀ d < 8, numeral? 10 digitValue? [.char (Nat.digitChar d)] = some d := by decide
    have hvalue := (numeral?_eq_some_iff digitValue?_eq_some_iff).mpr hm
    rw [hall code hd] at hvalue
    rw [← Option.some.inj hvalue, Nat.mod_eq_of_lt hd]
  | binary h => exact absurd (hdigits (.char 'B') (by simp)) (by decide)
  | hex h => exact absurd (hdigits (.char 'X') (by simp)) (by decide)
  | name h =>
    have hnames : ∀ entry ∈ conditionNames, ∃ p ∈ entry.1, isDigit p = false := by decide
    obtain ⟨p, hp, hletter⟩ := hnames _ h
    rw [hdigits p hp] at hletter
    exact absurd hletter (by decide)

/-- No condition starts with a sign. -/
theorem IsCondition.head?_ne {t : Text} {code : Nat} (h : IsCondition t code) :
    t.head? ≠ some (.char '+') ∧ t.head? ≠ some (.char '-') := by
  have hnames : ∀ entry ∈ conditionNames, entry.1.head? ≠ some (.char '+') ∧
      entry.1.head? ≠ some (.char '-') := by decide
  cases h with
  | digit hd => simp
  | binary h | hex h => simp
  | name h => exact hnames _ h

/-- Where a condition is also a literal, its code is the low three bits of the number. -/
theorem eq_emod_of_isLiteral {t : Text} {code : Nat} {n : Int}
    (h : conditionCode? (upper t) = some code) (hn : Literal.IsLiteral t n) :
    (code : Int) = n % 8 := by
  have hsign := ((conditionCode?_eq_some_iff (upper_upper t)).mp h).head?_ne
  obtain ⟨sign, hmem, digits, m, rfl, hm, rfl⟩ := hn
  simp only [Literal.signs, List.mem_cons, List.not_mem_nil, or_false] at hmem
  rcases hmem with rfl | rfl | rfl
  · have hcode : code = m % 8 := by
      cases hm with
      | decimal hm => exact eq_of_conditionCode?_decimal hm h
      | hex hx hm => exact Option.some.inj (h.symm.trans (conditionCode?_of_hex hx hm))
      | binary hb hm => exact eq_of_conditionCode?_binary hb hm h
    rw [hcode, Int.one_mul]
    rfl
  · exact absurd rfl hsign.1
  · exact absurd rfl hsign.2

/-! ### Unknown conditions -/

/-- A token is no condition, blanks around it and the case of its letters apart. -/
def IsUnknown (token : Text) : Prop :=
  ∀ code, ¬ IsCondition (upper (trim token)) code

theorem isUnknown_iff {token : Text} :
    IsUnknown token ↔ conditionCode? (upper (trim token)) = none := by
  rw [Option.eq_none_iff_forall_ne_some]
  exact forall_congr' fun code => not_congr (conditionCode?_eq_some_iff (upper_upper _)).symm

instance (token : Text) : Decidable (IsUnknown token) :=
  decidable_of_iff _ isUnknown_iff.symm

/-- A token that is no condition counts as `AL`, with a warning. -/
theorem condition_of_isUnknown {token : Text} (h : IsUnknown token) :
    condition token = ⟨0, [.unknownCondition (trim token)]⟩ := by
  simp only [condition, isUnknown_iff.mp h]

/-- A condition is read without a warning. -/
theorem condition_of_isCondition {token : Text} {code : Nat}
    (h : IsCondition (upper (trim token)) code) : condition token = pure code := by
  rw [← conditionCode?_eq_some_iff (upper_upper _)] at h
  simp only [condition, h]

theorem exists_isCondition_of_not_isUnknown {token : Text} (h : ¬ IsUnknown token) :
    ∃ code, IsCondition (upper (trim token)) code ∧ condition token = pure code := by
  obtain ⟨code, hcode⟩ := not_forall_not.mp h
  exact ⟨code, hcode, condition_of_isCondition hcode⟩

theorem notices_condition (token : Text) :
    (condition token).notices =
      if IsUnknown token then [.unknownCondition (trim token)] else [] := by
  split_ifs with h
  · rw [condition_of_isUnknown h]
  · obtain ⟨code, -, hcode⟩ := exists_isCondition_of_not_isUnknown h
    rw [hcode]
    rfl

end Token

end GridAsm
