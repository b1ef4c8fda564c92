import GridAsm.Literal
import GridAsm.Proofs.Numeral

/-!
# The grammar of literals

`IsLiteral t n` says, without reading the text, that it is a literal of the number `n`: a sign or none,
and then decimal digits, hexadecimal digits after `0x`, or binary digits after `0b` with underscores
among them (`IsMagnitude`).

`Literal.parse?` reads these texts, blanks around them apart, and no others (`parse?_eq_some_iff`).  A
literal starts with a sign or a decimal digit (`IsLiteral.exists_cons`).  A number that is written in
one of the three bases is a literal, and is read back.
-/

namespace GridAsm.Literal

open Text

/-! ### The grammar -/

/-- A code point is an ASCII binary digit. -/
def IsBinaryDigit (p : CodePoint) (d : Nat) : Prop :=
  d < 2 ∧ p = .char (Nat.digitChar d)

/-- The number of a literal without its sign. -/
inductive IsMagnitude : Text → Nat → Prop
  /-- Decimal digits of any script, no more than are converted. -/
  | decimal {digits : Text} {n : Nat} (h : IsNumeral 10 IsDecimalDigit digits n)
      (hlimit : digits.length ≤ digitLimit) : IsMagnitude digits n
  /-- Hexadecimal digits after `0x`. -/
  | hex {x : Char} {digits : Text} {n : Nat} (hx : x = 'x' ∨ x = 'X')
      (h : IsNumeral 16 IsHexDigit digits n) : IsMagnitude (.char '0' :: .char x :: digits) n
  /-- Binary digits after `0b`, with underscores among them. -/
  | binary {b : Char} {digits : Text} {n : Nat} (hb : b = 'b' ∨ b = 'B')
      (h : IsNumeral 2 IsBinaryDigit (digits.filter (· ≠ .char '_')) n) :
      IsMagnitude (.char '0' :: .char b :: digits) n

/-- The signs that a literal may have, with their factors. -/
def signs : List (Text × Int) :=
  [("", 1), ("+", 1), ("-", -1)]

/-- A text is a literal of the number `n`. -/
def IsLiteral (t : Text) (n : Int) : Prop :=
  ∃ sign ∈ signs, ∃ digits m, t = sign.1 ++ digits ∧ IsMagnitude digits m ∧ n = sign.2 * m

/-! ### The reader -/

theorem binaryValue?_eq_some_iff {p : CodePoint} {d : Nat} :
    binaryValue? p = some d ↔ IsBinaryDigit p d := by
  constructor
  · intro h
    rw [binaryValue?] at h
    split_ifs at h with hzero hone
    · obtain rfl := Option.some.inj h
      exact ⟨by decide, hzero⟩
    · obtain rfl := Option.some.inj h
      exact ⟨by decide, hone⟩
  · have hall : ∀ d < 2, binaryValue? (.char (Nat.digitChar d)) = some d := by decide
    rintro ⟨hd, rfl⟩
    exact hall d hd

/-- The letter that gives the base is no decimal digit. -/
theorem numeral?_of_letter {x : Char} (hx : digitValue? (.char x) = none) (digits : Text) :
    numeral? 10 digitValue? (.char '0' :: .char x :: digits) = none := by
  have hzero : digitValue? (.char '0') = some 0 := by decide
  rw [numeral?, List.mapM_cons, List.mapM_cons, hzero, hx]
  rfl

theorem magnitude?_of_letter {x : Char} (hx : digitValue? (.char x) = none) (digits : Text) :
    magnitude? (.char '0' :: .char x :: digits) =
      if x = 'x' ∨ x = 'X' then numeral? 16 hexValue? digits
      else if x = 'b' ∨ x = 'B' then numeral? 2 binaryValue? (digits.filter (· ≠ .char '_'))
      else none := by
  simp only [magnitude?, numeral?_of_letter hx, CodePoint.char.injEq]

theorem magnitude?_eq_some_iff {t : Text} {n : Nat} :
    magnitude? t = some n ↔ IsMagnitude t n := by
  constructor
  · intro h
    unfold magnitude? at h
    split at h
    · next m hm =>
      split_ifs at h with hlimit
      obtain rfl := Option.some.inj h
      exact .decimal ((numeral?_eq_some_iff digitValue?_eq_some_iff).mp hm) hlimit
    · split at h
      · split_ifs at h with hx hb
        · rcases hx with rfl | rfl
          · exact .hex (.inl rfl) ((numeral?_eq_some_iff hexValue?_eq_some_iff).mp h)
          · exact .hex (.inr rfl) ((numeral?_eq_some_iff hexValue?_eq_some_iff).mp h)
        · rcases hb with rfl | rfl
          · exact .binary (.inl rfl) ((numeral?_eq_some_iff binaryValue?_eq_some_iff).mp h)
          · exact .binary (.inr rfl) ((numeral?_eq_some_iff binaryValue?_eq_some_iff).mp h)
      · exact nomatch h
  · intro h
    cases h with
    | decimal h hlimit =>
      simp only [magnitude?, (numeral?_eq_some_iff digitValue?_eq_some_iff).mpr h, if_pos hlimit]
    | hex hx h =>
      have hletter : digitValue? (.char ‹Char›) = none := by rcases hx with rfl | rfl <;> decide
      rw [magnitude?_of_letter hletter, if_pos hx]
      exact (numeral?_eq_some_iff hexValue?_eq_some_iff).mpr h
    | binary hb h =>
      have hletter : digitValue? (.char ‹Char›) = none := by rcases hb with rfl | rfl <;> decide
      rw [magnitude?_of_letter hletter, if_neg (by rcases hb with rfl | rfl <;> decide), if_pos hb]
      exact (numeral?_eq_some_iff binaryValue?_eq_some_iff).mpr h

/-- A sign, if there is one, and what follows it. -/
theorem exists_splitSign_eq (t : Text) :
    ∃ sign ∈ signs, t = sign.1 ++ (splitSign t).2 ∧ (splitSign t).1 = sign.2 := by
  unfold splitSign
  split
  · exact ⟨("+", 1), by decide, rfl, rfl⟩
  · exact ⟨("-", -1), by decide, rfl, rfl⟩
  · exact ⟨("", 1), by decide, rfl, rfl⟩

theorem splitSign_of_no_sign {p : CodePoint} (hplus : p ≠ .char '+') (hminus : p ≠ .char '-')
    (rest : Text) : splitSign (p :: rest) = (1, p :: rest) := by
  unfold splitSign
  split
  · rename_i h
    exact absurd (List.cons.inj h).1 hplus
  · rename_i h
    exact absurd (List.cons.inj h).1 hminus
  · rfl

/-- A number without a sign starts with a decimal digit. -/
theorem IsMagnitude.exists_cons {t : Text} {n : Nat} (h : IsMagnitude t n) :
    ∃ p rest, t = p :: rest ∧ isDigit p = true := by
  cases h with
  | decimal h =>
    obtain ⟨p, rest, rfl⟩ := List.exists_cons_of_ne_nil h.choose_spec.1
    exact ⟨p, rest, rfl, h.forall_mem IsDecimalDigit.isDigit p (List.mem_cons_self ..)⟩
  | hex | binary => exact ⟨_, _, rfl, by decide⟩

theorem splitSign_append {sign : Text × Int} (hsign : sign ∈ signs) {digits : Text} {m : Nat}
    (h : IsMagnitude digits m) : splitSign (sign.1 ++ digits) = (sign.2, digits) := by
  simp only [signs, List.mem_cons, List.not_mem_nil, or_false] at hsign
  rcases hsign with rfl | rfl | rfl
  · obtain ⟨p, rest, rfl, hp⟩ := h.exists_cons
    apply splitSign_of_no_sign
    · rintro rfl
      exact absurd hp (by decide)
    · rintro rfl
      exact absurd hp (by decide)
  · rfl
  · rfl

/-- The literals are read, with blanks around them, and no other texts are. -/
theorem parse?_eq_some_iff {token : Text} {n : Int} :
    parse? token = some n ↔ IsLiteral (trim token) n := by
  have hparse : parse? token = some n ↔ ∃ m, magnitude? (splitSign (trim token)).2 = some m ∧
      (splitSign (trim token)).1 * m = n := by
    simp [parse?, Option.bind_eq_some_iff]
  simp only [hparse, magnitude?_eq_some_iff]
  constructor
  · rintro ⟨m, hm, rfl⟩
    obtain ⟨sign, hsign, htext, hfactor⟩ := exists_splitSign_eq (trim token)
    exact ⟨sign, hsign, _, m, htext, hm, by rw [hfactor]⟩
  · rintro ⟨sign, hsign, digits, m, htext, hm, rfl⟩
    rw [htext, splitSign_append hsign hm]
    exact ⟨m, hm, rfl⟩

/-! ### What literals are made of -/

/-- Whether a code point is one that a literal may start with: a sign or a decimal digit. -/
def startsNumber (p : CodePoint) : Bool :=
  p = .char '+' || p = .char '-' || isDigit p

theorem IsLiteral.exists_cons {t : Text} {n : Int} (h : IsLiteral t n) :
    ∃ p rest, t = p :: rest ∧ startsNumber p = true := by
  obtain ⟨sign, hsign, digits, m, rfl, hm, -⟩ := h
  simp only [signs, List.mem_cons, List.not_mem_nil, or_false] at hsign
  rcases hsign with rfl | rfl | rfl
  · obtain ⟨p, rest, rfl, hp⟩ := hm.exists_cons
    exact ⟨p, rest, rfl, by rw [startsNumber, hp, Bool.or_true]⟩
  · exact ⟨_, digits, rfl, by decide⟩
  · exact ⟨_, digits, rfl, by decide⟩

/-- A text that starts with neither is no literal. -/
theorem parse?_eq_none {token : Text}
    (h : ∀ p, (trim token).head? = some p → startsNumber p = false) : parse? token = none := by
  rw [Option.eq_none_iff_forall_ne_some]
  intro n hn
  obtain ⟨p, rest, htrim, hp⟩ := (parse?_eq_some_iff.mp hn).exists_cons
  rw [h p (by rw [htrim]; rfl)] at hp
  exact Bool.false_ne_true hp

theorem isBlank_of_isHexDigit {p : CodePoint} {d : Nat} (h : IsHexDigit p d) :
    isBlank p = false := by
  have hall : ∀ d < 16, isBlank (.char (Nat.digitChar d)) = false ∧
      isBlank (.char (Nat.digitChar d).toUpper) = false := by decide
  obtain ⟨hd, rfl | rfl⟩ := h
  · exact (hall d hd).1
  · exact (hall d hd).2

theorem isBlank_of_isBinaryDigit {p : CodePoint} {d : Nat} (h : IsBinaryDigit p d) :
    isBlank p = false :=
  isBlank_of_isHexDigit ⟨h.1.trans (by decide), .inl h.2⟩

theorem IsMagnitude.isBlank_eq_false {t : Text} {n : Nat} (h : IsMagnitude t n) :
    ∀ p ∈ t, isBlank p = false := by
  cases h with
  | decimal h => exact h.forall_mem fun hd => isBlank_of_isDigit hd.isDigit
  | hex hx h =>
    rw [List.forall_mem_cons, List.forall_mem_cons]
    refine ⟨by decide, ?_, h.forall_mem isBlank_of_isHexDigit⟩
    rcases hx with rfl | rfl <;> decide
  | binary hb h =>
    rw [List.forall_mem_cons, List.forall_mem_cons]
    refine ⟨by decide, by rcases hb with rfl | rfl <;> decide, ?_⟩
    intro p hp
    by_cases hunderscore : p = .char '_'
    · rw [hunderscore]
      decide
    · exact h.forall_mem isBlank_of_isBinaryDigit p
        (List.mem_filter.mpr ⟨hp, decide_eq_true hunderscore⟩)

theorem IsLiteral.isBlank_eq_false {t : Text} {n : Int} (h : IsLiteral t n) :
    ∀ p ∈ t, isBlank p = false := by
  obtain ⟨sign, hsign, digits, m, rfl, hm, -⟩ := h
  have hsigns : ∀ sign ∈ signs, ∀ p ∈ sign.1, isBlank p = false := by decide
  intro p hp
  rcases List.mem_append.mp hp with hp | hp
  · exact hsigns sign hsign p hp
  · exact hm.isBlank_eq_false p hp

/-- A literal is read without anything around it. -/
theorem IsLiteral.parse?_eq {t : Text} {n : Int} (h : IsLiteral t n) : parse? t = some n := by
  rw [parse?_eq_some_iff, trim_eq_self h.isBlank_eq_false]
  exact h

/-! ### Numbers that are written -/

/-- A number in decimal is its digits after a sign that fits it. -/
theorem exists_decimal_eq (n : Int) : ∃ sign ∈ signs, sign.2 * n.natAbs = n ∧
    ofString (decimal n) = sign.1 ++ ofChars (Nat.toDigits 10 n.natAbs) := by
  cases n with
  | ofNat m => exact ⟨("", 1), by decide, Int.one_mul _, by simp [decimal, ofString, ofChars]⟩
  | negSucc m =>
    refine ⟨("-", -1), by decide, ?_, by simp [decimal, ofString, ofChars]⟩
    rw [Int.natAbs_negSucc, Int.negSucc_eq]
    omega

theorem isNumeral_decimal (n : Nat) :
    IsNumeral 10 IsDecimalDigit (ofChars (Nat.toDigits 10 n)) n := by
  have hall : ∀ d < 10, digitValue? (.char (Nat.digitChar d)) = some d := by decide
  exact isNumeral_toDigits (by decide) (fun d hd => digitValue?_eq_some_iff.mp (hall d hd)) n

/-- The digits of a number in hexadecimal may be written in either case. -/
theorem isNumeral_hex {n : Nat} {digits : List Char}
    (h : digits ∈ [Nat.toDigits 16 n, digitsUpper 16 n]) :
    IsNumeral 16 IsHexDigit (ofChars digits) n := by
  simp only [List.mem_cons, List.not_mem_nil, or_false] at h
  rcases h with rfl | rfl
  · exact isNumeral_toDigits (by decide) (fun d hd => ⟨hd, .inl rfl⟩) n
  · exact isNumeral_map_toDigits (by decide) (fun d hd => ⟨hd, .inr rfl⟩) n

theorem isNumeral_binary (n : Nat) :
    IsNumeral 2 IsBinaryDigit (ofChars (Nat.toDigits 2 n)) n :=
  isNumeral_toDigits (by decide) (fun _ hd => ⟨hd, rfl⟩) n

/-- **The grammar of literals.**  A token is read as a number if it is a literal of that number, blanks
around it apart, and only then.  So a number is read back from its decimal text, unless it has too many
digits, and from its hexadecimal and binary digits after a sign that fits it, with underscores anywhere
among the binary ones. -/
theorem parse?_reads_literals (token : Text) (n : Int) :
    (parse? token = some n ↔ IsLiteral (trim token) n) ∧
    ((Nat.toDigits 10 n.natAbs).length ≤ digitLimit → parse? (decimal n) = some n) ∧
    ∀ sign ∈ signs, sign.2 * n.natAbs = n →
      (∀ x ∈ ['x', 'X'], ∀ digits ∈ [Nat.toDigits 16 n.natAbs, digitsUpper 16 n.natAbs],
        parse? (sign.1 ++ .char '0' :: .char x :: ofChars digits) = some n) ∧
      ∀ b ∈ ['b', 'B'], ∀ digits : Text,
        digits.filter (· ≠ .char '_') = ofChars (Nat.toDigits 2 n.natAbs) →
        parse? (sign.1 ++ .char '0' :: .char b :: digits) = some n := by
  refine ⟨parse?_eq_some_iff, ?_, ?_⟩
  · intro hlimit
    obtain ⟨sign, hsign, hn, htext⟩ := exists_decimal_eq n
    have hdigits : IsMagnitude (ofChars (Nat.toDigits 10 n.natAbs)) n.natAbs :=
      .decimal (isNumeral_decimal _) (by simpa [ofChars] using hlimit)
    exact IsLiteral.parse?_eq ⟨sign, hsign, _, _, htext, hdigits, hn.symm⟩
  · intro sign hsign hn
    refine ⟨?_, ?_⟩
    · intro x hx digits hdigits
      have hhex : IsMagnitude (.char '0' :: .char x :: ofChars digits) n.natAbs :=
        .hex (by simpa using hx) (isNumeral_hex hdigits)
      exact IsLiteral.parse?_eq ⟨sign, hsign, _, _, rfl, hhex, hn.symm⟩
    · intro b hb digits hdigits
      have hbinary : IsMagnitude (.char '0' :: .char b :: digits) n.natAbs :=
        .binary (by simpa using hb) (hdigits ▸ isNumeral_binary _)
      exact IsLiteral.parse?_eq ⟨sign, hsign, _, _, rfl, hbinary, hn.symm⟩

/-- A number below zero in all three bases, with blanks around it and underscores at both ends. -/
theorem parse?_reads_literals_below_zero :
    let token : Text := " -0b_101_011_\t"
    parse? token = some (-43) ∧ IsLiteral "-0b_101_011_" (-43) ∧ parse? "-43" = some (-43) ∧
      parse? "-0X2b" = some (-43) ∧ parse? "-0x2B" = some (-43) ∧
      parse? "-0B_101_011_" = some (-43) := by
  intro token
  obtain ⟨hliteral, hdecimal, hwritten⟩ := parse?_reads_literals token (-43)
  obtain ⟨hhex, hbinary⟩ := hwritten ("-", -1) (by decide) (by decide)
  have hparse : parse? token = some (-43) := by decide +kernel
  have htrim : trim token = ofString "-0b_101_011_" := by decide
  exact ⟨hparse, htrim ▸ hliteral.mp hparse, hdecimal (by decide), hhex 'X' (by decide) _ (by decide),
    hhex 'x' (by decide) _ (by decide), hbinary 'B' (by decide) "_101_011_" (by decide)⟩

end GridAsm.Literal
