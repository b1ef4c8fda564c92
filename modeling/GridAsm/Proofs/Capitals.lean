import GridAsm.Proofs.Text
import GridAsm.Text.Upper

/-!
# Capitals stay capitals

A name in capitals does not change when it is put in capitals again (`upper_upper`), although one
character may have become several.  A capital is a blank only if its letter was one, so that a word in
capitals is still a word (`isBlank_of_mem_upper`).

Both come from the tables: no code that a letter becomes is one that changes, or one of a blank.  There
are over a thousand of either kind, so they are not compared one by one; the codes are made the bits of
two numbers, and these have no bit in common (`capitalCodes_disjoint`).
-/

namespace GridAsm.Text

/-! ### Codes as bits -/

/-- Codes as the bits of a number. -/
def codeBits (codes : List Nat) : Nat :=
  codes.foldr (fun n bits => 1 <<< n ||| bits) 0

/-- Groups of codes as the bits of a number. -/
def groupBits (groups : List (List Nat)) : Nat :=
  groups.foldr (fun codes bits => codeBits codes ||| bits) 0

theorem testBit_codeBits (codes : List Nat) (n : Nat) :
    (codeBits codes).testBit n = decide (n ∈ codes) := by
  induction codes with
  | nil => simp [codeBits]
  | cons m rest ih =>
    have hcons : codeBits (m :: rest) = 1 <<< m ||| codeBits rest := rfl
    rw [hcons, Nat.testBit_or, ih, Nat.one_shiftLeft, Nat.testBit_two_pow]
    by_cases hm : m = n
    · simp [hm]
    · simp [hm, Ne.symm hm]

theorem testBit_groupBits (groups : List (List Nat)) (n : Nat) :
    (groupBits groups).testBit n = decide (∃ codes ∈ groups, n ∈ codes) := by
  induction groups with
  | nil => simp [groupBits]
  | cons codes rest ih =>
    have hcons : groupBits (codes :: rest) = codeBits codes ||| groupBits rest := rfl
    rw [hcons, Nat.testBit_or, ih, testBit_codeBits]
    by_cases hcodes : n ∈ codes
    · simp [hcodes]
    · simp [hcodes]

/-- Groups without a bit in common have no code in common. -/
theorem not_mem_of_groupBits {groups groups' : List (List Nat)}
    (h : groupBits groups &&& groupBits groups' = 0) {codes codes' : List Nat}
    (hcodes : codes ∈ groups) (hcodes' : codes' ∈ groups') {n : Nat} (hn : n ∈ codes) :
    n ∉ codes' := by
  intro hn'
  have hbit : (groupBits groups &&& groupBits groups').testBit n = true := by
    rw [Nat.testBit_and, testBit_groupBits, testBit_groupBits, decide_eq_true ⟨codes, hcodes, hn⟩,
      decide_eq_true ⟨codes', hcodes', hn'⟩]
    rfl
  rw [h, Nat.zero_testBit] at hbit
  exact Bool.false_ne_true hbit

/-! ### The tables -/

/-- The codes of a run. -/
def CaseRun.codes (r : CaseRun) : List Nat :=
  (List.range ((r.last - r.first) / r.step + 1)).map fun k => r.first + k * r.step

/-- The codes that the codes of a run become. -/
def CaseRun.targets (r : CaseRun) : List Nat :=
  r.codes.map fun n : Nat => ((n : Int) + r.move).toNat

/-- A code that a table moves is one of a run, and becomes its target. -/
theorem CaseRun.exists_of_shift? {n m : Nat} {runs : List CaseRun} (h : shift? n runs = some m) :
    ∃ r ∈ runs, n ∈ r.codes ∧ m ∈ r.targets := by
  induction runs with
  | nil => exact nomatch h
  | cons r rest ih =>
    rw [shift?] at h
    split_ifs at h with hlow hin
    · simp only [Bool.and_eq_true, decide_eq_true_eq, beq_iff_eq] at hin
      obtain ⟨hhigh, hstep⟩ := hin
      have hdvd : r.first + (n - r.first) / r.step * r.step = n := by
        rw [Nat.div_mul_cancel (Nat.dvd_of_mod_eq_zero hstep)]
        omega
      have hcode : n ∈ r.codes := by
        refine List.mem_map.mpr ⟨(n - r.first) / r.step, ?_, hdvd⟩
        rw [List.mem_range, Nat.lt_succ_iff]
        exact Nat.div_le_div_right (by omega)
      obtain rfl := Option.some.inj h
      exact ⟨r, List.mem_cons_self, hcode, List.mem_map.mpr ⟨n, hcode, rfl⟩⟩
    · obtain ⟨q, hq, hcode⟩ := ih h
      exact ⟨q, List.mem_cons_of_mem _ hq, hcode⟩

/-- The codes that change when they are put in capitals: small letters and those of the tables. -/
def changingCodes : List (List Nat) :=
  List.range' 97 26 :: (upperExpansions.map fun e => [e.1]) ++ upperRuns.map CaseRun.codes

/-- The codes of blanks. -/
def blankCodes : List (List Nat) :=
  blankRanges.map fun r => List.range' r.1 (r.2 + 1 - r.1)

/-- The codes of capitals that the tables give. -/
def capitalCodes : List (List Nat) :=
  upperExpansions.map Prod.snd ++ upperRuns.map CaseRun.targets

/-- No capital of the tables changes again or is a blank. -/
theorem capitalCodes_disjoint :
    groupBits capitalCodes &&& groupBits (changingCodes ++ blankCodes) = 0 := by
  decide +kernel

/-! ### Characters -/

theorem isBlank_eq_false {p : CodePoint} (h : ∀ codes ∈ blankCodes, p.code ∉ codes) :
    isBlank p = false := by
  cases hblank : isBlank p with
  | false => rfl
  | true =>
    obtain ⟨r, hr, hlow, hhigh⟩ := exists_range_of_inRanges hblank
    refine absurd ?_ (h _ (List.mem_map_of_mem hr))
    rw [List.mem_range'_1]
    omega

/-- A character stays as it is if its code does not change. -/
theorem upperChar_eq_self {c : Char} (h : ∀ codes ∈ changingCodes, c.toNat ∉ codes) :
    upperChar c = [c] := by
  have hsmall : c.toNat ∉ List.range' 97 26 := h _ List.mem_cons_self
  have hexpansion : upperExpansions.lookup c.toNat = none := by
    rw [List.lookup_eq_none_iff]
    intro e he
    have hne : c.toNat ∉ [e.1] := h _ (List.mem_cons_of_mem _
      (List.mem_append_left _ (List.mem_map.mpr ⟨e, he, rfl⟩)))
    simpa using hne
  have hrun : CaseRun.shift? c.toNat upperRuns = none := by
    rw [Option.eq_none_iff_forall_ne_some]
    intro m hm
    obtain ⟨r, hr, hcode, -⟩ := CaseRun.exists_of_shift? hm
    exact h _ (List.mem_cons_of_mem _ (List.mem_append_right _ (List.mem_map_of_mem hr))) hcode
  have hupper : c.toUpper = c := by
    refine dif_neg ?_
    rintro ⟨hlow, hhigh⟩
    have hlow' : 97 ≤ c.toNat := hlow
    have hhigh' : c.toNat ≤ 122 := hhigh
    rw [List.mem_range'_1] at hsmall
    omega
  rw [upperChar, hexpansion, hrun, hupper]
  exact ite_self _

/-- The characters that no longer change and are not blank. -/
def IsCapital (c : Char) : Prop :=
  upperChar c = [c] ∧ isBlank (.char c) = false

/-- A code that the tables give is that of a capital, or of no character. -/
theorem isCapital_ofNat {codes : List Nat} (hcodes : codes ∈ capitalCodes) {n : Nat}
    (hn : n ∈ codes) : IsCapital (Char.ofNat n) := by
  by_cases hvalid : n.isValidChar
  · have hcode : (Char.ofNat n).toNat = n := by
      rw [Char.ofNat, dif_pos hvalid]
      rfl
    have hfree : ∀ codes' ∈ changingCodes ++ blankCodes, (Char.ofNat n).toNat ∉ codes' := by
      intro codes' hcodes'
      rw [hcode]
      exact not_mem_of_groupBits capitalCodes_disjoint hcodes hcodes' hn
    exact ⟨upperChar_eq_self fun codes' h => hfree codes' (List.mem_append_left _ h),
      isBlank_eq_false fun codes' h => hfree codes' (List.mem_append_right _ h)⟩
  · rw [Char.ofNat, dif_neg hvalid]
    exact ⟨rfl, by decide⟩

/-- The capitals of an ASCII character, in both of its forms. -/
theorem upperChar_toUpper {c : Char} (h : c.toNat < 0x80) :
    upperChar c.toUpper = [c.toUpper] ∧ isBlank (.char c.toUpper) = isBlank (.char c) := by
  have hall : ∀ n < 0x80, upperChar (Char.ofNat n).toUpper = [(Char.ofNat n).toUpper] ∧
      isBlank (.char (Char.ofNat n).toUpper) = isBlank (.char (Char.ofNat n)) := by
    decide +kernel
  simpa using hall c.toNat h

/-- What a character becomes does not change again, and is blank only if it was. -/
theorem upperChar_of_mem {c d : Char} (h : d ∈ upperChar c) :
    upperChar d = [d] ∧ (isBlank (.char c) = false → isBlank (.char d) = false) := by
  rw [upperChar] at h
  split_ifs at h with hascii
  · obtain rfl := List.mem_singleton.mp h
    have hupper := upperChar_toUpper hascii
    exact ⟨hupper.1, fun hblank => hupper.2.trans hblank⟩
  · split at h
    · next ns hlookup =>
      obtain ⟨n, hn, rfl⟩ := List.mem_map.mp h
      obtain ⟨before, rest, htable, -⟩ := List.lookup_eq_some_iff.mp hlookup
      have hmem : (c.toNat, ns) ∈ upperExpansions :=
        htable ▸ List.mem_append_right _ List.mem_cons_self
      have hcapital := isCapital_ofNat (List.mem_append_left _
        (List.mem_map.mpr ⟨_, hmem, rfl⟩)) hn
      exact ⟨hcapital.1, fun _ => hcapital.2⟩
    · next hlookup =>
      split at h
      · next n hshift =>
        obtain rfl := List.mem_singleton.mp h
        obtain ⟨r, hr, -, hn⟩ := CaseRun.exists_of_shift? hshift
        have hcapital := isCapital_ofNat (List.mem_append_right _ (List.mem_map_of_mem hr)) hn
        exact ⟨hcapital.1, fun _ => hcapital.2⟩
      · next hshift =>
        obtain rfl := List.mem_singleton.mp h
        refine ⟨?_, id⟩
        rw [upperChar, if_neg hascii, hlookup, hshift]

/-! ### Texts -/

/-- What a code point becomes does not change again, and is blank only if it was. -/
theorem upperPoint_of_mem {p q : CodePoint} (h : q ∈ upperPoint p) :
    upperPoint q = [q] ∧ (isBlank p = false → isBlank q = false) := by
  cases p with
  | char c =>
    obtain ⟨d, hd, rfl⟩ := List.mem_map.mp h
    obtain ⟨hupper, hblank⟩ := upperChar_of_mem hd
    exact ⟨congrArg ofChars hupper, hblank⟩
  | lone offset =>
    obtain rfl := List.mem_singleton.mp h
    exact ⟨rfl, id⟩

/-- A text of code points that do not change does not change. -/
theorem upper_eq_self {t : Text} (h : ∀ p ∈ t, upperPoint p = [p]) : upper t = t :=
  calc
    t.flatMap upperPoint = t.flatMap fun p => [p] := List.flatMap_congr h
    _ = t := by simp

/-- A text in capitals stays as it is. -/
theorem upper_upper (t : Text) : upper (upper t) = upper t := by
  apply upper_eq_self
  intro q hq
  obtain ⟨p, -, hqp⟩ := List.mem_flatMap.mp hq
  exact (upperPoint_of_mem hqp).1

/-- A text without blanks has none in capitals. -/
theorem isBlank_of_mem_upper {t : Text} (ht : ∀ p ∈ t, isBlank p = false) {q : CodePoint}
    (hq : q ∈ upper t) : isBlank q = false := by
  obtain ⟨p, hp, hqp⟩ := List.mem_flatMap.mp hq
  exact (upperPoint_of_mem hqp).2 (ht p hp)

end GridAsm.Text
