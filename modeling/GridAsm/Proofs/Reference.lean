import GridAsm.Proofs.Capitals
import GridAsm.Proofs.Label
import GridAsm.Proofs.Literal
import GridAsm.Proofs.Operand
import GridAsm.Proofs.SourceLine

/-!
# References to labels

A label is known by its capitals, and so is a token that refers to it.  No token that has a label's
capitals is a number: a number starts with a sign or a digit, these have no other capitals than
themselves (`upperPoint_of_startsNumber`), and a label has a letter or an underscore in their place
(`IsLabel.exists_upper_eq_cons`).  So the token is looked up, and it finds the first definition.
-/

namespace GridAsm

open Text

/-! ### Signs and digits -/

namespace Text

/-- The codes of decimal digits. -/
def digitCodes : List (List Nat) :=
  digitZeros.map fun z => List.range' z 10

/-- No decimal digit changes when it is put in capitals. -/
theorem digitCodes_disjoint : groupBits digitCodes &&& groupBits changingCodes = 0 := by
  decide +kernel

theorem upperPoint_of_isDigit {p : CodePoint} (h : isDigit p = true) : upperPoint p = [p] := by
  cases p with
  | lone offset => rfl
  | char c =>
    obtain ⟨d, hd⟩ := Option.isSome_iff_exists.mp h
    obtain ⟨hlt, z, hz, hcode⟩ := digitValue?_eq_some_iff.mp hd
    have hmem : c.toNat ∈ List.range' z 10 := by
      have hcode' : c.toNat = z + d := hcode
      rw [List.mem_range'_1]
      omega
    have hupper : upperChar c = [c] := upperChar_eq_self fun codes hcodes =>
      not_mem_of_groupBits digitCodes_disjoint (List.mem_map_of_mem hz) hcodes hmem
    exact congrArg ofChars hupper

theorem upperPoint_of_startsNumber {p : CodePoint} (h : Literal.startsNumber p = true) :
    upperPoint p = [p] := by
  simp only [Literal.startsNumber, Bool.or_eq_true, decide_eq_true_eq] at h
  rcases h with (rfl | rfl) | h
  · decide
  · decide
  · exact upperPoint_of_isDigit h

end Text

/-! ### Labels -/

namespace SourceLine

theorem toNat_lt_of_startsLabel {c : Char} (h : startsLabel (.char c) = true) :
    c.toNat < 0x80 := by
  have hcases : (decide (65 ≤ c.val ∧ c.val ≤ 90) ||
      (decide (97 ≤ c.val) && decide (c.val ≤ 122)) || c == '_') = true := h
  simp only [Bool.or_eq_true, Bool.and_eq_true, decide_eq_true_eq, beq_iff_eq,
    UInt32.le_iff_toNat_le] at hcases
  rcases hcases with (⟨-, hz⟩ | ⟨-, hz⟩) | rfl
  · exact Nat.lt_of_le_of_lt hz (by decide)
  · exact Nat.lt_of_le_of_lt hz (by decide)
  · decide

/-- Where a number has its sign or its first digit, a label has a letter or an underscore, in capitals
too. -/
theorem IsLabel.exists_upper_eq_cons {label : Text} (h : IsLabel label) :
    ∃ p rest, upper label = p :: rest ∧ Literal.startsNumber p = false := by
  have hall : ∀ n < 0x80, startsLabel (.char (Char.ofNat n)) = true →
      Literal.startsNumber (.char (Char.ofNat n).toUpper) = false := by decide
  obtain ⟨p, word, rfl, hp, -⟩ := h
  cases p with
  | lone offset => exact nomatch hp
  | char c =>
    have hascii := toNat_lt_of_startsLabel hp
    have hupper : upper (.char c :: word) = .char c.toUpper :: upper word := by
      simp [upper, upperPoint, upperChar, hascii, ofChars]
    have hnumber := hall c.toNat hascii
    rw [Char.ofNat_toNat] at hnumber
    exact ⟨_, _, hupper, hnumber hp⟩

end SourceLine

/-! ### Tokens -/

namespace Token

/-- A token with the capitals of a label is no number. -/
theorem parse?_of_upper_eq {token name label : Text} {k : Nat}
    (htoken : trim token = name ++ List.replicate k (.char ':'))
    (hlabel : SourceLine.IsLabel label) (hupper : upper name = upper label) :
    Literal.parse? token = none := by
  apply Literal.parse?_eq_none
  obtain ⟨q, rest, hlabel, hq⟩ := hlabel.exists_upper_eq_cons
  rw [hlabel] at hupper
  intro p hp
  rw [htoken] at hp
  cases name with
  | nil => exact nomatch hupper
  | cons first tail =>
    obtain rfl : first = p := Option.some.inj hp
    by_contra hnumber
    -- A sign or a digit is its own capital, so the label would have it in capitals too.
    have hsame : upperPoint first = [first] := upperPoint_of_startsNumber (by simpa using hnumber)
    have hcons : upper (first :: tail) = first :: upper tail := by
      rw [upper, List.flatMap_cons, hsame]
      rfl
    rw [hcons] at hupper
    rw [(List.cons.inj hupper).1] at hnumber
    exact hnumber hq

/-- The colons after a name do not belong to it. -/
theorem labelKey_append_colons {name : Text} (h : name.getLast? ≠ some (.char ':')) (k : Nat) :
    labelKey (name ++ List.replicate k (.char ':')) = upper name := by
  have hrun : ∀ p ∈ List.replicate k (CodePoint.char ':'), decide (p = .char ':') = true := by
    intro p hp
    exact decide_eq_true (List.eq_of_mem_replicate hp)
  have hstop : ∀ p, name.reverse.head? = some p → decide (p = .char ':') = false := by
    intro p hp
    rw [List.head?_reverse] at hp
    rw [decide_eq_false_iff_not]
    rintro rfl
    exact h hp
  rw [labelKey, List.reverse_append, List.reverse_replicate,
    (takeWhile_append_of_boundary hrun hstop).2, List.reverse_reverse]

/-- **References reach their labels.**  A token that has the capitals of a label, colons at its end
and blanks around it apart, is no number, and it stands for the address of the label's first
definition: the number of lines with code before it. -/
theorem reference_reaches_label {lines : List Text} {line label : Text} (hline : line ∈ lines)
    (hlabel : (SourceLine.parse line).label = some label) {token name : Text} {k : Nat}
    (htoken : trim token = name ++ List.replicate k (.char ':'))
    (hend : name.getLast? ≠ some (.char ':')) (hupper : upper name = upper label) :
    let before := lines.takeWhile fun text =>
      (SourceLine.parse text).label.map upper ≠ some (upper label)
    Literal.parse? token = none ∧
      value (LabelTable.ofLines lines).value token =
        .ok (before.countP fun text => (SourceLine.parse text).code ≠ [] : Nat) := by
  intro before
  have hnone : Literal.parse? token = none :=
    parse?_of_upper_eq htoken (SourceLine.isLabel_of_parse hlabel) hupper
  have hkey : labelKey (trim token) = upper label := by
    rw [htoken, labelKey_append_colons hend, hupper]
  have hname : (SourceLine.parse line).labelName = some (upper label) := by
    rw [SourceLine.labelName, hlabel]
    rfl
  have haddress : (LabelTable.ofLines lines).value.find? (upper label) =
      some (slots before : Int) :=
    LabelTable.find?_ofLines_of_mem hline hname
  refine ⟨hnone, ?_⟩
  rw [value_eq_ok_iff]
  exact .inr ⟨hnone, by rw [hkey, haddress]; rfl⟩

/-- A label with a sharp s that is defined again after its first definition, and a reference to it
in other letters. -/
theorem reference_reaches_label_in_capitals :
    let lines : List Text := ["start: NOP", "; none", "Stra\u00DFe_1: NOP", "strasse_1 :"]
    let token : Text := " STRA\u017Fse_1:: "
    (SourceLine.parse "strasse_1 :").label = some "strasse_1" ∧
      upper "STRA\u017Fse_1" = upper "strasse_1" ∧ Literal.parse? token = none ∧
      value (LabelTable.ofLines lines).value token = .ok 1 := by
  intro lines token
  have hlabel : (SourceLine.parse "strasse_1 :").label = some (ofString "strasse_1") := by
    decide +kernel
  have hupper : upper "STRA\u017Fse_1" = upper "strasse_1" := by decide +kernel
  have htoken : trim token = ofString "STRA\u017Fse_1" ++ List.replicate 2 (.char ':') := by
    decide +kernel
  exact ⟨hlabel, hupper, reference_reaches_label (by simp [lines]) hlabel htoken (by decide) hupper⟩

end Token

end GridAsm
