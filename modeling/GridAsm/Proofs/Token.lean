import GridAsm.Proofs.Operand

/-!
# What tokens stand for

The grammar of registers, of registers in brackets, of values and of displacements, said without
their readers.  A reader gives the number that the grammar gives (`register_eq_ok_iff` and its like)
and refuses every other token with one fault, which is the subject of the `_eq_error_iff` lemmas.

A token in brackets is refused for what is inside them, with one exception: a line feed between
other characters hides the brackets, and the token is refused as one that has none
(`indirect_eq_error_iff`).
-/

namespace GridAsm.Token

open Text

/-! ### Registers -/

/-- A token is the register `n`: an `r` of either case and the number in one or two digits. -/
inductive IsRegister (token : Text) : Nat → Prop
  | one {r a : CodePoint} {x : Nat} (hr : r = 'r' ∨ r = 'R') (ha : digitValue? a = some x)
      (h : trim token = [r, a]) : IsRegister token x
  | two {r a b : CodePoint} {x y : Nat} (hr : r = 'r' ∨ r = 'R') (ha : digitValue? a = some x)
      (hb : digitValue? b = some y) (hle : 10 * x + y ≤ 15) (h : trim token = [r, a, b]) :
      IsRegister token (10 * x + y)

theorem numeral?_one (a : CodePoint) : numeral? 10 digitValue? [a] = digitValue? a := by
  cases h : digitValue? a <;> simp [numeral?, positional, h]

theorem numeral?_two_eq_some_iff {a b : CodePoint} {n : Nat} :
    numeral? 10 digitValue? [a, b] = some n ↔
      ∃ x y, digitValue? a = some x ∧ digitValue? b = some y ∧ 10 * x + y = n := by
  cases ha : digitValue? a with
  | none => simp [numeral?, ha]
  | some x => cases hb : digitValue? b <;> simp [numeral?, positional, ha, hb, Nat.mul_comm x]

theorem registerNumber?_trim_eq_some_iff {token : Text} {n : Nat} :
    registerNumber? (trim token) = some n ↔ IsRegister token n := by
  constructor
  · intro h
    cases hname : trim token with
    | nil => rw [hname] at h; exact nomatch h
    | cons r digits =>
      rw [hname, registerNumber?] at h
      split_ifs at h with hc
      obtain ⟨hr, hlength⟩ := hc
      obtain ⟨hnumeral, hle⟩ := Option.filter_eq_some_iff.mp h
      -- There is a digit at least, since the empty text is no numeral.
      match digits with
      | [] => exact nomatch hnumeral
      | [a] => exact .one hr ((numeral?_one a).symm.trans hnumeral) hname
      | [a, b] =>
        obtain ⟨x, y, ha, hb, rfl⟩ := numeral?_two_eq_some_iff.mp hnumeral
        exact .two hr ha hb (of_decide_eq_true hle) hname
      | a :: b :: c :: rest => simp at hlength
  · intro h
    cases h with
    | one hr ha hname =>
      have hlt : n < 10 := digitAfterZero?_lt ha
      rw [hname, registerNumber?, if_pos ⟨hr, by simp⟩, numeral?_one, ha, Option.filter_some]
      exact if_pos (decide_eq_true (show n ≤ 15 by omega))
    | two hr ha hb hle hname =>
      rw [hname, registerNumber?, if_pos ⟨hr, by simp⟩,
        numeral?_two_eq_some_iff.mpr ⟨_, _, ha, hb, rfl⟩, Option.filter_some]
      exact if_pos (decide_eq_true hle)

theorem register_eq_ok_iff {token : Text} {n : Nat} :
    register token = .ok n ↔ IsRegister token n := by
  rw [← registerNumber?_trim_eq_some_iff, register]
  cases registerNumber? (trim token) <;> simp

/-- What is no register is refused as such, under its name without blanks. -/
theorem register_eq_error_iff {token : Text} {fault : LineFault} :
    register token = .error fault ↔
      (∀ n, ¬ IsRegister token n) ∧ fault = .invalidRegister (trim token) := by
  simp only [← registerNumber?_trim_eq_some_iff, register]
  cases registerNumber? (trim token) <;> simp [eq_comm]

theorem isRegister_trim {token : Text} {n : Nat} :
    IsRegister (trim token) n ↔ IsRegister token n := by
  rw [← registerNumber?_trim_eq_some_iff, ← registerNumber?_trim_eq_some_iff, trim_trim]

/-- A register has no line feed in it. -/
theorem IsRegister.not_mem_trim {token : Text} {n : Nat} (h : IsRegister token n) :
    CodePoint.char '\n' ∉ trim token := by
  have hletter : ∀ {r : CodePoint}, (r = 'r' ∨ r = 'R') → CodePoint.char '\n' ≠ r := by
    rintro r (rfl | rfl) <;> decide
  have hdigit : ∀ {a : CodePoint} {x : Nat}, digitValue? a = some x → CodePoint.char '\n' ≠ a := by
    rintro a x ha rfl
    have hnone : digitValue? (.char '\n') = none := by decide
    exact nomatch hnone.symm.trans ha
  cases h with
  | one hr ha hname =>
    rw [hname]
    simp [hletter hr, hdigit ha]
  | two hr ha hb _ hname =>
    rw [hname]
    simp [hletter hr, hdigit ha, hdigit hb]

/-! ### Registers in brackets -/

/-- A token is a text in brackets. -/
def Encloses (token inner : Text) : Prop :=
  trim token = .char '[' :: (inner ++ [.char ']'])

instance (token inner : Text) : Decidable (Encloses token inner) :=
  inferInstanceAs (Decidable (_ = _))

/-- A token is the register `n` in brackets. -/
def IsIndirect (token : Text) (n : Nat) : Prop :=
  ∃ inner, Encloses token inner ∧ IsRegister inner n

theorem Encloses.inner_eq {token inner inner' : Text} (h : Encloses token inner)
    (h' : Encloses token inner') : inner = inner' := by
  have happend : inner ++ [.char ']'] = inner' ++ [.char ']'] :=
    (List.cons.inj (h.symm.trans h')).2
  exact List.append_cancel_right happend

/-- The brackets are seen unless a line feed stands between other characters. -/
theorem insideBrackets?_of_encloses {token inner : Text} (h : Encloses token inner) :
    insideBrackets? (trim token) =
      if CodePoint.char '\n' ∈ trim inner then none else some (trim inner) := by
  rw [h, insideBrackets?]
  simp

theorem insideBrackets?_of_not_encloses {token : Text} (h : ∀ inner, ¬ Encloses token inner) :
    insideBrackets? (trim token) = none := by
  unfold insideBrackets?
  split
  · rename_i rest hrest
    split_ifs with hlast
    · -- The text between the brackets would be enclosed.
      obtain ⟨inner, rfl⟩ := List.getLast?_eq_some_iff.mp hlast
      exact absurd hrest (h inner)
    · rfl
  · rfl

theorem indirect_eq_ok_iff {mnemonic expected token : Text} {n : Nat} :
    indirect mnemonic expected token = .ok n ↔ IsIndirect token n := by
  rw [indirect]
  by_cases hbrackets : ∃ inner, Encloses token inner
  · obtain ⟨inner, hinner⟩ := hbrackets
    have hindirect : IsIndirect token n ↔ IsRegister inner n := by
      constructor
      · rintro ⟨inner', hinner', hregister⟩
        rwa [hinner.inner_eq hinner']
      · exact fun hregister => ⟨inner, hinner, hregister⟩
    rw [hindirect, insideBrackets?_of_encloses hinner]
    split_ifs with hmem
    · simp only [false_iff]
      exact fun hregister => hregister.not_mem_trim hmem
    · rw [← isRegister_trim]
      exact register_eq_ok_iff
  · rw [not_exists] at hbrackets
    rw [insideBrackets?_of_not_encloses hbrackets]
    simp only [reduceCtorEq, false_iff]
    rintro ⟨inner, hinner, -⟩
    exact hbrackets inner hinner

/-- A token without brackets is refused for its shape, and one with brackets for the register in
them; a line feed inside the brackets makes the token one without. -/
theorem indirect_eq_error_iff {mnemonic expected token : Text} {fault : LineFault} :
    indirect mnemonic expected token = .error fault ↔
      (∀ inner, Encloses token inner → CodePoint.char '\n' ∈ trim inner) ∧
          fault = .badOperands mnemonic (.notIndirect (trim token)) (some expected) ∨
        ∃ inner, Encloses token inner ∧ CodePoint.char '\n' ∉ trim inner ∧
          (∀ n, ¬ IsRegister inner n) ∧ fault = .invalidRegister (trim inner) := by
  rw [indirect]
  by_cases hbrackets : ∃ inner, Encloses token inner
  · obtain ⟨inner, hinner⟩ := hbrackets
    have hall : ∀ P : Text → Prop, (∀ inner', Encloses token inner' → P inner') ↔ P inner :=
      fun P => ⟨fun h => h inner hinner, fun h inner' h' => hinner.inner_eq h' ▸ h⟩
    have hex : ∀ P : Text → Prop, (∃ inner', Encloses token inner' ∧ P inner') ↔ P inner :=
      fun P => ⟨fun ⟨inner', h', h⟩ => hinner.inner_eq h' ▸ h, fun h => ⟨inner, hinner, h⟩⟩
    rw [insideBrackets?_of_encloses hinner, hall, hex]
    split_ifs with hmem
    · simp [hmem, eq_comm]
    · simp only [hmem, false_and, false_or, not_false_eq_true, true_and]
      rw [register_eq_error_iff, trim_trim]
      simp only [isRegister_trim]
  · rw [not_exists] at hbrackets
    rw [insideBrackets?_of_not_encloses hbrackets]
    simp [hbrackets, eq_comm]

/-! ### Values -/

/-- A token is a number, or a label with that address. -/
def IsValue (labels : LabelTable) (token : Text) (n : Int) : Prop :=
  Literal.parse? token = some n ∨
    Literal.parse? token = none ∧ labels.find? (labelKey (trim token)) = some n

/-- A token is a number, or a label at that distance from the instruction after `pc`. -/
def IsDisplacement (labels : LabelTable) (pc : Int) (token : Text) (o : Int) : Prop :=
  Literal.parse? token = some o ∨
    Literal.parse? token = none ∧
      ∃ a, labels.find? (labelKey (trim token)) = some a ∧ o = a - (pc + 1)

/-- The fault of a token that is neither a number nor a label. -/
def unresolved (labels : LabelTable) (token : Text) : LineFault :=
  .unresolvedSymbol (trim token) (closeMatches (labelKey (trim token)) labels.names)

theorem value_eq_error_iff {labels : LabelTable} {token : Text} {fault : LineFault} :
    value labels token = .error fault ↔
      (∀ n, ¬ IsValue labels token n) ∧ fault = unresolved labels token := by
  simp only [value, IsValue, Literal.parse?_trim, unresolved]
  cases Literal.parse? token with
  | some m => simp
  | none => cases labels.find? (labelKey (trim token)) <;> simp [eq_comm]

theorem displacement_eq_error_iff {labels : LabelTable} {pc : Int} {token : Text}
    {fault : LineFault} :
    displacement labels pc token = .error fault ↔
      (∀ n, ¬ IsValue labels token n) ∧ fault = unresolved labels token := by
  rw [← value_eq_error_iff, displacement]
  cases hliteral : Literal.parse? token with
  | some m =>
    have hvalue : value labels token = .ok m := value_eq_ok_iff.mpr (.inl hliteral)
    simp [hvalue]
  | none => cases value labels token <;> simp [Except.map]

end GridAsm.Token
