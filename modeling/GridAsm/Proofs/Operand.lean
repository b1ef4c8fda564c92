import GridAsm.Operand.Values
import GridAsm.Proofs.Notice
import GridAsm.Proofs.Text

/-!
# What operands are read as

A displacement is a number as it is written, or the distance of a label (`displacement_eq_ok_iff`).
A condition always has a code of three bits (`condition_lt`).  The operands of a line are read if
they are as many as the rule's shape has slots and each of them fits its slot (`parse_gives_iff`).
-/

namespace GridAsm

open Text

/-- Blanks around a literal do not matter. -/
theorem Literal.parse?_trim (token : Text) : parse? (trim token) = parse? token := by
  rw [parse?, parse?, trim_trim]

namespace Token

/-! ### Numbers and labels -/

/-- A number is read as it is written, and any other text as the label it names. -/
theorem value_eq_ok_iff {labels : LabelTable} {token : Text} {n : Int} :
    value labels token = .ok n ↔
      Literal.parse? token = some n ∨
        Literal.parse? token = none ∧ labels.find? (labelKey (trim token)) = some n := by
  simp only [value, Literal.parse?_trim]
  cases Literal.parse? token with
  | some m => simp
  | none => cases labels.find? (labelKey (trim token)) <;> simp

/-- A displacement is a number as it is written, or the distance of a label. -/
theorem displacement_eq_ok_iff {labels : LabelTable} {pc : Int} {token : Text} {o : Int} :
    displacement labels pc token = .ok o ↔
      Literal.parse? token = some o ∨
        Literal.parse? token = none ∧
          ∃ a, labels.find? (labelKey (trim token)) = some a ∧ o = a - (pc + 1) := by
  rw [displacement]
  cases hliteral : Literal.parse? token with
  | some m => simp
  | none =>
    have hvalue : ∀ a, value labels token = .ok a ↔
        labels.find? (labelKey (trim token)) = some a := by
      intro a
      rw [value_eq_ok_iff, hliteral]
      simp
    simp only [← hvalue, reduceCtorEq, false_or, true_and]
    cases value labels token with
    | ok a => simp [Except.map, eq_comm]
    | error e => simp [Except.map]

/-! ### Conditions -/

theorem conditionDigit?_lt {cs : Text} {code : Nat} (h : conditionDigit? cs = some code) :
    code < 8 := by
  unfold conditionDigit? at h
  split at h
  · rename_i c
    split_ifs at h with hc
    obtain rfl := Option.some.inj h
    have hle : c.toNat ≤ '7'.toNat := hc.2
    have h7 : '7'.toNat = 55 := rfl
    have h0 : '0'.toNat = 48 := rfl
    omega
  · exact nomatch h

theorem conditionNumber?_lt {cs : Text} {code : Nat} (h : conditionNumber? cs = some code) :
    code < 8 := by
  unfold conditionNumber? at h
  split at h
  · obtain ⟨n, -, rfl⟩ := Option.map_eq_some_iff.mp h
    exact Nat.mod_lt n (by decide)
  · obtain ⟨n, -, rfl⟩ := Option.map_eq_some_iff.mp h
    exact Nat.mod_lt n (by decide)
  · exact nomatch h

theorem conditionNames_lt {name : Text} {code : Nat}
    (h : conditionNames.lookup name = some code) : code < 8 := by
  have hall : ∀ entry ∈ conditionNames, entry.2 < 8 := by decide +kernel
  obtain ⟨before, after, hsplit, -⟩ := List.lookup_eq_some_iff.mp h
  exact hall (name, code) (by rw [hsplit]; simp)

/-- The code of a condition has three bits. -/
theorem condition_lt (token : Text) : (condition token).value < 8 := by
  rw [condition]
  split
  · rename_i code hcode
    simp only [conditionCode?, Option.orElse_eq_orElse, Option.orElse_eq_or, Option.or_eq_some_iff]
      at hcode
    rcases hcode with h | ⟨-, h | ⟨-, h⟩⟩
    · exact conditionDigit?_lt h
    · exact conditionNumber?_lt h
    · exact conditionNames_lt h
  · exact Nat.zero_lt_succ 7

end Token

namespace Operands

/-- The operands of a line are read into the slots of the rule's shape. -/
theorem parse_gives_iff {rule : Rule} {tokens : List Text} {labels : LabelTable} {pc : Int}
    {v : Operands} {ns : List Notice} :
    (parse rule tokens labels pc).Gives v ns ↔
      rule.shape ≠ .unsupported ∧ tokens.length = rule.shape.arity ∧
        (readAll ⟨rule.mnemonic, rule.shape.spelling, labels, pc⟩ {} rule.shape.slots tokens).Gives
          v ns := by
  rw [parse]
  split_ifs with hshape hlength
  · simp [hshape]
  · simp [hlength]
  · simp only [ne_eq, hshape, not_false_eq_true, not_not.mp hlength, true_and]

/-- Operands are read one after the other, each with the values of those before it. -/
theorem readAll_cons_gives_iff {ctx : Context} {v w : Operands} {slot : Slot} {slots : List Slot}
    {token : Text} {tokens : List Text} {ns : List Notice} :
    (readAll ctx v (slot :: slots) (token :: tokens)).Gives w ns ↔
      ∃ u n₁ n₂, (read ctx v slot token).Gives u n₁ ∧ (readAll ctx u slots tokens).Gives w n₂ ∧
        ns = n₁ ++ n₂ :=
  Attempt.gives_bind

theorem read_condition_gives_iff {ctx : Context} {v w : Operands} {token : Text}
    {ns : List Notice} :
    (read ctx v .condition token).Gives w ns ↔
      w = { v with cond := (Token.condition token).value } ∧
        ns = (Token.condition token).notices := by
  simp only [read, bind_pure_comp, Attempt.gives_map, Attempt.gives_liftM]
  constructor
  · rintro ⟨code, ⟨rfl, rfl⟩, rfl⟩
    exact ⟨rfl, rfl⟩
  · rintro ⟨rfl, rfl⟩
    exact ⟨_, ⟨rfl, rfl⟩, rfl⟩

theorem read_displacement_gives_iff {ctx : Context} {v w : Operands} {token : Text}
    {ns : List Notice} :
    (read ctx v .displacement token).Gives w ns ↔
      ∃ o, Token.displacement ctx.labels ctx.pc token = .ok o ∧ w = { v with o := o } ∧
        ns = [] := by
  simp only [read, bind_pure_comp, Attempt.gives_map, Attempt.gives_liftExcept]
  constructor
  · rintro ⟨o, ⟨ho, rfl⟩, rfl⟩
    exact ⟨o, ho, rfl, rfl⟩
  · rintro ⟨o, ho, rfl, rfl⟩
    exact ⟨o, ⟨ho, rfl⟩, rfl⟩

/-- The operands of a conditional branch: a condition and a displacement. -/
theorem parse_conditional {rule : Rule} {tokens : List Text} {labels : LabelTable} {pc : Int}
    {v : Operands} {ns : List Notice} (hshape : rule.shape = .conditional)
    (h : (parse rule tokens labels pc).Gives v ns) :
    ∃ first second o, tokens = [first, second] ∧
      Token.displacement labels pc second = .ok o ∧
      v = { cond := (Token.condition first).value, o := o } ∧
      ns = (Token.condition first).notices := by
  obtain ⟨-, hlength, hread⟩ := parse_gives_iff.mp h
  rw [hshape] at hlength hread
  obtain ⟨first, second, rfl⟩ := List.length_eq_two.mp hlength
  obtain ⟨v₁, n₁, n₂, hfirst, hrest, rfl⟩ := readAll_cons_gives_iff.mp hread
  obtain ⟨v₂, n₃, n₄, hsecond, hnil, rfl⟩ := readAll_cons_gives_iff.mp hrest
  obtain ⟨rfl, rfl⟩ := read_condition_gives_iff.mp hfirst
  obtain ⟨o, ho, rfl, rfl⟩ := read_displacement_gives_iff.mp hsecond
  obtain ⟨rfl, rfl⟩ := Attempt.gives_pure.mp hnil
  exact ⟨first, second, o, rfl, ho, rfl, by simp⟩

end Operands

end GridAsm
