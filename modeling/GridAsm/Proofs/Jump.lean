import GridAsm.Proofs.Opcode
import GridAsm.Proofs.Relocation

/-!
# Jumps keep their opcode

The word of `JZ`, `JC` and `JMP` has the target in its low eleven bits and, above them, the four bits
that the fields of the rule give to the opcode (`Rule.bit_encode_jump`).  Where those are all fixed
or ignored, they are the declared opcode, and no target can change them.
-/

namespace GridAsm

open Text Bits

/-- A jump has the target below bit 11, and from there on the bits of the fields but the highest. -/
theorem Rule.bit_encode_jump {r : Rule} (h : Form.ofMnemonic r.mnemonic = .jump) (v : Operands)
    (i : Nat) :
    bit (r.encode v) i = if i < 11 then bit v.p i else (decide (i < 15) && bit (r.pack v) i) := by
  have hpos : (0 : Int) < 2 ^ 11 := two_pow_pos 11
  rw [encode_jump h, bit_mul_two_pow_add _ (Int.emod_nonneg _ hpos.ne') (Int.emod_lt_of_pos _ hpos)]
  by_cases hi : i < 11
  · rw [if_pos hi, if_pos hi, bit_emod_two_pow, decide_eq_true hi, Bool.true_and]
  · have hlow : 11 + (i - 11) = i := by omega
    have hrange : i - 11 < 4 ↔ i < 15 := by omega
    rw [if_neg hi, if_neg hi, bit_emod_two_pow, bit_ediv_two_pow, hlow, decide_eq_decide.mpr hrange]

/-! ### Lines with jumps -/

theorem Operands.ReadAs.exists_target {labels : LabelTable} {pc : Int} {tokens : List Text}
    {v : Operands} (h : ReadAs labels pc .absolute tokens v) :
    ∃ token n, tokens = [token] ∧ Token.IsValue labels token n ∧ v = { p := n } := by
  cases h with
  | absolute hvalue => exact ⟨_, _, rfl, hvalue, rfl⟩

namespace RuleTable

/-- **Jumps keep their opcode.**  An encoded line with `JZ`, `JC` or `JMP` whose rule takes a target
has a clear highest bit, the low eleven bits of the target below and the opcode of the rule's fields
between them, whatever the layout says of the low bits.  The target is the number in the operand or
the address of the label that it names.  If the fields of the opcode are fixed or ignored, the opcode
is the declared one, and it is so for all targets. -/
theorem jump_keeps_opcode {grid : List (List Json.Value)} {t : RuleTable} {notices : List Notice}
    (hgrid : (ofGrid grid).Gives t notices) (source filename : Text) {line : Line}
    (hline : line ∈ (t.assemble source filename).value.lines) (hstatus : line.status = .encoded)
    (hmnemonic : line.mnemonic ∈ ["JZ", "JC", "JMP"].map ofString) {rule : Rule}
    (hrule : t.find? line.mnemonic = some rule) (hshape : rule.shape = .absolute) :
    ∃ word token n, line.word = some word ∧ Token.split line.operands = [token] ∧
      (Literal.parse? token = some n ∨ Literal.parse? token = none ∧
        (t.assemble source filename).value.labels.find? (Token.labelKey (trim token)) = some n) ∧
      bit word 15 = false ∧ word % 2048 = n % 2048 ∧
      (∀ i, 11 ≤ i → i ≤ 14 → bit word i = bit (rule.pack { p := n }) i) ∧
      ((∀ f ∈ rule.fields, (∃ i, 11 ≤ i ∧ i ≤ 14 ∧ f.covers i) →
          f.content = .ignored ∨ ∃ value, f.content = .fixed value) →
        word / 2048 = rule.opcode ∧ ∀ m : Int, rule.encode { p := m } / 2048 = rule.opcode) := by
  obtain ⟨p, rule', v, ns, -, hrule', hparse, hword⟩ := exists_of_encoded t filename hline hstatus
  obtain rfl : rule = rule' := Option.some.inj (hrule.symm.trans hrule')
  have hread := Operands.outcome_parse_eq_ok_iff.mp (Attempt.gives_iff.mp hparse).1
  rw [hshape] at hread
  obtain ⟨token, n, htokens, hvalue, rfl⟩ := hread.exists_target
  have hform := ofMnemonic_eq_jump hrule hmnemonic
  refine ⟨_, token, n, hword, htokens, hvalue, ?_, ?_, ?_, ?_⟩
  · rw [Rule.bit_encode_jump hform]
    rfl
  · exact Rule.encode_jump_emod hform _
  · intro i hlow hhigh
    rw [Rule.bit_encode_jump hform, if_neg (by omega), decide_eq_true (by omega), Bool.true_and]
  · intro hconst
    obtain ⟨row, -, ms, hrow⟩ := exists_row_of_find? hgrid hrule
    obtain ⟨cells, ms, hfields⟩ := Rule.exists_ofCells_of_ofRow? hrow
    have hopcode := Rule.pack_opcode (Layout.tiles_of_ofCells hfields)
      (fun f hf => Layout.isRead_of_ofCells hfields hf) hconst
    have hhigh : ∀ m : Int, rule.encode { p := m } / 2048 = rule.opcode := by
      intro m
      have h := hopcode { p := m }
      rw [Rule.encode_jump hform]
      omega
    exact ⟨hhigh n, hhigh⟩

/-- A jump below zero under a layout with registers in the place of the target. -/
theorem jump_keeps_opcode_below_zero :
    let grid := [[], ["jmp", "P", "1", "1", "0", "1", "x", "rd[3:0]", "", "", "", "P", "P", "O", "Y",
      "rt[1]", "cond", "0"].map fun s : String => Json.Value.text s]
    let rule : Rule := ⟨"JMP", "P", .absolute,
      [⟨15, 1, .fixed 1⟩, ⟨14, 1, .fixed 1⟩, ⟨13, 1, .fixed 0⟩, ⟨12, 1, .fixed 1⟩, ⟨11, 1, .ignored⟩,
       ⟨7, 4, .slice "rd" 3 0⟩, ⟨5, 2, .immediate "P"⟩, ⟨4, 1, .immediate "O"⟩,
       ⟨3, 1, .immediate "Y"⟩, ⟨2, 1, .registerBit "rt" 1⟩, ⟨1, 1, .condition⟩, ⟨0, 1, .fixed 0⟩]⟩
    let t : RuleTable := ⟨[rule]⟩
    let program := (t.assemble "top: NOP\njmp -1" "<input>").value
    (ofGrid grid).Gives t [.rulesRead 1] ∧
      ∃ line ∈ program.lines, line.mnemonic = "JMP" ∧ Token.split line.operands = [ofString "-1"] ∧
        ∃ word, line.word = some word ∧ bit word 15 = false ∧ word % 2048 = 2047 ∧
          word / 2048 = 10 ∧ rule.opcode = 10 := by
  intro grid rule t program
  have hgrid : (ofGrid grid).Gives t [.rulesRead 1] := by decide +kernel
  have hfacts : program.lines[1]?.map (fun line =>
      (line.status, line.mnemonic, Token.split line.operands)) =
        some (.encoded, ofString "JMP", [ofString "-1"]) := by decide +kernel
  obtain ⟨line, hline, hfacts⟩ := Option.map_eq_some_iff.mp hfacts
  simp only [Prod.mk.injEq] at hfacts
  obtain ⟨hstatus, hmnemonic, htokens⟩ := hfacts
  have hmem : line ∈ program.lines := List.mem_of_getElem? hline
  have hrule : t.find? line.mnemonic = some rule := by
    rw [hmnemonic]
    decide +kernel
  obtain ⟨word, token, n, hword, htoken, hvalue, htop, hlow, -, hopcode⟩ :=
    jump_keeps_opcode hgrid _ _ hmem hstatus (by rw [hmnemonic]; decide) hrule rfl
  obtain rfl : token = "-1" := by simpa using htoken.symm.trans htokens
  have hliteral : Literal.parse? "-1" = some (-1) := by decide +kernel
  obtain rfl : n = -1 := by
    rcases hvalue with h | ⟨hnone, -⟩
    · exact Option.some.inj (h.symm.trans hliteral)
    · exact nomatch hnone.symm.trans hliteral
  have hdeclared : rule.opcode = 10 := by decide +kernel
  have hconst : ∀ f ∈ rule.fields, (∃ i, 11 ≤ i ∧ i ≤ 14 ∧ f.covers i) →
      f.content = .ignored ∨ ∃ value, f.content = .fixed value := by
    have hfields : ∀ f ∈ rule.fields, f.lsb + f.width ≤ 11 ∨ f.content = .ignored ∨
        f.content = .fixed 0 ∨ f.content = .fixed 1 := by decide +kernel
    rintro f hf ⟨i, hi, -, -, hbelow⟩
    rcases hfields f hf with hend | hignored | hzero | hone
    · omega
    · exact .inl hignored
    · exact .inr ⟨0, hzero⟩
    · exact .inr ⟨1, hone⟩
  obtain ⟨hhigh, -⟩ := hopcode hconst
  rw [hdeclared] at hhigh
  exact ⟨hgrid, line, hmem, hmnemonic, htokens, word, hword, htop, hlow, hhigh, hdeclared⟩

end RuleTable

end GridAsm
