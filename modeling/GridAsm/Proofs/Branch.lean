import GridAsm.Proofs.Bits
import GridAsm.Proofs.Operand
import GridAsm.Proofs.Program

/-!
# Branches reach their labels

The word of `BRA` does not depend on the layout of its rule (`Rule.encode_branch`).  Its low byte is
the displacement that was read from the second operand, at the address that the line has in the
program.  So the distance from the next address to a label that is near enough is read back from
the word.
-/

namespace GridAsm

open Text Bits

/-- The word of a branch: the opcode, the condition and the displacement. -/
theorem Rule.encode_branch {r : Rule} (h : r.mnemonic = "BRA") (v : Operands) :
    r.encode v = 15 * 2 ^ 11 + v.cond % 2 ^ 3 * 2 ^ 8 + v.o % 2 ^ 8 := by
  have hform : Form.ofMnemonic r.mnemonic = .branch := if_pos h
  rw [encode, formed, hform]
  change (15 * 2 ^ 11 + v.cond % 2 ^ 3 * 2 ^ 8 + v.o % 2 ^ 8) % 2 ^ 15 = _
  exact Int.emod_eq_of_lt (by omega) (by omega)

/-- The word of a jump: the opcode of the fields and the target. -/
theorem Rule.encode_jump {r : Rule} (h : Form.ofMnemonic r.mnemonic = .jump) (v : Operands) :
    r.encode v = r.pack v / 2 ^ 11 % 2 ^ 4 * 2 ^ 11 + v.p % 2 ^ 11 := by
  rw [encode, formed, h]
  change (r.pack v / 2 ^ 11 % 2 ^ 4 * 2 ^ 11 + v.p % 2 ^ 11) % 2 ^ 15 = _
  exact Int.emod_eq_of_lt (by omega) (by omega)

/-- The rule that a table has for a mnemonic in capitals is one of that mnemonic. -/
theorem RuleTable.mnemonic_of_find? {t : RuleTable} {name : Text} {rule : Rule}
    (h : t.find? name = some rule) : rule.mnemonic = key name := by
  simpa using List.find?_some h

namespace RuleTable

/-- **Branches reach their labels.**  An encoded line with `BRA` has the opcode and its condition in
the high bits of its word, whatever the layout of the rule says.  The low byte is that of the
number in the second operand; if it is no number, it names a label, and the low byte is that of the
distance from the next address to the label.  A distance that fits a signed byte leads from the
next address to the label. -/
theorem branch_reaches_label (t : RuleTable) (source filename : Text) {line : Line}
    (hline : line ∈ (t.assemble source filename).value.lines) (hstatus : line.status = .encoded)
    (hmnemonic : line.mnemonic = "BRA") {rule : Rule} (hrule : t.find? line.mnemonic = some rule)
    (hshape : rule.shape = .conditional) :
    ∃ p : Nat, ∃ word first second, line.pc = some p ∧ line.word = some word ∧
      Token.split line.operands = [first, second] ∧
      [15, 14, 13, 12, 11].map (bit word) = [false, true, true, true, true] ∧
      word / 2 ^ 8 % 2 ^ 3 = (Token.condition first).value ∧
      (∀ n, Literal.parse? second = some n → word % 256 = n % 256) ∧
      (Literal.parse? second = none →
        ∃ a, (t.assemble source filename).value.labels.find? (Token.labelKey (trim second)) =
            some a ∧
          word % 256 = (a - (p + 1)) % 256 ∧
          (-128 ≤ a - (p + 1) → a - (p + 1) ≤ 127 →
            ∃ d, signed (mask word 8) 8 = .ok d ∧ p + 1 + d = a)) := by
  obtain ⟨p, rule', v, ns, hpc, hrule', hparse, hword⟩ := exists_of_encoded t filename hline hstatus
  obtain rfl : rule = rule' := Option.some.inj (hrule.symm.trans hrule')
  obtain ⟨first, second, o, htokens, ho, rfl, -⟩ := Operands.parse_conditional hshape hparse
  have hbra : rule.mnemonic = "BRA" := by
    rw [mnemonic_of_find? hrule, hmnemonic]
    decide +kernel
  have hcode := Token.condition_lt first
  generalize hvalue : rule.encode { cond := (Token.condition first).value, o := o } = word at hword
  rw [Rule.encode_branch hbra] at hvalue
  simp only at hvalue
  -- The word is a sum of its three parts, from which its bits are plain arithmetic.
  have hlow : word % 256 = o % 256 := by omega
  refine ⟨p, word, first, second, hpc, hword, htokens, ?_, by omega, ?_, ?_⟩
  · simp only [List.map_cons, List.map_nil, bit_eq_decide, List.cons.injEq,
      decide_eq_false_iff_not, decide_eq_true_eq, and_true]
    omega
  · intro n hn
    rcases Token.displacement_eq_ok_iff.mp ho with hliteral | ⟨hnone, -⟩
    · rw [hlow, Option.some.inj (hliteral.symm.trans hn)]
    · exact nomatch hnone.symm.trans hn
  · intro hnone
    rcases Token.displacement_eq_ok_iff.mp ho with hliteral | ⟨-, a, ha, rfl⟩
    · exact nomatch hnone.symm.trans hliteral
    · refine ⟨a, ha, hlow, fun hmin hmax => ⟨a - (p + 1), ?_, by omega⟩⟩
      apply signed_eq_of_emod_eq (k := 7)
      · change word % 2 ^ 8 % 2 ^ 8 = _
        omega
      · omega
      · omega

/-- A branch to the line before it, with a layout that has no room for an opcode. -/
theorem branch_reaches_label_before :
    let grid := [[], (["bra", "cond, O"] ++ List.replicate 16 "O").map fun s : String =>
      Json.Value.text s]
    let t : RuleTable := ⟨[⟨"BRA", "cond, O", .conditional, [⟨0, 16, .immediate "O"⟩]⟩]⟩
    let program := (t.assemble "back: NOP\nBRA eq, Back:" "<input>").value
    (ofGrid grid).Gives t [.rulesRead 1] ∧ program.labels.find? "BACK" = some 0 ∧
      ∃ line ∈ program.lines, line.mnemonic = "BRA" ∧ line.pc = some 1 ∧
        ∃ word, line.word = some word ∧ word / 2 ^ 8 % 2 ^ 3 = 4 ∧ word % 256 = 254 ∧
          ∃ d, signed (mask word 8) 8 = .ok d ∧ 1 + 1 + d = 0 := by
  intro grid t program
  have hlabel : program.labels.find? "BACK" = some 0 := by decide +kernel
  have hfacts : program.lines[1]?.map (fun line =>
      (line.status, line.mnemonic, line.pc, Token.split line.operands)) =
        some (.encoded, ofString "BRA", some 1, ["eq", "Back:"].map ofString) := by decide +kernel
  obtain ⟨line, hline, hfacts⟩ := Option.map_eq_some_iff.mp hfacts
  simp only [Prod.mk.injEq] at hfacts
  obtain ⟨hstatus, hmnemonic, hpc, htokens⟩ := hfacts
  have hmem : line ∈ program.lines := List.mem_of_getElem? hline
  have hrule : t.find? line.mnemonic = some ⟨"BRA", "cond, O", .conditional,
      [⟨0, 16, .immediate "O"⟩]⟩ := by
    rw [hmnemonic]
    decide +kernel
  obtain ⟨p, word, first, second, hp, hword, htokens', -, hcond, -, hdistance⟩ :=
    branch_reaches_label t _ _ hmem hstatus hmnemonic hrule rfl
  obtain rfl := Option.some.inj (hp.symm.trans hpc)
  obtain ⟨rfl, rfl⟩ : first = "eq" ∧ second = "Back:" := by
    simpa using htokens'.symm.trans htokens
  obtain ⟨a, ha, hlow, hreach⟩ := hdistance (by decide +kernel)
  have hkey : Token.labelKey (trim "Back:") = "BACK" := by decide +kernel
  rw [hkey] at ha
  obtain rfl := Option.some.inj (ha.symm.trans hlabel)
  have hcode : (Token.condition "eq").value = 4 := by decide +kernel
  rw [hcode] at hcond
  exact ⟨by decide +kernel, hlabel, line, hmem, hmnemonic, hpc, word, hword, hcond, hlow,
    hreach (by decide) (by decide)⟩

end RuleTable

end GridAsm
