import GridAsm.Proofs.Branch
import GridAsm.Proofs.Word

/-!
# The opcode of a rule

The opcode that a rule declares has its fixed ones among the bits 11 to 14 and no other bits
(`Rule.testBit_opcode`).  The fields give the same to a word if none of them has another one there
(`Rule.pack_opcode_of_ones`): when all operands are zero, and for any operands when the four bits are
fixed or ignored.  Of the mnemonics only `BRA` overrides these bits (`Rule.encode_opcode`), and it
sets them all, so that no word clears a one of the opcode.
-/

namespace GridAsm

open Text Bits

namespace Content

/-- Without operands only a fixed one gives a one. -/
theorem eq_fixed_of_bitAt {content : Content} {j : Nat} (h : content.bitAt {} j = true) :
    content = .fixed 1 := by
  have hregister : ∀ name : Text, (({} : Operands).registers.lookup name).getD 0 = 0 := by
    intro name
    simp only [Operands.registers, Operands.getD_lookup_cons]
    split_ifs <;> rfl
  have himmediate : ∀ name : Text, (({} : Operands).immediates.lookup name).getD 0 = 0 := by
    intro name
    simp only [Operands.immediates, Operands.getD_lookup_cons]
    split_ifs <;> rfl
  cases content with
  | fixed value => simpa [bitAt] using h
  | ignored | unknown => exact absurd h Bool.false_ne_true
  | slice register hi lo | registerBit register n => simp [bitAt, hregister] at h
  | immediate name => simp [bitAt, himmediate] at h
  | condition => simp [bitAt] at h

end Content

namespace Rule

/-! ### The declared opcode -/

theorem testBit_foldl_opcodeBit (fields : List Field) (n j : Nat) :
    (fields.foldl (fun n f => n ||| opcodeBit f) n).testBit j =
      (n.testBit j || fields.any fun f => (opcodeBit f).testBit j) := by
  induction fields generalizing n with
  | nil => simp
  | cons f rest ih => rw [List.foldl_cons, ih, Nat.testBit_or, List.any_cons, Bool.or_assoc]

theorem testBit_opcodeBit {f : Field} (hread : f.IsRead) (j : Nat) :
    (opcodeBit f).testBit j = true ↔ j < 4 ∧ f.covers (11 + j) ∧ f.content = .fixed 1 := by
  unfold Field.IsRead at hread
  unfold opcodeBit
  cases hcontent : f.content <;> rw [hcontent] at hread
  case fixed value =>
    obtain ⟨hwidth, hvalue⟩ := hread
    -- A fixed field has one bit, so that its highest bit is the one it covers.
    have hmsb : f.msb = f.lsb := by
      rw [Field.msb, hwidth]
      omega
    have hcovers : f.covers (11 + j) ↔ f.lsb = 11 + j := by
      rw [Field.covers, hwidth]
      omega
    rw [hmsb, hcovers]
    rcases hvalue with rfl | rfl
    · simp
    · split_ifs with hrange
      · show (1 <<< (f.lsb - 11 : Int).toNat).testBit j = true ↔ _
        rw [Nat.one_shiftLeft, Nat.testBit_two_pow, decide_eq_true_eq]
        simp only [and_true]
        omega
      · simp only [Nat.zero_testBit, Bool.false_eq_true, and_true, false_iff]
        omega
  all_goals simp

/-- The ones of the declared opcode are the fixed ones among the bits 11 to 14. -/
theorem testBit_opcode {r : Rule} (hread : ∀ f ∈ r.fields, f.IsRead) (j : Nat) :
    r.opcode.testBit j = true ↔
      j < 4 ∧ ∃ f ∈ r.fields, f.covers (11 + j) ∧ f.content = .fixed 1 := by
  rw [opcode, testBit_foldl_opcodeBit, Nat.zero_testBit, Bool.false_or, List.any_eq_true]
  constructor
  · rintro ⟨f, hf, hbit⟩
    obtain ⟨hj, hone⟩ := (testBit_opcodeBit (hread f hf) j).mp hbit
    exact ⟨hj, f, hf, hone⟩
  · rintro ⟨hj, f, hf, hone⟩
    exact ⟨f, hf, (testBit_opcodeBit (hread f hf) j).mpr ⟨hj, hone⟩⟩

/-! ### The opcode of the fields -/

/-- The fields give the declared opcode to a word in which none of them has a one among the bits 11
to 14 but the fixed ones. -/
theorem pack_opcode_of_ones {r : Rule} (htiles : Tiles 16 r.fields)
    (hread : ∀ f ∈ r.fields, f.IsRead) {v : Operands}
    (hones : ∀ f ∈ r.fields, ∀ i, 11 ≤ i → i ≤ 14 → f.covers i →
      f.content.bitAt v (i - f.lsb) = true → f.content = .fixed 1) :
    r.pack v / 2 ^ 11 % 2 ^ 4 = r.opcode := by
  apply eq_of_bit_eq
  intro j
  rw [bit_emod_two_pow, bit_ediv_two_pow, bit_natCast, Bool.eq_iff_iff, testBit_opcode hread,
    Bool.and_eq_true, decide_eq_true_eq, and_congr_right_iff]
  intro hj
  have hbit : ∀ f ∈ r.fields, f.covers (11 + j) →
      bit (r.pack v) (11 + j) = f.content.bitAt v (11 + j - f.lsb) := by
    intro f hf hcovers
    exact bit_foldl_fill v htiles hf (hread f hf) hcovers (bit_zero_left _)
  constructor
  · intro hone
    obtain ⟨f, hf, hcovers⟩ := htiles.exists_covers (show 11 + j < 16 by omega)
    rw [hbit f hf hcovers] at hone
    exact ⟨f, hf, hcovers, hones f hf _ (by omega) (by omega) hcovers hone⟩
  · rintro ⟨f, hf, hcovers, hfixed⟩
    rw [hbit f hf hcovers, hfixed]
    rfl

/-- Where the bits 11 to 14 are fixed or ignored, the fields give them as the opcode declares,
whatever the operands are. -/
theorem pack_opcode {r : Rule} (htiles : Tiles 16 r.fields) (hread : ∀ f ∈ r.fields, f.IsRead)
    (hconst : ∀ f ∈ r.fields, (∃ i, 11 ≤ i ∧ i ≤ 14 ∧ f.covers i) →
      f.content = .ignored ∨ ∃ value, f.content = .fixed value) (v : Operands) :
    r.pack v / 2 ^ 11 % 2 ^ 4 = r.opcode := by
  apply pack_opcode_of_ones htiles hread
  intro f hf i hlow hhigh hcovers hone
  rcases hconst f hf ⟨i, hlow, hhigh, hcovers⟩ with hignored | ⟨value, hfixed⟩
  · rw [hignored] at hone
    exact nomatch hone
  · rw [hfixed] at hone ⊢
    rw [of_decide_eq_true hone]

/-- The fields that reach bit 11 are fixed or ignored, as a check of each field. -/
theorem const_of_fields {r : Rule} (h : ∀ f ∈ r.fields, f.lsb + f.width ≤ 11 ∨
      f.content = .ignored ∨ f.content = .fixed 0 ∨ f.content = .fixed 1) :
    ∀ f ∈ r.fields, (∃ i, 11 ≤ i ∧ i ≤ 14 ∧ f.covers i) →
      f.content = .ignored ∨ ∃ value, f.content = .fixed value := by
  rintro f hf ⟨i, hi, -, -, hbelow⟩
  rcases h f hf with hend | hignored | hfixed | hfixed
  · omega
  · exact .inl hignored
  · exact .inr ⟨0, hfixed⟩
  · exact .inr ⟨1, hfixed⟩

/-! ### The opcode of a word -/

/-- Only the branch overrides the opcode of the fields. -/
theorem encode_opcode {r : Rule} (h : r.mnemonic ≠ "BRA") (v : Operands) :
    r.encode v / 2 ^ 11 % 2 ^ 4 = r.pack v / 2 ^ 11 % 2 ^ 4 := by
  cases hform : Form.ofMnemonic r.mnemonic with
  | branch =>
    rw [Form.ofMnemonic, if_neg h] at hform
    split_ifs at hform
  | jump =>
    rw [encode_jump hform]
    omega
  | fields =>
    rw [encode, formed, hform]
    change r.pack v % 2 ^ 15 / 2 ^ 11 % 2 ^ 4 = _
    omega

/-- The bits of the opcode in a word. -/
theorem bit_opcode (word : Int) {j : Nat} (hj : j < 4) :
    bit (word / 2 ^ 11 % 2 ^ 4) j = bit word (11 + j) := by
  rw [bit_emod_two_pow, bit_ediv_two_pow, decide_eq_true hj, Bool.true_and]

/-- A fixed one of the opcode is a one of every word. -/
theorem bit_encode_of_opcode {r : Rule} (htiles : Tiles 16 r.fields)
    (hread : ∀ f ∈ r.fields, f.IsRead) (v : Operands) {j : Nat}
    (h : r.opcode.testBit j = true) : j < 4 ∧ bit (r.encode v) (11 + j) = true := by
  obtain ⟨hj, f, hf, hcovers, hfixed⟩ := (testBit_opcode hread j).mp h
  refine ⟨hj, ?_⟩
  rw [← bit_opcode _ hj]
  by_cases hbra : r.mnemonic = "BRA"
  · -- A branch has ones in all four places, whatever its rule says.
    have hones : r.encode v / 2 ^ 11 % 2 ^ 4 = 15 := by
      rw [encode_branch hbra]
      omega
    have hfifteen : ∀ i < 4, bit 15 i = true := by decide
    rw [hones, hfifteen j hj]
  · rw [encode_opcode hbra, bit_opcode _ hj, pack,
      bit_foldl_fill v htiles hf (hread f hf) hcovers (bit_zero_left _), hfixed]
    rfl

/-- **The declared opcode is that of the words.**  The opcode of a row's rule is what the bits 11 to
14 of the word hold when all operands are zero.  Its ones are ones in every word of the rule,
whatever the mnemonic and the operands are.  If the four bits are fixed or ignored, then in all words
they are the opcode, unless the mnemonic is that of a branch. -/
theorem opcode_of_row {row : List Json.Value} {r : Rule} {notices : List Notice}
    (h : (ofRow? row).Gives (some r) notices) :
    r.pack {} / 2048 % 16 = r.opcode ∧
    (∀ v j, r.opcode.testBit j = true → j < 4 ∧ bit (r.encode v) (11 + j) = true) ∧
    ((∀ f ∈ r.fields, (∃ i, 11 ≤ i ∧ i ≤ 14 ∧ f.covers i) →
        f.content = .ignored ∨ ∃ value, f.content = .fixed value) →
      r.mnemonic ≠ "BRA" → ∀ v, r.encode v / 2048 % 16 = r.opcode) := by
  obtain ⟨cells, ns, hfields⟩ := exists_ofCells_of_ofRow? h
  have htiles := Layout.tiles_of_ofCells hfields
  have hread : ∀ f ∈ r.fields, f.IsRead := fun f hf => Layout.isRead_of_ofCells hfields hf
  refine ⟨?_, ?_, ?_⟩
  · exact pack_opcode_of_ones htiles hread fun f _ i _ _ _ => Content.eq_fixed_of_bitAt
  · intro v j hj
    exact bit_encode_of_opcode htiles hread v hj
  · intro hconst hbra v
    exact (encode_opcode hbra v).trans (pack_opcode htiles hread hconst v)

/-- A jump with registers across both ends of its opcode, and a row with an ignored bit in it. -/
theorem opcode_of_row_between_registers :
    let jump := (["jz", "P", "rd[1:0]", "", "1", "x", "rs[2:0]", "", "", "1"] ++
      List.replicate 8 "P").map fun s : String => Json.Value.text s
    let r : Rule := ⟨"JZ", "P", .absolute,
      [⟨14, 2, .slice "rd" 1 0⟩, ⟨13, 1, .fixed 1⟩, ⟨12, 1, .ignored⟩, ⟨9, 3, .slice "rs" 2 0⟩,
       ⟨8, 1, .fixed 1⟩, ⟨0, 8, .immediate "P"⟩]⟩
    let sum := ["add", "rd, rs, rt", "1", "0", "1", "x", "1", "rd[2:0]", "", "", "rs[3:0]", "", "",
      "", "rt[3:0]", "", "", ""].map fun s : String => Json.Value.text s
    let r' : Rule := ⟨"ADD", "rd, rs, rt", .threeRegisters,
      [⟨15, 1, .fixed 1⟩, ⟨14, 1, .fixed 0⟩, ⟨13, 1, .fixed 1⟩, ⟨12, 1, .ignored⟩, ⟨11, 1, .fixed 1⟩,
       ⟨8, 3, .slice "rd" 2 0⟩, ⟨4, 4, .slice "rs" 3 0⟩, ⟨0, 4, .slice "rt" 3 0⟩]⟩
    (ofRow? jump).Gives (some r) [] ∧ r.pack {} / 2048 % 16 = 4 ∧
      (∀ v, bit (r.encode v) 13 = true) ∧
    (ofRow? sum).Gives (some r') [] ∧ ∀ v, r'.encode v / 2048 % 16 = 5 := by
  intro jump r sum r'
  have hjump : (ofRow? jump).Gives (some r) [] := by decide +kernel
  have hsum : (ofRow? sum).Gives (some r') [] := by decide +kernel
  obtain ⟨hzero, hones, -⟩ := opcode_of_row hjump
  obtain ⟨-, -, hall⟩ := opcode_of_row hsum
  exact ⟨hjump, hzero, fun v => (hones v 2 (by decide)).2, hsum,
    hall (const_of_fields (by decide +kernel)) (by decide)⟩

end Rule

end GridAsm
