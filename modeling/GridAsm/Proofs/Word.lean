import GridAsm.Proofs.Bits
import GridAsm.Proofs.Rule
import GridAsm.Word

/-!
# The bits of a word

A word is filled field by field, each over what the ones before it left.  Since the fields tile the
word, no field is filled over: a bit of the word is that of the one field that holds it
(`bit_foldl_fill`).  `Content.bitAt` says what this bit is without a word or a mask, from the values
that `Operands.registers` and `Operands.immediates` name.

`Rule.packChecked` fills the fields by writes and shifts that refuse a negative count.  The fields of
a row are never refused (`foldlM_write_eq_foldl_fill`).
-/

namespace GridAsm

open Text Bits

/-! ### Values by name -/

namespace Operands

/-- The values of the registers. -/
def registers (v : Operands) : List (Text × Int) :=
  [("rd", v.rd), ("rs", v.rs), ("rt", v.rt)]

/-- The immediate values. -/
def immediates (v : Operands) : List (Text × Int) :=
  [("Y", v.y), ("P", v.p), ("O", v.o)]

theorem getD_lookup_cons (name other : Text) (value : Int) (rest : List (Text × Int)) :
    (((other, value) :: rest).lookup name).getD 0 =
      if name = other then value else (rest.lookup name).getD 0 := by
  rw [List.lookup_cons]
  by_cases h : name = other
  · rw [if_pos h, beq_iff_eq.mpr h]
    rfl
  · rw [if_neg h, beq_false_of_ne h]

theorem register_eq_lookup (v : Operands) (name : Text) :
    v.register name = (v.registers.lookup name).getD 0 := by
  rw [registers, getD_lookup_cons, getD_lookup_cons, getD_lookup_cons]
  rfl

theorem immediate_eq_lookup (v : Operands) {name : Text}
    (h : name = "Y" ∨ name = "P" ∨ name = "O") :
    v.immediate name = (v.immediates.lookup name).getD 0 := by
  rcases h with rfl | rfl | rfl <;> rfl

end Operands

/-! ### One field -/

/-- Bit `j` of a field: what fills it, bit by bit.  A name that no value has stands for zero. -/
def Content.bitAt (v : Operands) (j : Nat) : Content → Bool
  | .fixed value => value = 1
  | .ignored | .unknown => false
  | .slice register hi lo => bit ((v.registers.lookup register).getD 0) ((min hi lo).toNat + j)
  | .registerBit register n => bit ((v.registers.lookup register).getD 0) n.toNat
  | .immediate name => bit ((v.immediates.lookup name).getD 0) j
  | .condition => bit v.cond j

namespace Field

variable {f : Field}

/-- A field that is filled leaves all other bits as they are. -/
theorem bit_fill_of_not_covers (v : Operands) (word : Int) {i : Nat} (hi : ¬ f.covers i) :
    bit (f.fill v word) i = bit word i := by
  rw [fill]
  split
  · rw [bit_deposit]
    exact if_neg hi
  · rfl

/-- A field that is filled over clear bits has the bits of its content. -/
theorem bit_fill_of_covers (hread : f.IsRead) (v : Operands) {word : Int} {i : Nat}
    (hi : f.covers i) (hword : bit word i = false) :
    bit (f.fill v word) i = f.content.bitAt v (i - f.lsb) := by
  -- Fixed and register bits have one bit, so that only bit zero of the value is asked for.
  have hfirst : f.width = 1 → i - f.lsb = 0 := by
    obtain ⟨hlow, hhigh⟩ := hi
    omega
  have hdeposit : ∀ value, bit (deposit word f.lsb f.width value) i = bit value (i - f.lsb) := by
    intro value
    rw [bit_deposit]
    exact if_pos hi
  rw [IsRead] at hread
  rw [fill]
  cases hcontent : f.content <;> rw [hcontent] at hread <;>
    simp only [Content.value?, Content.bitAt, hdeposit]
  case fixed value =>
    rw [hfirst hread.1]
    rcases hread.2 with rfl | rfl <;> rfl
  case ignored => exact hword
  case slice register hi lo => rw [bit_shiftRight, Content.sliceShift, v.register_eq_lookup]
  case registerBit register n =>
    rw [hfirst hread.1, ← pow_one (2 : Int), bit_emod_two_pow, bit_shiftRight, v.register_eq_lookup]
    rfl
  case immediate name => rw [v.immediate_eq_lookup hread]
  case unknown => exact hread.elim

end Field

/-! ### All fields -/

/-- A bit that no field holds stays as it is. -/
theorem bit_foldl_fill_of_not_covers (v : Operands) {fields : List Field} {i : Nat}
    (h : ∀ f ∈ fields, ¬ f.covers i) (word : Int) :
    bit (fields.foldl (Field.fill v) word) i = bit word i := by
  induction fields generalizing word with
  | nil => rfl
  | cons f rest ih =>
    rw [List.foldl_cons, ih fun g hg => h g (List.mem_cons_of_mem _ hg),
      Field.bit_fill_of_not_covers v word (h f (List.mem_cons_self ..))]

/-- Fields that tile a word are filled side by side: none of them is filled over. -/
theorem bit_foldl_fill (v : Operands) {top : Nat} {fields : List Field} (htiles : Tiles top fields)
    {f : Field} (hf : f ∈ fields) (hread : f.IsRead) {i : Nat} (hi : f.covers i) {word : Int}
    (hword : bit word i = false) :
    bit (fields.foldl (Field.fill v) word) i = f.content.bitAt v (i - f.lsb) := by
  induction fields generalizing top word with
  | nil => exact absurd hf List.not_mem_nil
  | cons g rest ih =>
    rw [List.foldl_cons]
    rcases List.mem_cons.mp hf with rfl | hf
    · -- The fields after `f` lie below it, and leave its bits as they are.
      rw [bit_foldl_fill_of_not_covers v fun g hg => htiles.not_covers_of_mem_tail hg hi.1,
        Field.bit_fill_of_covers hread v hi hword]
    · -- The bit is still clear after `g`, which lies above `f`.
      have hg : ¬ g.covers i := by
        intro hg
        exact htiles.not_covers_of_mem_tail hf hg.1 hi
      exact ih htiles.2.2 hf (by rw [Field.bit_fill_of_not_covers v word hg, hword])

/-! ### Fields filled with checks -/

/-- A shift to the right, refused for a negative count. -/
def Bits.checkedShift (value count : Int) : Except BelowZero Int :=
  if count < 0 then .error {} else .ok (value >>> count.toNat)

/-- The word with the field written from its highest bit down. -/
def Field.write (v : Operands) (word : Int) (f : Field) : Except BelowZero Int :=
  match f.content with
  | .fixed value => Bits.write word f.msb 1 value
  | .ignored | .unknown => .ok word
  | .slice register hi lo => do
    Bits.write word f.msb f.width (← Bits.checkedShift (v.register register) (min hi lo))
  | .registerBit register n => do
    Bits.write word f.msb 1 ((← Bits.checkedShift (v.register register) n) % 2)
  | .immediate name => Bits.write word f.msb f.width (v.immediate name)
  | .condition => Bits.write word f.msb f.width v.cond

/-- The word of the fields, refused at the first range or shift that is negative. -/
def Rule.packChecked (r : Rule) (v : Operands) : Except BelowZero Int :=
  r.fields.foldlM (Field.write v) 0

/-- The write of a field that a cell can stand for is not refused. -/
theorem Field.write_eq_fill {f : Field} (hread : f.IsRead) (hpos : 0 < f.width) (v : Operands)
    (word : Int) : f.write v word = .ok (f.fill v word) := by
  have hwrite : ∀ value, Bits.write word f.msb f.width value =
      .ok (deposit word f.lsb f.width value) := fun value =>
    write_eq_deposit word f.lsb hpos value
  have hone : f.width = 1 → ∀ value, Bits.write word f.msb 1 value =
      .ok (deposit word f.lsb f.width value) := by
    intro hwidth value
    rw [← hwrite, hwidth]
    rfl
  rw [IsRead] at hread
  rw [Field.write, fill]
  cases hcontent : f.content <;> rw [hcontent] at hread <;> simp only [Content.value?]
  case fixed value => exact hone hread.1 value
  case slice register hi lo =>
    rw [checkedShift, if_neg (by omega)]
    exact hwrite _
  case registerBit register n =>
    rw [checkedShift, if_neg (by omega)]
    exact hone hread.1 _
  case immediate name => exact hwrite _
  case condition => exact hwrite _

theorem foldlM_write_eq_foldl_fill (v : Operands) {fields : List Field}
    (h : ∀ f ∈ fields, f.IsRead ∧ 0 < f.width) (word : Int) :
    fields.foldlM (Field.write v) word = .ok (fields.foldl (Field.fill v) word) := by
  induction fields generalizing word with
  | nil => rfl
  | cons f rest ih =>
    obtain ⟨hread, hpos⟩ := h f (List.mem_cons_self ..)
    rw [List.foldlM_cons, Field.write_eq_fill hread hpos, List.foldl_cons]
    exact ih (fun g hg => h g (List.mem_cons_of_mem _ hg)) _

/-! ### Rules of rows -/

namespace Rule

/-- The highest bit is clear, and the word of the fields gives the rest unless the mnemonic is that
of a branch or a jump. -/
theorem bit_encode {r : Rule} (hform : Form.ofMnemonic r.mnemonic = .fields) (v : Operands)
    (i : Nat) : bit (r.encode v) i = (decide (i < 15) && bit (r.pack v) i) := by
  rw [encode, formed, hform, mask]
  exact bit_emod_two_pow _ 15 i

/-- The fields of a row's rule are filled without a refusal. -/
theorem packChecked_eq_pack {row : List Json.Value} {r : Rule} {notices : List Notice}
    (h : (ofRow? row).Gives (some r) notices) (v : Operands) :
    r.packChecked v = .ok (r.pack v) := by
  obtain ⟨cells, ns, hfields⟩ := exists_ofCells_of_ofRow? h
  refine foldlM_write_eq_foldl_fill v (fun f hf => ⟨?_, ?_⟩) 0
  · exact Layout.isRead_of_ofCells hfields hf
  · exact ((Layout.tiles_of_ofCells hfields).bounds hf).1

theorem ofMnemonic_eq_fields {mnemonic : Text}
    (h : mnemonic ∉ ["BRA", "JZ", "JC", "JMP"].map ofString) :
    Form.ofMnemonic mnemonic = .fields := by
  simp only [List.map_cons, List.map_nil, List.mem_cons, List.not_mem_nil, not_or] at h
  obtain ⟨hbra, hjz, hjc, hjmp, -⟩ := h
  rw [Form.ofMnemonic, if_neg hbra, if_neg]
  rintro (h | h | h) <;> contradiction

/-- **The bits of a row's word.**  A word of a row's rule has sixteen bits, and each of them is held
by one field and is what that field's content says, whatever the values of the operands are.  But
for the branch and the jumps the instruction is this word with the highest bit cleared.  No range
and no shift is negative on the way. -/
theorem pack_of_row {row : List Json.Value} {r : Rule} {notices : List Notice}
    (h : (ofRow? row).Gives (some r) notices) (v : Operands) :
    (0 ≤ r.pack v ∧ r.pack v ≤ 0xFFFF) ∧
    (∀ i < 16, ∃! f, f ∈ r.fields ∧ f.covers i) ∧
    (∀ f ∈ r.fields, f.IsRead ∧
      ∀ i, f.covers i → bit (r.pack v) i = f.content.bitAt v (i - f.lsb)) ∧
    (r.mnemonic ∉ ["BRA", "JZ", "JC", "JMP"].map ofString →
      ∀ i, bit (r.encode v) i = (decide (i ≠ 15) && bit (r.pack v) i)) ∧
    r.packChecked v = .ok (r.pack v) := by
  obtain ⟨cells, ns, hfields⟩ := exists_ofCells_of_ofRow? h
  have htiles := Layout.tiles_of_ofCells hfields
  have hread : ∀ f ∈ r.fields, f.IsRead := fun f hf => Layout.isRead_of_ofCells hfields hf
  have hhigh : ∀ i, 16 ≤ i → bit (r.pack v) i = false := by
    intro i hi
    rw [pack, bit_foldl_fill_of_not_covers v _, bit_zero_left]
    rintro f hf ⟨-, hlt⟩
    have := (htiles.bounds hf).2
    omega
  refine ⟨?_, fun i hi => htiles.existsUnique_covers hi, ?_, ?_, packChecked_eq_pack h v⟩
  · have hrange := bounds_of_bit_eq_false hhigh
    omega
  · intro f hf
    refine ⟨hread f hf, fun i hi => ?_⟩
    exact bit_foldl_fill v htiles hf (hread f hf) hi (bit_zero_left i)
  · intro hmnemonic i
    rw [bit_encode (ofMnemonic_eq_fields hmnemonic)]
    by_cases hi : 16 ≤ i
    · rw [hhigh i hi, Bool.and_false, Bool.and_false]
    · congr 1
      exact decide_eq_decide.mpr (by omega)

/-- A row with a slice from its lower bit up, a slice without room, and values below zero: bits of
all three registers and of an immediate value are in the word. -/
theorem pack_of_row_below_zero :
    let row := ["add", "rd, rs, rt", "1", "0", "1", "1", "rd[0:2]", "", "", "rs[1]", "Y", "y", "cond",
      "BCOND", "x", "rt[0:9]"].map fun s : String => Json.Value.text s
    let r : Rule := ⟨"ADD", "rd, rs, rt", .threeRegisters,
      [⟨15, 1, .fixed 1⟩, ⟨14, 1, .fixed 0⟩, ⟨13, 1, .fixed 1⟩, ⟨12, 1, .fixed 1⟩,
       ⟨9, 3, .slice "rd" 0 2⟩, ⟨8, 1, .registerBit "rs" 1⟩, ⟨6, 2, .immediate "Y"⟩,
       ⟨4, 2, .condition⟩, ⟨3, 1, .ignored⟩, ⟨0, 3, .slice "rt" 0 9⟩]⟩
    let v : Operands := { rd := -3, rs := 2, rt := -6, y := -2, cond := 9 }
    (ofRow? row).Gives (some r) [.sliceClamped "rt[0:9]" 2 10] ∧
      bit (r.pack v) 11 = bit (-3) 2 ∧ bit (r.pack v) 8 = bit 2 1 ∧ bit (r.pack v) 1 = bit (-6) 1 ∧
      bit (r.pack v) 7 = bit (-2) 1 ∧ bit (r.pack v) 15 = true ∧ bit (r.encode v) 15 = false ∧
      r.packChecked v = .ok (r.pack v) := by
  intro row r v
  have hgives : (ofRow? row).Gives (some r) [.sliceClamped "rt[0:9]" 2 10] := by decide +kernel
  obtain ⟨-, -, hbits, hencode, hchecked⟩ := pack_of_row hgives v
  have hrd := (hbits ⟨9, 3, .slice "rd" 0 2⟩ (by decide)).2 11 (by decide)
  have hrs := (hbits ⟨8, 1, .registerBit "rs" 1⟩ (by decide)).2 8 (by decide)
  have hrt := (hbits ⟨0, 3, .slice "rt" 0 9⟩ (by decide)).2 1 (by decide)
  have hy := (hbits ⟨6, 2, .immediate "Y"⟩ (by decide)).2 7 (by decide)
  have hfixed := (hbits ⟨15, 1, .fixed 1⟩ (by decide)).2 15 (by decide)
  exact ⟨hgives, hrd, hrs, hrt, hy, hfixed, hencode (by decide +kernel) 15, hchecked⟩

end Rule

end GridAsm
