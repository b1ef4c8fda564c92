import GridAsm.Proofs.LayoutStep

/-!
# The scan of a layout

A whole scan of the cells of a row is a chain of steps (`Scans`), each of which starts where the one
before it ended.  So its fields tile the word, every field has a run of its own cells or the width of
its slice, and only a slice without room leaves a notice.

The cells are counted by bits: `textAt cells i` is the cell of bit `i`, the same for all cells that
are left in a scan and for the whole row (`textAt_of_suffix`).
-/

namespace GridAsm.Layout

open Text

/-! ### Cells by bits -/

/-- The cell of a bit, where the last cell is that of bit zero. -/
def textAt (cells : List Text) (bit : Nat) : Text :=
  cells.reverse[bit]?.getD []

theorem textAt_cons_length (cell : Text) (next : List Text) :
    textAt (cell :: next) next.length = cell := by
  simp [textAt]

/-- The cells that are left have the bits that they had before. -/
theorem textAt_of_suffix {cells left : List Text} (h : left <:+ cells) {i : Nat}
    (hi : i < left.length) : textAt left i = textAt cells i := by
  obtain ⟨passed, rfl⟩ := h
  rw [textAt, textAt, List.reverse_append, List.getElem?_append_left (by simpa using hi)]

/-- The cells after the first one, from the highest bit down. -/
theorem textAt_cons_of_lt (cell : Text) {next : List Text} {i : Nat} (hi : i < next.length) :
    next[next.length - 1 - i]? = some (textAt (cell :: next) i) := by
  rw [← textAt_of_suffix (List.suffix_cons cell next) hi, textAt, List.getElem?_reverse hi,
    List.getElem?_eq_getElem (by omega), Option.getD_some]

/-! ### Runs -/

theorem continues_of_lt_runLength {p : Text → Bool} {next : List Text} {k : Nat} {c : Text}
    (hk : k < runLength p next) (hc : next[k]? = some c) : p c = true := by
  have hk' : k < (next.takeWhile p).length := hk
  have hprefix := (List.takeWhile_prefix p).getElem hk'
  obtain ⟨hlt, rfl⟩ := List.getElem?_eq_some_iff.mp hc
  rw [← hprefix]
  exact List.mem_takeWhile_imp (List.getElem_mem hk')

theorem not_continues_of_eq_runLength {p : Text → Bool} {next : List Text} {c : Text}
    (hc : next[runLength p next]? = some c) : p c = false := by
  induction next with
  | nil => simp [runLength] at hc
  | cons first rest ih =>
    cases hp : p first with
    | true => exact ih (by simpa [runLength, hp] using hc)
    | false =>
      obtain rfl : first = c := by simpa [runLength, hp] using hc
      exact hp

/-- A field whose cells all continue its run, and whose run ends where the field does. -/
structure IsRun (cells : List Text) (f : Field) : Prop where
  /-- All cells of the field continue the run. -/
  continues_of_covers : ∀ i, f.covers i → continues f.content (textAt cells i) = true
  /-- The cell after the field does not. -/
  not_continues_below : ∀ i, i + 1 = f.lsb → continues f.content (textAt cells i) = false

/-- A step over a run takes all of it and no more. -/
theorem isRun_of_fieldAt {cell : Text} {next : List Text} {f : Field} {ns : List Notice}
    (h : (fieldAt next.length cell next).Gives f ns) (hslice : wanted? f.content = none)
    (hself : continues f.content cell = true) : IsRun (cell :: next) f := by
  obtain ⟨hpos, htop⟩ := tile_of_fieldAt h
  obtain ⟨-, -, hwidth⟩ := fieldAt_spec h
  simp only [hslice] at hwidth
  -- Bit `i` is the cell at `next.length - 1 - i` after the first one, which has the highest bit.
  refine ⟨?_, ?_⟩
  · rintro i ⟨hlow, hhigh⟩
    by_cases hi : i < next.length
    · exact continues_of_lt_runLength (by omega) (textAt_cons_of_lt cell hi)
    · obtain rfl : i = next.length := by omega
      rwa [textAt_cons_length]
  · intro i hi
    have hlast := textAt_cons_of_lt cell (show i < next.length by omega)
    rw [show next.length - 1 - i = runLength (continues f.content) next by omega] at hlast
    exact not_continues_of_eq_runLength hlast

/-- The cell of an immediate value or of the condition starts its run. -/
theorem continues_of_symbol {cell : Text} {content : Content}
    (h : (symbol cell).content? = some content) (hrun : ∃ c, continues content c = true) :
    continues content cell = true := by
  obtain ⟨c, hc⟩ := hrun
  cases denotes_iff_symbol.mpr h with
  | immediate hname hspells => simpa [continues] using upper_of_immediate hname hspells
  | condition hspells => simpa [continues, isCondition] using hspells
  | _ => exact absurd hc Bool.false_ne_true

/-! ### Whole scans -/

/-- A scan of cells: one step after the other, each over the cells that are left. -/
inductive Scans : List Text → List Field → List Notice → Prop where
  /-- No cells are left. -/
  | nil : Scans [] [] []
  /-- A step, and a scan of the cells after its field. -/
  | cons {cell : Text} {next : List Text} {f : Field} {fields : List Field} {n ns : List Notice}
      (step : (fieldAt next.length cell next).Gives f n)
      (rest : Scans (next.drop (f.width - 1)) fields ns) :
      Scans (cell :: next) (f :: fields) (n ++ ns)

theorem scans_of_fieldsFrom {skip : Nat} {cells : List Text} {fields : List Field}
    {ns : List Notice} (h : (fieldsFrom skip cells).Gives fields ns) :
    Scans (cells.drop skip) fields ns := by
  induction cells generalizing skip fields ns with
  | nil =>
    rw [fieldsFrom] at h
    obtain ⟨rfl, rfl⟩ := Attempt.gives_pure.mp h
    rw [List.drop_nil]
    exact .nil
  | cons cell next ih =>
    cases skip with
    | succ skip => exact ih h
    | zero =>
      rw [fieldsFrom] at h
      obtain ⟨f, n₁, n₂, hstep, h₂, rfl⟩ := Attempt.gives_bind.mp h
      obtain ⟨rest, n₃, n₄, hrest, h₄, rfl⟩ := Attempt.gives_bind.mp h₂
      obtain ⟨rfl, rfl⟩ := Attempt.gives_pure.mp h₄
      rw [List.append_nil]
      exact .cons hstep (ih hrest)

theorem length_cellTexts (cells : List Json.Value) : (cellTexts cells).length = 16 := by
  simp only [cellTexts, bitsPerWord, List.length_append, List.length_map, List.length_take,
    List.length_replicate]
  omega

theorem scans_of_ofCells {cells : List Json.Value} {fields : List Field} {ns : List Notice}
    (h : (ofCells cells).Gives fields ns) : Scans (cellTexts cells) fields ns :=
  scans_of_fieldsFrom h

namespace Scans

variable {cells : List Text} {fields : List Field} {ns : List Notice}

/-- The cells that are left after a step are as many as the bits below its field. -/
theorem length_drop {cell : Text} {next : List Text} {f : Field} {n : List Notice}
    (step : (fieldAt next.length cell next).Gives f n) :
    (next.drop (f.width - 1)).length = f.lsb := by
  have := tile_of_fieldAt step
  rw [List.length_drop]
  omega

/-- The fields of a scan fill as many bits as there are cells. -/
theorem tiles (h : Scans cells fields ns) : Tiles cells.length fields := by
  induction h with
  | nil => rfl
  | cons step rest ih =>
    rw [length_drop step] at ih
    exact ⟨(tile_of_fieldAt step).1, (tile_of_fieldAt step).2, ih⟩

/-- Every field of a scan was read from its own cell and those after it. -/
theorem exists_fieldAt (h : Scans cells fields ns) {f : Field} (hf : f ∈ fields) :
    ∃ next n, textAt cells (f.lsb + f.width - 1) :: next <:+ cells ∧
      (fieldAt next.length (textAt cells (f.lsb + f.width - 1)) next).Gives f n := by
  induction h with
  | nil => exact absurd hf List.not_mem_nil
  | @cons cell next g fields n ns step rest ih =>
    rcases List.mem_cons.mp hf with rfl | hf
    · have hcell : textAt (cell :: next) (f.lsb + f.width - 1) = cell := by
        rw [(tile_of_fieldAt step).2, Nat.add_sub_cancel, textAt_cons_length]
      rw [hcell]
      exact ⟨next, n, List.suffix_refl _, step⟩
    · obtain ⟨next', n', hsuffix, hstep⟩ := ih hf
      have hleft : next.drop (g.width - 1) <:+ cell :: next :=
        (List.drop_suffix _ _).trans (List.suffix_cons _ _)
      have hbounds := rest.tiles.bounds hf
      rw [textAt_of_suffix hleft (by omega)] at hsuffix hstep
      exact ⟨next', n', hsuffix.trans hleft, hstep⟩

/-- Every field of a scan holds what its cell says. -/
theorem content?_symbol (h : Scans cells fields ns) {f : Field} (hf : f ∈ fields) :
    (symbol (textAt cells (f.lsb + f.width - 1))).content? = some f.content := by
  obtain ⟨next, n, -, hstep⟩ := h.exists_fieldAt hf
  exact (fieldAt_spec hstep).2.1

/-- Every field of a scan with a run has a run of its own cells. -/
theorem isRun (h : Scans cells fields ns) {f : Field} (hf : f ∈ fields)
    (hrun : ∃ c, continues f.content c = true) : IsRun cells f := by
  obtain ⟨next, n, hsuffix, hstep⟩ := h.exists_fieldAt hf
  -- Only immediate values and the condition have runs, and neither is a slice.
  have hslice : wanted? f.content = none := by
    obtain ⟨c, hc⟩ := hrun
    cases hcontent : f.content <;> rw [hcontent] at hc <;> first | rfl | exact nomatch hc
  have hself := continues_of_symbol (fieldAt_spec hstep).2.1 hrun
  have hlocal := isRun_of_fieldAt hstep hslice hself
  have htop := (tile_of_fieldAt hstep).2
  refine ⟨?_, ?_⟩
  · intro i hi
    rw [← textAt_of_suffix hsuffix (by have := hi.2; rw [List.length_cons]; omega)]
    exact hlocal.continues_of_covers i hi
  · intro i hi
    rw [← textAt_of_suffix hsuffix (by rw [List.length_cons]; omega)]
    exact hlocal.not_continues_below i hi

/-- A field that is neither a slice nor a run has one bit. -/
theorem width_eq_one (h : Scans cells fields ns) {f : Field} (hf : f ∈ fields)
    (hslice : wanted? f.content = none) (hrun : ∀ c, continues f.content c = false) :
    f.width = 1 := by
  obtain ⟨next, n, -, hstep⟩ := h.exists_fieldAt hf
  have hwidth := (fieldAt_spec hstep).2.2
  simp only [hslice] at hwidth
  rw [hwidth.1, show continues f.content = fun _ => false from funext hrun, runLength_false]

/-- A slice has the bits that it asks for, or all that are left. -/
theorem width_eq_min (h : Scans cells fields ns) {f : Field} (hf : f ∈ fields) {wanted : Nat}
    (hslice : wanted? f.content = some wanted) : f.width = min wanted (f.lsb + f.width) := by
  obtain ⟨next, n, -, hstep⟩ := h.exists_fieldAt hf
  have hwidth := (fieldAt_spec hstep).2.2
  simp only [hslice] at hwidth
  rw [(tile_of_fieldAt hstep).2]
  exact hwidth.1

/-- A scan leaves no notice if every slice has room. -/
theorem notices_eq_nil (h : Scans cells fields ns)
    (hroom : ∀ f ∈ fields, ∀ wanted, wanted? f.content = some wanted →
      wanted ≤ f.lsb + f.width) : ns = [] := by
  induction h with
  | nil => rfl
  | @cons cell next f fields n ns step rest ih =>
    have hn : n = [] := by
      rw [notices_of_fieldAt step]
      split
      · rename_i wanted hwanted
        have := hroom f (List.mem_cons_self ..) wanted hwanted
        rw [(tile_of_fieldAt step).2] at this
        rw [clampNotices, if_neg (by omega)]
      · rfl
    rw [hn, ih fun g hg => hroom g (List.mem_cons_of_mem _ hg)]
    rfl

/-- A slice without room takes all bits that are left, and its notice is the only one. -/
theorem notices_of_clamped (h : Scans cells fields ns) {f : Field} (hf : f ∈ fields) {wanted : Nat}
    (hslice : wanted? f.content = some wanted) (hlarge : f.lsb + f.width < wanted) :
    ns = [.sliceClamped (textAt cells (f.lsb + f.width - 1)) (f.lsb + f.width - 1) wanted] := by
  induction h with
  | nil => exact absurd hf List.not_mem_nil
  | @cons cell next g fields n ns step rest ih =>
    have hscan : Scans (cell :: next) (g :: fields) (n ++ ns) := .cons step rest
    have htop := (tile_of_fieldAt step).2
    have hlsb : f.lsb = 0 := by
      have := hscan.width_eq_min hf hslice
      omega
    rcases List.mem_cons.mp hf with rfl | hf'
    · -- No cells are left after the slice.
      have hlength := length_drop step
      rw [hlsb, List.length_eq_zero_iff] at hlength
      rw [hlength] at rest
      cases rest
      rw [notices_of_fieldAt step, hslice, htop, Nat.add_sub_cancel, textAt_cons_length]
      simp only [clampNotices, if_pos (htop ▸ hlarge), List.append_nil]
    · -- The first field leaves cells, so it leaves no notice.
      have hbounds := rest.tiles.bounds hf'
      rw [length_drop step] at hbounds
      have hleft : next.drop (g.width - 1) <:+ cell :: next :=
        (List.drop_suffix _ _).trans (List.suffix_cons _ _)
      have hn : n = [] := by
        rw [notices_of_fieldAt step]
        split
        · rename_i wanted' hwanted'
          have := hscan.width_eq_min (List.mem_cons_self ..) hwanted'
          rw [clampNotices, if_neg (by omega)]
        · rfl
      rw [hn, ih hf', textAt_of_suffix hleft (by rw [length_drop step]; omega)]
      rfl

end Scans

/-! ### Rows -/

/-- The cell of a bit in a row: the cell at column `15 - bit`, blank if it is missing. -/
def cellAt (cells : List Json.Value) (bit : Nat) : Text :=
  (cells[15 - bit]?.map Json.Value.cellText).getD ""

theorem textAt_cellTexts (cells : List Json.Value) {bit : Nat} (h : bit < 16) :
    textAt (cellTexts cells) bit = cellAt cells bit := by
  have hlen := length_cellTexts cells
  rw [textAt, cellAt, List.getElem?_reverse (by omega), hlen]
  simp only [cellTexts, bitsPerWord]
  by_cases hcell : 15 - bit < cells.length
  · rw [List.getElem?_append_left (by simp; omega), List.getElem?_map,
      List.getElem?_take_of_lt (by omega)]
    rfl
  · rw [List.getElem?_append_right (by simp; omega), List.getElem?_eq_none (by omega : _ ≤ 15 - bit),
      List.getElem?_replicate]
    split <;> rfl

section

variable {cells : List Json.Value} {fields : List Field} {notices : List Notice} {f : Field}

/-- The fields of a row fill the sixteen bits of a word. -/
theorem tiles_of_ofCells (h : (ofCells cells).Gives fields notices) : Tiles 16 fields := by
  have := (scans_of_ofCells h).tiles
  rwa [length_cellTexts] at this

/-- The cells of a field and those after it are the row's own. -/
theorem textAt_of_ofCells (h : (ofCells cells).Gives fields notices) (hf : f ∈ fields) {i : Nat}
    (hi : i < f.lsb + f.width) : textAt (cellTexts cells) i = cellAt cells i := by
  have := ((tiles_of_ofCells h).bounds hf).2
  exact textAt_cellTexts cells (by omega)

/-- The cell of a field is that of its highest bit. -/
theorem textAt_msb_of_ofCells (h : (ofCells cells).Gives fields notices) (hf : f ∈ fields) :
    textAt (cellTexts cells) (f.lsb + f.width - 1) = cellAt cells f.msb.toNat ∧
      f.lsb + f.width - 1 = f.msb.toNat := by
  have hpos := ((tiles_of_ofCells h).bounds hf).1
  have hmsb : f.lsb + f.width - 1 = f.msb.toNat := by
    rw [Field.msb]
    omega
  rw [textAt_of_ofCells h hf (by omega), hmsb]
  exact ⟨rfl, rfl⟩

/-- A field of a row holds what its cell denotes, and nothing else. -/
theorem denotes_iff_of_ofCells (h : (ofCells cells).Gives fields notices) (hf : f ∈ fields)
    (content : Content) : Denotes (cellAt cells f.msb.toNat) content ↔ content = f.content := by
  rw [denotes_iff_symbol, ← (textAt_msb_of_ofCells h hf).1, (scans_of_ofCells h).content?_symbol hf,
    Option.some.injEq, eq_comm]

/-- A field with a run holds the run's cells, and the cell after them is none of them. -/
theorem continues_of_ofCells (h : (ofCells cells).Gives fields notices) (hf : f ∈ fields)
    (hrun : ∃ c, continues f.content c = true) :
    (∀ i, f.covers i → continues f.content (cellAt cells i) = true) ∧
      ∀ i, i + 1 = f.lsb → continues f.content (cellAt cells i) = false := by
  obtain ⟨hcovers, hbelow⟩ := (scans_of_ofCells h).isRun hf hrun
  refine ⟨?_, ?_⟩
  · intro i hi
    rw [← textAt_of_ofCells h hf hi.2]
    exact hcovers i hi
  · intro i hi
    rw [← textAt_of_ofCells h hf (by omega)]
    exact hbelow i hi

/-- A slice has the bits between its numbers, or all that are left, and then its notice is the only
one. -/
theorem slice_of_ofCells (h : (ofCells cells).Gives fields notices) (hf : f ∈ fields)
    {register : Text} {hi lo : Int} (hslice : f.content = .slice register hi lo) :
    if ((hi - lo).natAbs + 1 : Int) ≤ f.msb + 1 then f.width = (hi - lo).natAbs + 1
    else (f.width : Int) = f.msb + 1 ∧ fields.getLast? = some f ∧
      notices = [.sliceClamped (cellAt cells f.msb.toNat) f.msb.toNat ((hi - lo).natAbs + 1)] := by
  have hscan := scans_of_ofCells h
  have hwanted : wanted? f.content = some ((hi - lo).natAbs + 1) := by rw [hslice]; rfl
  have hwidth := hscan.width_eq_min hf hwanted
  have hmsb : f.msb = f.lsb + f.width - 1 := rfl
  split_ifs with hroom
  · omega
  · -- The slice takes all that is left, so it ends at bit zero.
    have hlast := (tiles_of_ofCells h).getLast?_eq_of_lsb_eq_zero hf (by omega)
    obtain ⟨hcell, hbit⟩ := textAt_msb_of_ofCells h hf
    refine ⟨by omega, hlast, ?_⟩
    rw [hscan.notices_of_clamped hf hwanted (by omega), hcell, hbit]

end

/-- **The layout of a row.**  A row has a layout unless one of its cells is too long.  The fields lie
one below the other from bit fifteen to bit zero and have sixteen bits together.  Every field holds
what the cell of its highest bit denotes.  All cells of an immediate value or of the condition say
the same, and the cell after them does not.  A slice has the bits between its two numbers, or it is
the last field and has all bits that are left; its notice is then the only one, and without such a
slice there is none. -/
theorem ofCells_layout (cells : List Json.Value) :
    ((∀ cell ∈ cells, cell.cellText.length ≤ digitLimit) → (ofCells cells).Succeeds) ∧
    ∀ fields notices, (ofCells cells).Gives fields notices →
      (fields ≠ [] ∧ fields.head?.map Field.msb = some 15 ∧
        fields.IsChain (fun f g => g.msb = (f.lsb : Int) - 1) ∧
        fields.getLast?.map Field.lsb = some 0 ∧ (∀ f ∈ fields, 1 ≤ f.width) ∧
        (fields.map Field.width).sum = 16) ∧
      (∀ f ∈ fields, ∀ content,
        Denotes (cellAt cells f.msb.toNat) content ↔ content = f.content) ∧
      (∀ f ∈ fields, (f.content = .ignored ∨ (∃ value, f.content = .fixed value) ∨
        ∃ register n, f.content = .registerBit register n) → f.width = 1) ∧
      (∀ f ∈ fields, ∀ name, f.content = .immediate name →
        (∀ i, f.covers i → upper (cellAt cells i) = name) ∧
        ∀ i, i + 1 = f.lsb → upper (cellAt cells i) ≠ name) ∧
      (∀ f ∈ fields, f.content = .condition →
        (∀ i, f.covers i → spells "cond" (cellAt cells i) ∨ spells "bcond" (cellAt cells i)) ∧
        ∀ i, i + 1 = f.lsb →
          ¬(spells "cond" (cellAt cells i) ∨ spells "bcond" (cellAt cells i))) ∧
      (∀ f ∈ fields, ∀ register hi lo, f.content = .slice register hi lo →
        if ((hi - lo).natAbs + 1 : Int) ≤ f.msb + 1 then f.width = (hi - lo).natAbs + 1
        else (f.width : Int) = f.msb + 1 ∧ fields.getLast? = some f ∧
          notices =
            [.sliceClamped (cellAt cells f.msb.toNat) f.msb.toNat ((hi - lo).natAbs + 1)]) ∧
      ((∀ f ∈ fields, ∀ register hi lo, f.content = .slice register hi lo →
        ((hi - lo).natAbs + 1 : Int) ≤ f.msb + 1) → notices = []) := by
  refine ⟨ofCells_succeeds, fun fields notices h => ?_⟩
  have hscan := scans_of_ofCells h
  have htiles := tiles_of_ofCells h
  refine ⟨⟨?_, htiles.head?_msb (by decide), htiles.isChain, htiles.getLast?_lsb (by decide),
    fun f hf => (htiles.bounds hf).1, htiles.sum_width⟩,
    fun f hf => denotes_iff_of_ofCells h hf, ?_, ?_, ?_,
    fun f hf register hi lo hslice => slice_of_ofCells h hf hslice, ?_⟩
  · rintro rfl
    exact nomatch htiles
  · intro f hf hsingle
    apply hscan.width_eq_one hf
    · rcases hsingle with h | ⟨value, h⟩ | ⟨register, n, h⟩ <;> rw [h] <;> rfl
    · intro c
      rcases hsingle with h | ⟨value, h⟩ | ⟨register, n, h⟩ <;> rw [h] <;> rfl
  · intro f hf name hname
    have hupper := upper_of_denotes ((denotes_iff_of_ofCells h hf _).mpr hname.symm)
    have hrun := continues_of_ofCells h hf
      ⟨cellAt cells f.msb.toNat, by simp [hname, continues, hupper]⟩
    simpa [hname, continues] using hrun
  · intro f hf hcondition
    have hrun := continues_of_ofCells h hf ⟨"cond", by rw [hcondition]; decide +kernel⟩
    simpa [hcondition, continues, isCondition] using hrun
  · intro hroom
    apply hscan.notices_eq_nil
    intro f hf wanted hwanted
    obtain ⟨register, hi, lo, hcontent, rfl⟩ := exists_slice_of_wanted? hwanted
    have hfits := hroom f hf register hi lo hcontent
    rw [Field.msb] at hfits
    omega

/-- A row of seven cells: the run of `Y` ends at the condition, the blank cell between is ignored,
and the slice at bit nine asks for more than the ten bits that are left. -/
theorem ofCells_layout_of_clamped_row :
    let cells := ["1", "y", "Y", "BCOND", "cond", " ", "RT[ 0:11 ]"].map fun s : String =>
      Json.Value.text s
    let fields : List Field := [⟨15, 1, .fixed 1⟩, ⟨13, 2, .immediate "Y"⟩, ⟨11, 2, .condition⟩,
      ⟨10, 1, .ignored⟩, ⟨0, 10, .slice "rt" 0 11⟩]
    let notices := [Notice.sliceClamped "RT[ 0:11 ]" 9 12]
    (ofCells cells).Succeeds ∧ (ofCells cells).Gives fields notices ∧
      (fields.map Field.width).sum = 16 ∧
      ∀ content, Denotes "RT[ 0:11 ]" content ↔ content = .slice "rt" 0 11 := by
  intro cells fields notices
  have hgives : (ofCells cells).Gives fields notices := by decide +kernel
  have hsucceeds := (ofCells_layout cells).1 (by decide +kernel)
  obtain ⟨⟨-, -, -, -, -, hsum⟩, hdenotes, -⟩ := (ofCells_layout cells).2 fields notices hgives
  exact ⟨hsucceeds, hgives, hsum, hdenotes ⟨0, 10, .slice "rt" 0 11⟩ (by simp [fields])⟩

end GridAsm.Layout
