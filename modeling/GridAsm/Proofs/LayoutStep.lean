import GridAsm.Layout
import GridAsm.Proofs.Cell
import GridAsm.Proofs.Field
import GridAsm.Proofs.Notice

/-!
# The steps of a layout

`Layout.ofCells` reads the cells of a row from the highest bit down, one field after the other.  What
one step can do is said once (`fieldAt_spec`): the field holds what its cell denotes, and it is as
wide as its run, or as its slice if there is room for it.

A step succeeds unless a number of its cell is too long (`TooLong`, `fieldAt_succeeds_iff`), and the
scan of a row unless it gets to such a cell (`Overruns`, `fieldsFrom_succeeds_iff`).  It does not get
to the cells that a slice covers, and a run covers none with numbers.  No cell with fewer characters
than a number may have digits is too long (`Overruns.exists_long`).
-/

namespace GridAsm.Layout

open Text

/-! ### Symbols with digits -/

/-- A slice is read from no other cells than those that are one. -/
theorem isSliceCell_of_symbol {cell register hi lo : Text}
    (h : symbol cell = .slice register hi lo) : IsSliceCell cell register hi lo := by
  cases hregister : registerSymbol? cell with
  | some s =>
    rw [symbol_of_registerSymbol? hregister] at h
    rw [← registerSymbol?_eq_slice_iff, hregister, h]
  | none =>
    rw [symbol, hregister] at h
    split_ifs at h

/-- One bit is read from no other cells than those that are one. -/
theorem isBitCell_of_symbol {cell register n : Text} (h : symbol cell = .registerBit register n) :
    IsBitCell cell register n := by
  cases hregister : registerSymbol? cell with
  | some s =>
    rw [symbol_of_registerSymbol? hregister] at h
    rw [← registerSymbol?_eq_bit_iff, hregister, h]
  | none =>
    rw [symbol, hregister] at h
    split_ifs at h

/-- The number of digits that were read is their positional value. -/
theorem numeral?_of_number {digits : Text} (hd : IsDigits digits) {n : Nat}
    (h : number digits = .ok n) : numeral? 10 digitValue? digits = some n := by
  obtain ⟨m, hm⟩ := Option.isSome_iff_exists.mp hd.numeral?_isSome
  rw [number] at h
  split_ifs at h
  rw [hm, Option.getD_some] at h
  rw [hm, Except.ok.inj h]

/-! ### One step -/

/-- Whether a cell continues the run of a field. -/
def continues : Content → Text → Bool
  | .immediate name, cell => upper cell = name
  | .condition, cell => isCondition cell
  | _, _ => false

/-- The number of bits that a slice asks for. -/
def wanted? : Content → Option Nat
  | .slice _ hi lo => some ((hi - lo).natAbs + 1)
  | _ => none

/-- Only a slice asks for a number of bits. -/
theorem exists_slice_of_wanted? {content : Content} {wanted : Nat}
    (h : wanted? content = some wanted) :
    ∃ register hi lo, content = .slice register hi lo ∧ wanted = (hi - lo).natAbs + 1 := by
  cases content with
  | slice register hi lo => exact ⟨register, hi, lo, rfl, (Option.some.inj h).symm⟩
  | _ => exact nomatch h

/-- The notice of a slice that asks for more bits than are left below `bit` and at it. -/
def clampNotices (cell : Text) (bit wanted : Nat) : List Notice :=
  if bit + 1 < wanted then [.sliceClamped cell bit wanted] else []

theorem runLength_false (next : List Text) : runLength (fun _ => false) next = 0 := by
  cases next <;> rfl

theorem runLength_le (p : Text → Bool) (next : List Text) : runLength p next ≤ next.length :=
  List.Sublist.length_le (List.takeWhile_sublist p)

/-- The width of a slice is what it asks for or what is left. -/
theorem sliceWidth_gives {cell : Text} {bit hi lo width : Nat} {ns : List Notice}
    (h : (sliceWidth cell bit hi lo).Gives width ns) :
    width = min (((hi : Int) - lo).natAbs + 1) (bit + 1) ∧
      ns = clampNotices cell bit (((hi : Int) - lo).natAbs + 1) := by
  have hspan : span hi lo = ((hi : Int) - lo).natAbs + 1 := by
    rw [span]
    omega
  rw [sliceWidth, hspan] at h
  simp only [clampNotices]
  split_ifs at h with hlt hlong
  · exact absurd h Attempt.not_gives_throw
  · obtain ⟨_, n₁, n₂, h₁, h₂, rfl⟩ := Attempt.gives_bind.mp h
    obtain rfl := Attempt.gives_note.mp h₁
    obtain ⟨rfl, rfl⟩ := Attempt.gives_pure.mp h₂
    rw [if_pos hlt]
    exact ⟨by omega, rfl⟩
  · obtain ⟨rfl, rfl⟩ := Attempt.gives_pure.mp h
    rw [if_neg hlt]
    exact ⟨by omega, rfl⟩

/-- What one step of the scan gives: a field that ends at `bit` and holds what its cell denotes.  A
slice is as wide as it asks or as there is room, with a notice in the second case.  Any other field
is as wide as its run. -/
theorem fieldAt_spec {bit : Nat} {cell : Text} {next : List Text} {f : Field} {ns : List Notice}
    (h : (fieldAt bit cell next).Gives f ns) :
    f.lsb = bit + 1 - f.width ∧ (symbol cell).content? = some f.content ∧
      match wanted? f.content with
      | some wanted => f.width = min wanted (bit + 1) ∧ ns = clampNotices cell bit wanted
      | none => f.width = 1 + runLength (continues f.content) next ∧ ns = [] := by
  -- No cell continues a field without a run, so that a single bit is a run of its own length.
  have hsingle : 1 = 1 + runLength (fun _ => false) next := by rw [runLength_false]
  simp only [fieldAt] at h
  split at h
  case h_1 hs =>
    obtain ⟨rfl, rfl⟩ := Attempt.gives_pure.mp h
    exact ⟨rfl, by rw [hs]; rfl, hsingle, rfl⟩
  case h_2 value hs =>
    obtain ⟨rfl, rfl⟩ := Attempt.gives_pure.mp h
    exact ⟨rfl, by rw [hs]; rfl, hsingle, rfl⟩
  case h_3 register hi lo hs =>
    obtain ⟨m, n₁, n₂, hm, h₂, rfl⟩ := Attempt.gives_bind.mp h
    obtain ⟨n, n₃, n₄, hn, h₄, rfl⟩ := Attempt.gives_bind.mp h₂
    obtain ⟨width, n₅, n₆, hwidth, h₆, rfl⟩ := Attempt.gives_bind.mp h₄
    obtain ⟨hm', rfl⟩ := Attempt.gives_liftExcept.mp hm
    obtain ⟨hn', rfl⟩ := Attempt.gives_liftExcept.mp hn
    obtain ⟨rfl, rfl⟩ := Attempt.gives_pure.mp h₆
    obtain ⟨rfl, rfl⟩ := sliceWidth_gives hwidth
    -- The cell has digits where `number` read them, so `numeral?` gives the same numbers.
    obtain ⟨_, _, _, _, _, _, _, _, hhi, hlo, -⟩ := isSliceCell_of_symbol hs
    refine ⟨rfl, ?_, rfl, by simp⟩
    rw [hs, Symbol.content?, numeral?_of_number hhi hm', numeral?_of_number hlo hn']
    rfl
  case h_4 register digits hs =>
    obtain ⟨n, n₁, n₂, hn, h₂, rfl⟩ := Attempt.gives_bind.mp h
    obtain ⟨hn', rfl⟩ := Attempt.gives_liftExcept.mp hn
    obtain ⟨rfl, rfl⟩ := Attempt.gives_pure.mp h₂
    obtain ⟨_, _, _, _, _, _, hdigits, -⟩ := isBitCell_of_symbol hs
    refine ⟨rfl, ?_, hsingle, rfl⟩
    rw [hs, Symbol.content?, numeral?_of_number hdigits hn']
    rfl
  case h_5 name hs =>
    obtain ⟨rfl, rfl⟩ := Attempt.gives_pure.mp h
    exact ⟨rfl, by rw [hs]; rfl, rfl, rfl⟩
  case h_6 hs =>
    obtain ⟨rfl, rfl⟩ := Attempt.gives_pure.mp h
    exact ⟨rfl, by rw [hs]; rfl, rfl, rfl⟩

/-- A step ends at the bit that it started with. -/
theorem tile_of_fieldAt {cell : Text} {next : List Text} {f : Field} {ns : List Notice}
    (h : (fieldAt next.length cell next).Gives f ns) :
    0 < f.width ∧ f.lsb + f.width = next.length + 1 := by
  obtain ⟨hlsb, -, hwidth⟩ := fieldAt_spec h
  split at hwidth
  case h_1 wanted hwanted =>
    obtain ⟨register, hi, lo, -, rfl⟩ := exists_slice_of_wanted? hwanted
    omega
  case h_2 =>
    have := runLength_le (continues f.content) next
    omega

/-- The notices of one step. -/
theorem notices_of_fieldAt {cell : Text} {next : List Text} {f : Field} {n : List Notice}
    (step : (fieldAt next.length cell next).Gives f n) :
    n = match wanted? f.content with
      | some wanted => clampNotices cell next.length wanted
      | none => [] := by
  have hspec := (fieldAt_spec step).2.2
  split at hspec <;> exact hspec.2

/-! ### Steps that succeed -/

theorem symbol_of_isSliceCell {cell register hi lo : Text} (h : IsSliceCell cell register hi lo) :
    symbol cell = .slice register hi lo :=
  symbol_of_registerSymbol? (registerSymbol?_eq_slice_iff.mpr h)

theorem symbol_of_isBitCell {cell register n : Text} (h : IsBitCell cell register n) :
    symbol cell = .registerBit register n :=
  symbol_of_registerSymbol? (registerSymbol?_eq_bit_iff.mpr h)

/-- A cell has a number that is too long: in its digits, or in the warning that there are fewer bits
left than it asks for. -/
inductive TooLong (bit : Nat) (cell : Text) : Prop where
  /-- A slice with a number of too many digits. -/
  | slice {register hi lo : Text} (hcell : IsSliceCell cell register hi lo)
      (hlong : digitLimit < hi.length ∨ digitLimit < lo.length)
  /-- One bit of a register, with a number of too many digits. -/
  | registerBit {register n : Text} (hcell : IsBitCell cell register n)
      (hlong : digitLimit < n.length)
  /-- A slice that asks for more bits than are left, and for so many that they cannot be written. -/
  | width {register hi lo : Text} {m n : Nat} (hcell : IsSliceCell cell register hi lo)
      (hhi : numeral? 10 digitValue? hi = some m) (hlo : numeral? 10 digitValue? lo = some n)
      (hroom : bit < ((m : Int) - n).natAbs) (hlong : writingLimit ≤ ((m : Int) - n).natAbs + 1)

/-- Digits are read if they are within the limit. -/
theorem number_eq_ok_iff {digits : Text} (hd : IsDigits digits) {n : Nat} :
    number digits = .ok n ↔
      digits.length ≤ digitLimit ∧ numeral? 10 digitValue? digits = some n := by
  constructor
  · intro h
    refine ⟨?_, numeral?_of_number hd h⟩
    rw [number] at h
    split_ifs at h with hlimit
    exact Nat.le_of_not_lt hlimit
  · rintro ⟨hlimit, hn⟩
    rw [number, if_neg (Nat.not_lt_of_le hlimit), hn, Option.getD_some]

theorem exists_number_eq_ok {digits : Text} (hd : IsDigits digits)
    (hlimit : digits.length ≤ digitLimit) :
    ∃ n, number digits = .ok n ∧ numeral? 10 digitValue? digits = some n := by
  obtain ⟨n, hn⟩ := Option.isSome_iff_exists.mp hd.numeral?_isSome
  exact ⟨n, (number_eq_ok_iff hd).mpr ⟨hlimit, hn⟩, hn⟩

/-- A slice has a width unless the number of its bits is to be written, and is too long. -/
theorem sliceWidth_succeeds_iff {cell : Text} {bit hi lo : Nat} :
    (sliceWidth cell bit hi lo).Succeeds ↔
      ¬ (bit < ((hi : Int) - lo).natAbs ∧ writingLimit ≤ ((hi : Int) - lo).natAbs + 1) := by
  have hspan : span hi lo = ((hi : Int) - lo).natAbs + 1 := by
    rw [span]
    omega
  rw [sliceWidth, hspan]
  simp only [Nat.add_lt_add_iff_right]
  split_ifs with hroom hlong
  · refine iff_of_false ?_ (not_not_intro ⟨hroom, hlong⟩)
    rintro ⟨width, ns, h⟩
    exact Attempt.not_gives_throw h
  · exact iff_of_true (Attempt.succeeds_note_bind (Attempt.succeeds_pure _)) fun h => hlong h.2
  · exact iff_of_true (Attempt.succeeds_pure _) fun h => hroom h.1

/-- A step over a slice succeeds if both numbers are read and the slice has a width. -/
theorem fieldAt_succeeds_iff_of_slice {bit : Nat} {cell register hi lo : Text} {next : List Text}
    (hcell : IsSliceCell cell register hi lo) :
    (fieldAt bit cell next).Succeeds ↔
      hi.length ≤ digitLimit ∧ lo.length ≤ digitLimit ∧
        ∀ m n, numeral? 10 digitValue? hi = some m → numeral? 10 digitValue? lo = some n →
          (sliceWidth cell bit m n).Succeeds := by
  obtain ⟨_, _, _, _, _, _, _, _, hdhi, hdlo, -⟩ := id hcell
  simp only [fieldAt, symbol_of_isSliceCell hcell]
  constructor
  · rintro ⟨f, ns, h⟩
    obtain ⟨m, _, _, hm, h, -⟩ := Attempt.gives_bind.mp h
    obtain ⟨n, _, _, hn, h, -⟩ := Attempt.gives_bind.mp h
    obtain ⟨width, _, _, hwidth, -, -⟩ := Attempt.gives_bind.mp h
    obtain ⟨hlhi, hhi⟩ := (number_eq_ok_iff hdhi).mp (Attempt.gives_liftExcept.mp hm).1
    obtain ⟨hllo, hlo⟩ := (number_eq_ok_iff hdlo).mp (Attempt.gives_liftExcept.mp hn).1
    refine ⟨hlhi, hllo, fun m' n' hhi' hlo' => ?_⟩
    obtain rfl : m = m' := Option.some.inj (hhi.symm.trans hhi')
    obtain rfl : n = n' := Option.some.inj (hlo.symm.trans hlo')
    exact ⟨width, _, hwidth⟩
  · rintro ⟨hlhi, hllo, hwidth⟩
    obtain ⟨m, hm, hhi⟩ := exists_number_eq_ok hdhi hlhi
    obtain ⟨n, hn, hlo⟩ := exists_number_eq_ok hdlo hllo
    obtain ⟨width, ns, hgives⟩ := hwidth m n hhi hlo
    refine (Attempt.gives_liftExcept.mpr ⟨hm, rfl⟩).succeeds_bind ?_
    refine (Attempt.gives_liftExcept.mpr ⟨hn, rfl⟩).succeeds_bind ?_
    exact hgives.succeeds_bind (Attempt.succeeds_pure _)

theorem fieldAt_succeeds_iff_of_bit {bit : Nat} {cell register n : Text} {next : List Text}
    (hcell : IsBitCell cell register n) :
    (fieldAt bit cell next).Succeeds ↔ n.length ≤ digitLimit := by
  obtain ⟨_, _, _, _, _, _, hdigits, -⟩ := id hcell
  simp only [fieldAt, symbol_of_isBitCell hcell, Attempt.succeeds_bind_pure_iff]
  constructor
  · rintro ⟨m, ns, h⟩
    exact ((number_eq_ok_iff hdigits).mp (Attempt.gives_liftExcept.mp h).1).1
  · intro hlimit
    obtain ⟨m, hm, -⟩ := exists_number_eq_ok hdigits hlimit
    exact ⟨m, [], Attempt.gives_liftExcept.mpr ⟨hm, rfl⟩⟩

/-- A step over a cell without brackets reads no number. -/
theorem fieldAt_succeeds_of_no_number {bit : Nat} {cell : Text} {next : List Text}
    (hslice : ∀ register hi lo, ¬ IsSliceCell cell register hi lo)
    (hbit : ∀ register n, ¬ IsBitCell cell register n) : (fieldAt bit cell next).Succeeds := by
  simp only [fieldAt]
  split
  case h_3 register hi lo hs => exact absurd (isSliceCell_of_symbol hs) (hslice _ _ _)
  case h_4 register n hs => exact absurd (isBitCell_of_symbol hs) (hbit _ _)
  all_goals exact Attempt.succeeds_pure _

/-- A step succeeds unless the numbers of its cell are too long. -/
theorem fieldAt_succeeds_iff {bit : Nat} {cell : Text} {next : List Text} :
    (fieldAt bit cell next).Succeeds ↔ ¬ TooLong bit cell := by
  constructor
  · intro hsucceeds hlong
    cases hlong with
    | slice hcell hlong =>
      obtain ⟨hhi, hlo, -⟩ := (fieldAt_succeeds_iff_of_slice hcell).mp hsucceeds
      omega
    | registerBit hcell hlong =>
      have := (fieldAt_succeeds_iff_of_bit hcell).mp hsucceeds
      omega
    | width hcell hhi hlo hroom hlong =>
      obtain ⟨-, -, hwidth⟩ := (fieldAt_succeeds_iff_of_slice hcell).mp hsucceeds
      exact sliceWidth_succeeds_iff.mp (hwidth _ _ hhi hlo) ⟨hroom, hlong⟩
  · intro hshort
    by_cases hslice : ∃ register hi lo, IsSliceCell cell register hi lo
    · obtain ⟨register, hi, lo, hcell⟩ := hslice
      refine (fieldAt_succeeds_iff_of_slice hcell).mpr ⟨?_, ?_, fun m n hhi hlo => ?_⟩
      · exact Nat.le_of_not_lt fun hlong => hshort (.slice hcell (.inl hlong))
      · exact Nat.le_of_not_lt fun hlong => hshort (.slice hcell (.inr hlong))
      · exact sliceWidth_succeeds_iff.mpr fun h => hshort (.width hcell hhi hlo h.1 h.2)
    · by_cases hbit : ∃ register n, IsBitCell cell register n
      · obtain ⟨register, n, hcell⟩ := hbit
        refine (fieldAt_succeeds_iff_of_bit hcell).mpr ?_
        exact Nat.le_of_not_lt fun hlong => hshort (.registerBit hcell hlong)
      · exact fieldAt_succeeds_of_no_number (fun _ _ _ h => hslice ⟨_, _, _, h⟩)
          (fun _ _ h => hbit ⟨_, _, h⟩)

/-! ### Scans that succeed -/

/-- Cells with a number that is too long where the scan gets to.  It goes from a slice to the cell
after its bits, and from any other cell to the next one. -/
inductive Overruns : List Text → Prop where
  /-- The number is in the first cell. -/
  | here {cell : Text} {next : List Text} (h : TooLong next.length cell) : Overruns (cell :: next)
  /-- The number is after the bits of a slice. -/
  | afterSlice {cell register hi lo : Text} {m n : Nat} {next : List Text}
      (hcell : IsSliceCell cell register hi lo) (hhi : numeral? 10 digitValue? hi = some m)
      (hlo : numeral? 10 digitValue? lo = some n)
      (h : Overruns (next.drop ((m : Int) - n).natAbs)) : Overruns (cell :: next)
  /-- The number is after a cell that is no slice. -/
  | after {cell : Text} {next : List Text}
      (hcell : ∀ register hi lo, ¬ IsSliceCell cell register hi lo) (h : Overruns next) :
      Overruns (cell :: next)

theorem not_overruns_nil : ¬ Overruns [] := nofun

/-- After a slice that is not too long, the scan goes on after its bits. -/
theorem overruns_cons_iff_of_slice {cell register hi lo : Text} {m n : Nat} {next : List Text}
    (hcell : IsSliceCell cell register hi lo) (hhi : numeral? 10 digitValue? hi = some m)
    (hlo : numeral? 10 digitValue? lo = some n) (hshort : ¬ TooLong next.length cell) :
    Overruns (cell :: next) ↔ Overruns (next.drop ((m : Int) - n).natAbs) := by
  refine ⟨fun h => ?_, .afterSlice hcell hhi hlo⟩
  cases h with
  | here h => exact absurd h hshort
  | afterSlice hcell' hhi' hlo' h =>
    -- A cell is a slice in one way only.
    have hsame := (symbol_of_isSliceCell hcell).symm.trans (symbol_of_isSliceCell hcell')
    injection hsame with _ hhi'' hlo''
    subst hhi'' hlo''
    obtain rfl := Option.some.inj (hhi.symm.trans hhi')
    obtain rfl := Option.some.inj (hlo.symm.trans hlo')
    exact h
  | after h _ => exact absurd hcell (h _ _ _)

/-- After any other cell that is not too long, it goes on with the next one. -/
theorem overruns_cons_iff_of_not_slice {cell : Text} {next : List Text}
    (hcell : ∀ register hi lo, ¬ IsSliceCell cell register hi lo)
    (hshort : ¬ TooLong next.length cell) : Overruns (cell :: next) ↔ Overruns next := by
  refine ⟨fun h => ?_, .after hcell⟩
  cases h with
  | here h => exact absurd h hshort
  | afterSlice h _ _ _ => exact absurd h (hcell _ _ _)
  | after _ h => exact h

theorem bracket_mem_of_isSliceCell {cell register hi lo : Text}
    (h : IsSliceCell cell register hi lo) : CodePoint.char '[' ∈ cell := by
  obtain ⟨name, a, b, c, d, e, -, -, -, -, -, rfl⟩ := h
  simp [ofString, ofChars]

theorem bracket_mem_of_isBitCell {cell register n : Text} (h : IsBitCell cell register n) :
    CodePoint.char '[' ∈ cell := by
  obtain ⟨name, a, b, c, -, -, -, -, rfl⟩ := h
  simp [ofString, ofChars]

theorem TooLong.bracket_mem {bit : Nat} {cell : Text} (h : TooLong bit cell) :
    CodePoint.char '[' ∈ cell := by
  cases h with
  | slice hcell _ => exact bracket_mem_of_isSliceCell hcell
  | registerBit hcell _ => exact bracket_mem_of_isBitCell hcell
  | width hcell _ _ _ _ => exact bracket_mem_of_isSliceCell hcell

/-- The cells of a run have no brackets. -/
theorem bracket_not_mem_of_continues {first cell : Text} {content : Content}
    (hfirst : Denotes first content) (h : continues content cell = true) :
    CodePoint.char '[' ∉ cell := by
  intro hmem
  cases hfirst with
  | @immediate _ name hname _ =>
    have hupper : upper cell = name := by simpa [continues] using h
    have hbracket : CodePoint.char '[' ∈ upper cell :=
      List.mem_flatMap.mpr ⟨_, hmem, by decide +kernel⟩
    have hnone : ∀ name ∈ ["Y", "P", "O"], CodePoint.char '[' ∉ ofString name := by decide
    rw [hupper] at hbracket
    exact hnone name hname hbracket
  | condition _ =>
    have hnone : ∀ keyword ∈ ["cond", "bcond"], ∀ q ∈ ofString keyword,
        foldLetter (.char '[') ≠ foldLetter q := by decide
    rcases Bool.or_eq_true_iff.mp h with hspells | hspells
    · obtain ⟨q, hq, hfold⟩ := exists_of_mem_of_spells hspells hmem
      exact hnone _ (by decide) q hq hfold
    · obtain ⟨q, hq, hfold⟩ := exists_of_mem_of_spells hspells hmem
      exact hnone _ (by decide) q hq hfold
  | _ => exact nomatch h

/-- A scan gets over a run as over any other cells without slices. -/
theorem overruns_drop_runLength {first : Text} {content : Content} (hfirst : Denotes first content)
    (next : List Text) :
    Overruns (next.drop (runLength (continues content) next)) ↔ Overruns next := by
  induction next with
  | nil => exact Iff.rfl
  | cons cell rest ih =>
    cases hcell : continues content cell with
    | false =>
      rw [runLength, List.takeWhile_cons_of_neg (by rw [hcell]; decide), List.length_nil,
        List.drop_zero]
    | true =>
      have hbracket := bracket_not_mem_of_continues hfirst hcell
      have hiff : Overruns (cell :: rest) ↔ Overruns rest :=
        overruns_cons_iff_of_not_slice
          (fun _ _ _ h => hbracket (bracket_mem_of_isSliceCell h)) fun h => hbracket h.bracket_mem
      rw [runLength, List.takeWhile_cons_of_pos hcell, List.length_cons, List.drop_succ_cons, hiff]
      exact ih

/-- After a step that succeeds, the scan goes on with the cells after its field. -/
theorem overruns_cons_iff {cell : Text} {next : List Text} {f : Field} {ns : List Notice}
    (step : (fieldAt next.length cell next).Gives f ns) :
    Overruns (cell :: next) ↔ Overruns (next.drop (f.width - 1)) := by
  have hshort : ¬ TooLong next.length cell := fieldAt_succeeds_iff.mp ⟨f, ns, step⟩
  obtain ⟨-, hcontent, hwidth⟩ := fieldAt_spec step
  split at hwidth
  case h_1 wanted hwanted =>
    obtain ⟨register, hi, lo, hslice, rfl⟩ := exists_slice_of_wanted? hwanted
    rw [hslice] at hcontent
    cases denotes_iff_symbol.mpr hcontent with
    | @slice _ _ hi lo m n hcell hhi hlo =>
      -- Nothing is left after a slice without room.
      have hdrop : next.drop (f.width - 1) = next.drop ((m : Int) - n).natAbs := by
        by_cases hroom : ((m : Int) - n).natAbs ≤ next.length
        · congr 1
          omega
        · rw [List.drop_of_length_le (by omega), List.drop_of_length_le (by omega)]
      rw [hdrop]
      exact overruns_cons_iff_of_slice hcell hhi hlo hshort
  case h_2 hwanted =>
    have hslice : ∀ register hi lo, ¬ IsSliceCell cell register hi lo := by
      intro register hi lo hcell
      obtain ⟨_, _, _, _, _, _, _, _, hhi, hlo, -⟩ := id hcell
      obtain ⟨m, hm⟩ := Option.isSome_iff_exists.mp hhi.numeral?_isSome
      obtain ⟨n, hn⟩ := Option.isSome_iff_exists.mp hlo.numeral?_isSome
      rw [denotes_iff_symbol.mp (.slice hcell hm hn)] at hcontent
      rw [← Option.some.inj hcontent] at hwanted
      cases hwanted
    rw [hwidth.1, Nat.add_sub_cancel_left,
      overruns_drop_runLength (denotes_iff_symbol.mpr hcontent)]
    exact overruns_cons_iff_of_not_slice hslice hshort

theorem fieldsFrom_succeeds_iff (skip : Nat) (cells : List Text) :
    (fieldsFrom skip cells).Succeeds ↔ ¬ Overruns (cells.drop skip) := by
  induction cells generalizing skip with
  | nil =>
    rw [List.drop_nil]
    exact iff_of_true (Attempt.succeeds_pure _) not_overruns_nil
  | cons cell next ih =>
    cases skip with
    | succ skip => exact ih skip
    | zero =>
      rw [List.drop_zero, fieldsFrom]
      by_cases hlong : TooLong next.length cell
      · refine iff_of_false ?_ (not_not_intro (.here hlong))
        rintro ⟨_, _, h⟩
        obtain ⟨f, n, _, hstep, -, -⟩ := Attempt.gives_bind.mp h
        exact fieldAt_succeeds_iff.mp ⟨f, n, hstep⟩ hlong
      · obtain ⟨f, n, hstep⟩ := fieldAt_succeeds_iff.mpr hlong
        rw [overruns_cons_iff hstep, ← ih, hstep.succeeds_bind_iff]
        exact Attempt.succeeds_bind_pure_iff

/-! ### Short cells -/

/-- The digits of a slice are fewer than the characters of its cell. -/
theorem length_lt_of_isSliceCell {cell register hi lo : Text} (h : IsSliceCell cell register hi lo) :
    hi.length < cell.length ∧ lo.length < cell.length := by
  obtain ⟨name, a, b, c, d, e, -, -, -, -, -, rfl⟩ := h
  simp only [List.length_append, length_ofString]
  constructor <;> (have : "[".length = 1 := rfl; omega)

theorem length_lt_of_isBitCell {cell register digits : Text} (h : IsBitCell cell register digits) :
    digits.length < cell.length := by
  obtain ⟨name, a, b, c, -, -, -, -, rfl⟩ := h
  simp only [List.length_append, length_ofString]
  have : "[".length = 1 := rfl
  omega

/-- Only a cell with more characters than a number may have digits has a number that is too long. -/
theorem TooLong.lt_length {bit : Nat} {cell : Text} (h : TooLong bit cell) :
    digitLimit < cell.length := by
  cases h with
  | slice hcell hlong =>
    have := length_lt_of_isSliceCell hcell
    omega
  | registerBit hcell hlong => exact hlong.trans (length_lt_of_isBitCell hcell)
  | @width register hi lo m n hcell hhi hlo hroom hlong =>
    by_contra hshort
    obtain ⟨hlhi, hllo⟩ := length_lt_of_isSliceCell hcell
    have hpow : ∀ {k}, k < cell.length → 10 ^ k ≤ 10 ^ (cell.length - 1) := fun hk =>
      Nat.pow_le_pow_right (by decide) (by omega)
    have hm : m < 10 ^ (cell.length - 1) := (numeral?_lt hhi).trans_le (hpow hlhi)
    have hn : n < 10 ^ (cell.length - 1) := (numeral?_lt hlo).trans_le (hpow hllo)
    have hspan : ((m : Int) - n).natAbs + 1 < 10 ^ (cell.length - 1 + 1) := by
      rw [Nat.pow_succ]
      omega
    exact Nat.not_lt_of_le hlong (lt_writingLimit_of_lt (by omega) hspan)

theorem Overruns.exists_long {cells : List Text} (h : Overruns cells) :
    ∃ cell ∈ cells, digitLimit < cell.length := by
  induction h with
  | here h => exact ⟨_, List.mem_cons_self, h.lt_length⟩
  | afterSlice _ _ _ _ ih =>
    obtain ⟨cell, hmem, hlong⟩ := ih
    exact ⟨cell, List.mem_cons_of_mem _ (List.mem_of_mem_drop hmem), hlong⟩
  | after _ _ ih =>
    obtain ⟨cell, hmem, hlong⟩ := ih
    exact ⟨cell, List.mem_cons_of_mem _ hmem, hlong⟩

/-- A row has a layout unless the scan of its cells comes to a number that is too long. -/
theorem ofCells_succeeds_iff {cells : List Json.Value} :
    (ofCells cells).Succeeds ↔ ¬ Overruns (cellTexts cells) :=
  fieldsFrom_succeeds_iff 0 _

/-- A row without cells that are too long has a layout. -/
theorem ofCells_succeeds {cells : List Json.Value}
    (h : ∀ cell ∈ cells, cell.cellText.length ≤ digitLimit) : (ofCells cells).Succeeds := by
  refine ofCells_succeeds_iff.mpr fun hoverruns => ?_
  obtain ⟨text, htext, hlong⟩ := hoverruns.exists_long
  rcases List.mem_append.mp htext with hgiven | hmissing
  · obtain ⟨cell, hcell, rfl⟩ := List.mem_map.mp hgiven
    exact Nat.not_lt_of_le (h cell (List.mem_of_mem_take hcell)) hlong
  · rw [List.eq_of_mem_replicate hmissing] at hlong
    exact Nat.not_lt_zero _ hlong

end GridAsm.Layout
