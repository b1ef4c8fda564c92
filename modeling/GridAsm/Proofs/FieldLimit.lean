import GridAsm.Grid.Delimited
import Mathlib.Tactic.SplitIfs

/-!
# Fields that are too long

A limit as high as the text is long refuses no delimited text (`exists_rows`), and gives its rows as
they stand there.  With any other limit the text has the same rows if their fields keep to it, and
is refused otherwise (`rows_eq`).

What one character can do to the reader is said once, in `Reader.step_cases`.  No move drops a field
or makes one shorter, so a field that gets too long on the way is too long in the rows.
-/

namespace GridAsm.Delimited

/-- No field of the rows has more than `limit` characters. -/
def FieldsWithin (limit : Nat) (grid : List (List Text)) : Prop :=
  ∀ row ∈ grid, ∀ field ∈ row, field.length ≤ limit

instance (limit : Nat) (grid : List (List Text)) : Decidable (FieldsWithin limit grid) :=
  inferInstanceAs (Decidable (∀ row ∈ grid, ∀ field ∈ row, field.length ≤ limit))

namespace Reader

variable {delimiter : Char} {limit most : Nat} {r r' : Reader} {c : CodePoint} {cs : Text}

/-! ### One character -/

/-- A character turns the reader to another place, is added to the field, or ends a field, an empty
line, or a field and its line.  Only an addition looks at a limit. -/
theorem step_cases (delimiter : Char) (r : Reader) (c : CodePoint) :
    (∃ mode, mode ≠ .rowStart ∧ ∀ limit, r.step limit delimiter c = .ok { r with mode := mode }) ∨
    (∃ mode, mode ≠ .rowStart ∧ ∀ limit, r.step limit delimiter c = r.add limit mode c) ∨
    (∀ limit, r.step limit delimiter c = .ok r.endField) ∨
    (r.mode = .rowStart ∧ ∀ limit, r.step limit delimiter c = .ok r.endRow) ∨
    ∀ limit, r.step limit delimiter c = .ok r.endField.endRow := by
  have hplain : Mode.plain ≠ .rowStart := by decide
  have hquoted : Mode.quoted ≠ .rowStart := by decide
  have hquote : Mode.quoteInQuotes ≠ .rowStart := by decide
  simp only [step]
  cases r.mode with
  | quoted =>
    dsimp only
    split_ifs
    · exact .inl ⟨_, hquote, fun _ => rfl⟩
    · exact .inr (.inl ⟨_, hquoted, fun _ => rfl⟩)
  | quoteInQuotes =>
    dsimp only
    split_ifs
    · exact .inr (.inl ⟨_, hquoted, fun _ => rfl⟩)
    · exact .inr (.inr (.inl fun _ => rfl))
    · exact .inr (.inr (.inr (.inr fun _ => rfl)))
    · exact .inr (.inl ⟨_, hplain, fun _ => rfl⟩)
  | plain =>
    dsimp only
    split_ifs
    · exact .inr (.inr (.inl fun _ => rfl))
    · exact .inr (.inr (.inr (.inr fun _ => rfl)))
    · exact .inr (.inl ⟨_, hplain, fun _ => rfl⟩)
  | rowStart =>
    simp only [if_true]
    split_ifs
    · exact .inr (.inr (.inr (.inl ⟨trivial, fun _ => rfl⟩)))
    · exact .inl ⟨_, hquoted, fun _ => rfl⟩
    · exact .inr (.inr (.inl fun _ => rfl))
    · exact .inr (.inl ⟨_, hplain, fun _ => rfl⟩)
  | fieldStart =>
    simp only [reduceCtorEq, if_false]
    split_ifs
    · exact .inr (.inr (.inr (.inr fun _ => rfl)))
    · exact .inl ⟨_, hquoted, fun _ => rfl⟩
    · exact .inr (.inr (.inl fun _ => rfl))
    · exact .inr (.inl ⟨_, hplain, fun _ => rfl⟩)

/-- The reader counts the characters of its field, and has none and no field before a row. -/
structure Counts (r : Reader) : Prop where
  size : r.size = r.field.length
  field : r.mode = .rowStart → r.field = []
  row : r.mode = .rowStart → r.row = []

theorem counts_start : Counts {} :=
  ⟨rfl, fun _ => rfl, fun _ => rfl⟩

/-- No field that the reader has, complete or not, has more than `limit` characters. -/
structure Within (limit : Nat) (r : Reader) : Prop where
  field : r.field.length ≤ limit
  row : ∀ field ∈ r.row, field.length ≤ limit
  rows : FieldsWithin limit r.rows

theorem within_start : Within limit {} :=
  ⟨Nat.zero_le _, List.forall_mem_nil _, List.forall_mem_nil _⟩

theorem within_endField : r.endField.Within limit ↔ r.Within limit := by
  have hfield : r.field.reverse.length = r.field.length := List.length_reverse
  constructor
  · intro h
    obtain ⟨hlast, hrow⟩ := List.forall_mem_cons.mp h.row
    exact ⟨hfield ▸ hlast, hrow, h.rows⟩
  · intro h
    exact ⟨Nat.zero_le _, List.forall_mem_cons.mpr ⟨hfield.symm ▸ h.field, h.row⟩, h.rows⟩

/-- The end of a row keeps the fields of the row; what stood in an open field is lost. -/
theorem within_endRow (hfield : r.field = []) : r.endRow.Within limit ↔ r.Within limit := by
  constructor
  · intro h
    obtain ⟨hlast, hrows⟩ := List.forall_mem_cons.mp h.rows
    refine ⟨hfield ▸ Nat.zero_le _, fun field hmem => ?_, hrows⟩
    exact hlast field (List.mem_reverse.mpr hmem)
  · intro h
    refine ⟨Nat.zero_le _, List.forall_mem_nil _, List.forall_mem_cons.mpr ⟨?_, h.rows⟩⟩
    exact fun field hmem => h.row field (List.mem_reverse.mp hmem)

theorem add_eq_ok {mode : Mode} (h : r.add limit mode c = .ok r') :
    r' = { r with mode := mode, field := c :: r.field, size := r.size + 1 } := by
  unfold add at h
  split_ifs at h
  exact (Except.ok.inj h).symm

theorem Counts.step (hr : r.Counts) (h : r.step limit delimiter c = .ok r') : r'.Counts := by
  rcases step_cases delimiter r c with
    ⟨mode, hmode, hstep⟩ | ⟨mode, hmode, hstep⟩ | hstep | ⟨-, hstep⟩ | hstep <;>
    rw [hstep] at h
  · cases h
    exact ⟨hr.size, fun hstart => absurd hstart hmode, fun hstart => absurd hstart hmode⟩
  · rw [add_eq_ok h]
    exact ⟨congrArg (· + 1) hr.size, fun hstart => absurd hstart hmode,
      fun hstart => absurd hstart hmode⟩
  · cases h
    exact ⟨rfl, (nomatch ·), (nomatch ·)⟩
  · cases h
    exact ⟨rfl, fun _ => rfl, fun _ => rfl⟩
  · cases h
    exact ⟨rfl, fun _ => rfl, fun _ => rfl⟩

/-- What a step gives is within a limit exactly if the reader was and the limit lets the step be. -/
theorem within_step_iff (hr : r.Counts) (h : r.step most delimiter c = .ok r') (limit : Nat) :
    r'.Within limit ↔ r.Within limit ∧ r.step limit delimiter c = .ok r' := by
  rcases step_cases delimiter r c with
    ⟨mode, -, hstep⟩ | ⟨mode, -, hstep⟩ | hstep | ⟨hmode, hstep⟩ | hstep <;>
    rw [hstep] at h
  · rw [hstep, and_iff_left h]
    cases h
    exact ⟨fun hw => ⟨hw.field, hw.row, hw.rows⟩, fun hw => ⟨hw.field, hw.row, hw.rows⟩⟩
  · rw [hstep, add_eq_ok h, add, hr.size]
    constructor
    · intro hw
      have hlt : r.field.length < limit := hw.field
      exact ⟨⟨Nat.le_of_lt hlt, hw.row, hw.rows⟩, if_neg (Nat.not_le_of_lt hlt)⟩
    · rintro ⟨hw, hadd⟩
      split_ifs at hadd with hlimit
      exact ⟨Nat.lt_of_not_le hlimit, hw.row, hw.rows⟩
  · rw [hstep, and_iff_left h]
    cases h
    exact within_endField
  · rw [hstep, and_iff_left h]
    cases h
    exact within_endRow (hr.field hmode)
  · rw [hstep, and_iff_left h]
    cases h
    exact (within_endRow rfl).trans within_endField

/-- A step that one limit allows is made or refused with another. -/
theorem step_eq_or (h : r.step most delimiter c = .ok r') (limit : Nat) :
    r.step limit delimiter c = .ok r' ∨ r.step limit delimiter c = .error ⟨limit⟩ := by
  rcases step_cases delimiter r c with
    ⟨_, -, hstep⟩ | ⟨_, -, hstep⟩ | hstep | ⟨-, hstep⟩ | hstep <;>
    rw [hstep] at h ⊢
  · exact .inl h
  · rw [add_eq_ok h, add]
    split_ifs
    · exact .inr rfl
    · exact .inl rfl
  · exact .inl h
  · exact .inl h
  · exact .inl h

/-- One character makes a field one longer at most, which a limit above its size allows. -/
theorem exists_step (h : r.size < limit) (delimiter : Char) (c : CodePoint) :
    ∃ r', r.step limit delimiter c = .ok r' ∧ r'.size ≤ r.size + 1 := by
  rcases step_cases delimiter r c with
    ⟨_, -, hstep⟩ | ⟨_, -, hstep⟩ | hstep | ⟨-, hstep⟩ | hstep <;>
    rw [hstep]
  · exact ⟨_, rfl, Nat.le_succ _⟩
  · rw [add, if_neg (Nat.not_le_of_lt h)]
    exact ⟨_, rfl, Nat.le_refl _⟩
  · exact ⟨_, rfl, Nat.zero_le _⟩
  · exact ⟨_, rfl, Nat.zero_le _⟩
  · exact ⟨_, rfl, Nat.zero_le _⟩

/-! ### A text -/

theorem exists_foldlM (delimiter : Char) (h : r.size + cs.length ≤ limit) :
    ∃ r', cs.foldlM (step limit delimiter) r = .ok r' := by
  -- What has been read of the field and what is still to come bound its size together.
  induction cs generalizing r with
  | nil => exact ⟨r, rfl⟩
  | cons c rest ih =>
    rw [List.length_cons] at h
    have hsize : r.size < limit := by omega
    obtain ⟨r₁, hstep, hsize₁⟩ := exists_step hsize delimiter c
    have hrest : r₁.size + rest.length ≤ limit := by omega
    obtain ⟨r', hfold⟩ := ih hrest
    refine ⟨r', ?_⟩
    rw [List.foldlM_cons, hstep]
    exact hfold

/-- A text that is read is read character by character. -/
theorem exists_step_of_foldlM_cons (h : (c :: cs).foldlM (step limit delimiter) r = .ok r') :
    ∃ r₁, r.step limit delimiter c = .ok r₁ ∧ cs.foldlM (step limit delimiter) r₁ = .ok r' := by
  rw [List.foldlM_cons] at h
  cases hstep : r.step limit delimiter c with
  | error e =>
    rw [hstep] at h
    cases h
  | ok r₁ =>
    rw [hstep] at h
    exact ⟨r₁, rfl, h⟩

theorem Counts.foldlM (hr : r.Counts) (h : cs.foldlM (Reader.step limit delimiter) r = .ok r') :
    r'.Counts := by
  induction cs generalizing r with
  | nil =>
    cases h
    exact hr
  | cons c rest ih =>
    obtain ⟨r₁, hstep, hrest⟩ := exists_step_of_foldlM_cons h
    exact ih (hr.step hstep) hrest

theorem Within.of_foldlM (hr : r.Counts) (h : cs.foldlM (step most delimiter) r = .ok r')
    (hlimit : r'.Within limit) : r.Within limit := by
  induction cs generalizing r with
  | nil =>
    cases h
    exact hlimit
  | cons c rest ih =>
    obtain ⟨r₁, hstep, hrest⟩ := exists_step_of_foldlM_cons h
    have hnext : r₁.Within limit := ih (hr.step hstep) hrest
    exact ((within_step_iff hr hstep limit).mp hnext).1

/-- A text that one limit allows is read alike with another, or refused for a field that is too long
in the end. -/
theorem foldlM_eq [Decidable (r'.Within limit)] (hr : r.Counts) (hlimit : r.Within limit)
    (h : cs.foldlM (step most delimiter) r = .ok r') :
    cs.foldlM (step limit delimiter) r = if r'.Within limit then .ok r' else .error ⟨limit⟩ := by
  induction cs generalizing r with
  | nil =>
    cases h
    rw [if_pos hlimit]
    rfl
  | cons c rest ih =>
    obtain ⟨r₁, hstep, hrest⟩ := exists_step_of_foldlM_cons h
    have hcounts : r₁.Counts := hr.step hstep
    have hiff := within_step_iff hr hstep limit
    rw [List.foldlM_cons]
    rcases step_eq_or hstep limit with hmade | hrefused
    · rw [hmade]
      exact ih hcounts (hiff.mpr ⟨hlimit, hmade⟩) hrest
    · -- The field is too long from here on.
      have hlong : ¬ r'.Within limit := by
        intro hend
        have hmade := (hiff.mp (hend.of_foldlM hcounts hrest)).2
        cases hmade.symm.trans hrefused
      rw [hrefused, if_neg hlong]
      rfl

theorem fieldsWithin_reverse {grid : List (List Text)} :
    FieldsWithin limit grid.reverse ↔ FieldsWithin limit grid := by
  simp only [FieldsWithin, List.mem_reverse]

theorem fieldsWithin_finish (hr : r.Counts) : FieldsWithin limit r.finish ↔ r.Within limit := by
  unfold finish
  by_cases hmode : r.mode = .rowStart
  · rw [if_pos hmode, fieldsWithin_reverse]
    refine ⟨fun h => ⟨?_, ?_, h⟩, Within.rows⟩
    · rw [hr.field hmode]
      exact Nat.zero_le _
    · rw [hr.row hmode]
      exact List.forall_mem_nil _
  · have hended : r.endField.endRow.Within limit ↔ r.Within limit :=
      (within_endRow rfl).trans within_endField
    rw [if_neg hmode, fieldsWithin_reverse, ← hended]
    exact ⟨fun h => ⟨Nat.zero_le _, List.forall_mem_nil _, h⟩, Within.rows⟩

end Reader

variable {delimiter : Char} {most : Nat} {cs : Text} {grid : List (List Text)}

/-- A limit that no text can reach refuses nothing. -/
theorem exists_rows (delimiter : Char) (cs : Text) :
    ∃ grid, rows cs.length delimiter cs = .ok grid := by
  have hsize : ({} : Reader).size + cs.length ≤ cs.length := Nat.le_of_eq (Nat.zero_add _)
  obtain ⟨r, hfold⟩ := Reader.exists_foldlM delimiter hsize
  refine ⟨r.finish, ?_⟩
  rw [rows, hfold]
  rfl

/-- The rows of a text do not depend on the limit, but for being refused if a field is longer. -/
theorem rows_eq (h : rows most delimiter cs = .ok grid) (limit : Nat) :
    rows limit delimiter cs = if FieldsWithin limit grid then .ok grid else .error ⟨limit⟩ := by
  unfold rows at h ⊢
  cases hfold : cs.foldlM (Reader.step most delimiter) {} with
  | error e =>
    rw [hfold] at h
    cases h
  | ok r =>
    rw [hfold] at h
    cases h
    have hiff : FieldsWithin limit r.finish ↔ r.Within limit :=
      Reader.fieldsWithin_finish (Reader.counts_start.foldlM hfold)
    have : Decidable (r.Within limit) := decidable_of_iff _ hiff
    rw [Reader.foldlM_eq Reader.counts_start Reader.within_start hfold]
    by_cases hlimit : r.Within limit
    · rw [if_pos hlimit, if_pos (hiff.mpr hlimit)]
      rfl
    · rw [if_neg hlimit, if_neg (mt hiff.mp hlimit)]
      rfl

end GridAsm.Delimited
