import GridAsm.Proofs.Layout

/-!
# Cells under slices

A slice takes as many cells as it has bits, and says all that there is to say in the first of them.
The others are skipped, whatever they hold: another slice, a number that is too long, or a cell that
would continue the run before the slice.

The scan is followed through two rows at once (`Scans.of_agrees`).  A step reads its own cell and, if
it has a run, the cells up to the first that does not continue it (`fieldAt_congr`).  All of them are
outside of every slice, or the first cell of one: the run before a slice ends at the slice's own cell
at the latest.
-/

namespace GridAsm

/-- Whether the content is a slice of a register. -/
def Content.isSlice : Content → Bool
  | .slice .. => true
  | _ => false

namespace Layout

open Text

/-! ### What a step reads -/

/-- A run is as long in other cells that are the same up to the first that does not continue it. -/
theorem runLength_congr {p : Text → Bool} {next next' : List Text}
    (h : ∀ k ≤ runLength p next, next'[k]? = next[k]?) : runLength p next' = runLength p next := by
  induction next generalizing next' with
  | nil =>
    have hnone : next'[0]? = none := h 0 (Nat.zero_le _)
    obtain rfl : next' = [] := by simpa using hnone
    rfl
  | cons c rest ih =>
    have hfirst : next'[0]? = some c := h 0 (Nat.zero_le _)
    obtain ⟨rest', rfl⟩ : ∃ rest', next' = c :: rest' := by
      cases next' with
      | nil => exact nomatch hfirst
      | cons c' rest' => exact ⟨rest', by rw [Option.some.inj hfirst]⟩
    cases hc : p c with
    | false => simp [runLength, hc]
    | true =>
      have hlength : ∀ cells : List Text, runLength p (c :: cells) = runLength p cells + 1 := by
        intro cells
        simp [runLength, hc]
      rw [hlength] at h
      have hrest : runLength p rest' = runLength p rest := by
        apply ih
        intro k hk
        exact h (k + 1) (Nat.succ_le_succ hk)
      rw [hlength, hlength, hrest]

/-- A step gives the same before other cells, if its run is as long there.  A slice has no run. -/
theorem fieldAt_congr {bit : Nat} {cell : Text} {next next' : List Text} {f : Field}
    {ns : List Notice} (h : (fieldAt bit cell next).Gives f ns)
    (hrun : f.content.isSlice = false →
      runLength (continues f.content) next' = runLength (continues f.content) next) :
    (fieldAt bit cell next').Gives f ns := by
  simp only [fieldAt] at h ⊢
  split at h
  case h_5 name hs =>
    obtain ⟨rfl, rfl⟩ := Attempt.gives_pure.mp h
    have hname : runLength (fun c => upper c = name) next' =
        runLength (fun c => upper c = name) next := hrun rfl
    rw [hname]
    exact h
  case h_6 hs =>
    obtain ⟨rfl, rfl⟩ := Attempt.gives_pure.mp h
    have hcondition : runLength isCondition next' = runLength isCondition next := hrun rfl
    rw [hcondition]
    exact h
  -- No other cell looks at the cells after it.
  all_goals exact h

/-! ### Two scans -/

/-- A bit whose cell lies under a slice: one of its bits, but not the highest, where the cell of the
slice itself stands. -/
def UnderSlice (fields : List Field) (i : Nat) : Prop :=
  ∃ f ∈ fields, f.content.isSlice = true ∧ f.lsb ≤ i ∧ (i : Int) < f.msb

instance (fields : List Field) (i : Nat) : Decidable (UnderSlice fields i) :=
  inferInstanceAs (Decidable (∃ f ∈ fields, _ ∧ _ ∧ _))

/-- Cells that are the same but for those under slices. -/
def Agrees (fields : List Field) (cells cells' : List Text) : Prop :=
  cells'.length = cells.length ∧
    ∀ i < cells.length, ¬ UnderSlice fields i → textAt cells' i = textAt cells i

theorem fieldsFrom_gives_of_scans {skip : Nat} {cells : List Text} {fields : List Field}
    {ns : List Notice} (h : Scans (cells.drop skip) fields ns) :
    (fieldsFrom skip cells).Gives fields ns := by
  induction cells generalizing skip fields ns with
  | nil =>
    rw [List.drop_nil] at h
    cases h
    exact Attempt.gives_pure.mpr ⟨rfl, rfl⟩
  | cons cell next ih =>
    cases skip with
    | succ skip => exact ih h
    | zero =>
      cases h with
      | @cons _ _ f fields n ns step rest =>
        refine Attempt.gives_bind.mpr ⟨f, n, ns, step, ?_, rfl⟩
        refine Attempt.gives_bind.mpr ⟨fields, ns, [], ih rest, ?_, (List.append_nil ns).symm⟩
        exact Attempt.gives_pure.mpr ⟨rfl, rfl⟩

theorem underSlice_cons_iff {f : Field} {fields : List Field} {i : Nat} (hi : i < f.lsb) :
    UnderSlice (f :: fields) i ↔ UnderSlice fields i := by
  constructor
  · rintro ⟨g, hg, hslice, hlow, hhigh⟩
    rcases List.mem_cons.mp hg with rfl | hg
    · omega
    · exact ⟨g, hg, hslice, hlow, hhigh⟩
  · rintro ⟨g, hg, hslice, hlow, hhigh⟩
    exact ⟨g, List.mem_cons_of_mem _ hg, hslice, hlow, hhigh⟩

section Step

variable {cell cell' : Text} {next next' : List Text} {f : Field} {fields : List Field}
  {n ns : List Notice} (step : (fieldAt next.length cell next).Gives f n)
  (rest : Scans (next.drop (f.width - 1)) fields ns)

include step

/-- Where rows agree, the cells after a step's field do. -/
theorem Agrees.drop (h : Agrees (f :: fields) (cell :: next) (cell' :: next')) :
    Agrees fields (next.drop (f.width - 1)) (next'.drop (f.width - 1)) := by
  obtain ⟨hlength, htexts⟩ := h
  rw [List.length_cons, List.length_cons, Nat.succ_inj] at hlength
  have hdropped : (next'.drop (f.width - 1)).length = (next.drop (f.width - 1)).length := by
    rw [List.length_drop, List.length_drop, hlength]
  have hleft : ∀ (c : Text) (cells : List Text), cells.drop (f.width - 1) <:+ c :: cells :=
    fun c cells => (List.drop_suffix _ _).trans (List.suffix_cons _ _)
  refine ⟨hdropped, ?_⟩
  intro i hi hunder
  rw [textAt_of_suffix (hleft cell next) hi, textAt_of_suffix (hleft cell' next') (hdropped ▸ hi)]
  rw [Scans.length_drop step] at hi
  have htop := (tile_of_fieldAt step).2
  exact htexts i (by rw [List.length_cons]; omega) (mt (underSlice_cons_iff hi).mp hunder)

include rest

/-- The bit of a step's own cell lies under no slice. -/
theorem not_underSlice_first : ¬ UnderSlice (f :: fields) next.length := by
  rintro ⟨g, hg, -, -, hi⟩
  have hbounds := ((Scans.cons step rest).tiles.bounds hg).2
  rw [List.length_cons] at hbounds
  rw [Field.msb] at hi
  omega

/-- No bit of a field that is no slice lies under one, and the bit below it does not either. -/
theorem not_underSlice_of_run (hslice : f.content.isSlice = false) {i : Nat} (hi : f.lsb ≤ i + 1) :
    ¬ UnderSlice (f :: fields) i := by
  rintro ⟨g, hg, hgslice, -, hig⟩
  rcases List.mem_cons.mp hg with rfl | hg
  · rw [hslice] at hgslice
    exact Bool.false_ne_true hgslice
  · have hbounds := (rest.tiles.bounds hg).2
    rw [Scans.length_drop step] at hbounds
    rw [Field.msb] at hig
    omega

/-- Where rows agree, a step starts with the same cell. -/
theorem Agrees.first_eq (h : Agrees (f :: fields) (cell :: next) (cell' :: next')) :
    cell' = cell := by
  obtain ⟨hlength, htexts⟩ := h
  rw [List.length_cons, List.length_cons, Nat.succ_inj] at hlength
  have hfirst := htexts next.length (Nat.lt_succ_self _) (not_underSlice_first step rest)
  rwa [textAt_cons_length, ← hlength, textAt_cons_length] at hfirst

/-- Where rows agree, a step that is no slice has the same cells in its run and after it. -/
theorem Agrees.runLength_eq (h : Agrees (f :: fields) (cell :: next) (cell' :: next'))
    (hslice : f.content.isSlice = false) :
    runLength (continues f.content) next' = runLength (continues f.content) next := by
  obtain ⟨hlength, htexts⟩ := h
  rw [List.length_cons, List.length_cons, Nat.succ_inj] at hlength
  have htop := (tile_of_fieldAt step).2
  have hwidth : f.width = 1 + runLength (continues f.content) next := by
    have hspec := (fieldAt_spec step).2.2
    split at hspec
    · rename_i wanted hwanted
      obtain ⟨_, _, _, hcontent, -⟩ := exists_slice_of_wanted? hwanted
      rw [hcontent] at hslice
      exact nomatch hslice
    · exact hspec.1
  apply runLength_congr
  intro k hk
  by_cases hend : k < next.length
  · -- The cell at `k` after the first has a bit that is not below `f.lsb - 1`.
    obtain ⟨i, hi⟩ : ∃ i, next.length = k + 1 + i := ⟨next.length - (k + 1), by omega⟩
    have hnext := @textAt_cons_of_lt cell next i (by omega)
    have hnext' := @textAt_cons_of_lt cell' next' i (by omega)
    rw [hi, show k + 1 + i - 1 - i = k by omega] at hnext
    rw [hlength, hi, show k + 1 + i - 1 - i = k by omega] at hnext'
    have hbit := htexts i (by rw [List.length_cons]; omega)
      (not_underSlice_of_run step rest hslice (by omega))
    rw [hnext, hnext', hbit]
  · rw [List.getElem?_eq_none (by omega), List.getElem?_eq_none (by omega)]

end Step

/-- Cells that are the same but for those under the slices of a scan have the same scan. -/
theorem Scans.of_agrees {cells cells' : List Text} {fields : List Field} {ns : List Notice}
    (h : Scans cells fields ns) (hagrees : Agrees fields cells cells') :
    Scans cells' fields ns := by
  induction h generalizing cells' with
  | nil =>
    obtain rfl : cells' = [] := List.length_eq_zero_iff.mp hagrees.1
    exact .nil
  | @cons cell next f fields n ns step rest ih =>
    cases cells' with
    | nil => exact nomatch hagrees.1
    | cons cell' next' =>
      have hlength : next'.length = next.length := Nat.succ_inj.mp hagrees.1
      have hstep : (fieldAt next'.length cell' next').Gives f n := by
        rw [hlength, hagrees.first_eq step rest]
        exact fieldAt_congr step (hagrees.runLength_eq step rest)
      exact .cons hstep (ih (hagrees.drop step))

/-! ### Rows -/

/-- **Cells under slices do not matter.**  If a row has a layout, any row with the same cell texts
outside of its slices has the same one, and leaves the same notices.  Of a slice only the cell of its
highest bit must be the same; cells that are missing count as blank ones, and there are no others
than the sixteen of a word. -/
theorem cells_under_slices_are_ignored {cells cells' : List Json.Value} {fields : List Field}
    {notices : List Notice} (h : (ofCells cells).Gives fields notices)
    (hagree : ∀ i < 16, ¬ UnderSlice fields i → cellAt cells' i = cellAt cells i) :
    (ofCells cells').Gives fields notices := by
  have hscan : Scans (cellTexts cells') fields notices := by
    refine (scans_of_ofCells h).of_agrees ⟨?_, ?_⟩
    · rw [length_cellTexts, length_cellTexts]
    · intro i hi hunder
      rw [length_cellTexts] at hi
      rw [textAt_cellTexts _ hi, textAt_cellTexts _ hi]
      exact hagree i hi hunder
  exact fieldsFrom_gives_of_scans hscan

/-- Two rows with an immediate value before a slice and after it, and a slice without room at their
end.  Under the slices one row has cells that look like the run before them, like a slice and like a
fixed bit; the other has a missing value and nothing at the end. -/
theorem cells_under_slices_are_ignored_between_runs :
    let cells := ["Y", "rd[2:0]", "Y", "rs[9:0]", "y", "RT[0:30]", "1", "cond"].map fun s : String =>
      Json.Value.text s
    let cells' := [Json.Value.text "Y", .text "rd[2:0]", .null, .text "1", .text "y",
      .text " RT[0:30]"]
    let fields : List Field := [⟨15, 1, .immediate "Y"⟩, ⟨12, 3, .slice "rd" 2 0⟩,
      ⟨11, 1, .immediate "Y"⟩, ⟨0, 11, .slice "rt" 0 30⟩]
    let notices := [Notice.sliceClamped "RT[0:30]" 10 31]
    (ofCells cells).Gives fields notices ∧ (ofCells cells').Gives fields notices := by
  intro cells cells' fields notices
  have hgives : (ofCells cells).Gives fields notices := by decide +kernel
  exact ⟨hgives, cells_under_slices_are_ignored hgives (by decide +kernel)⟩

end Layout

end GridAsm
