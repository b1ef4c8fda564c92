import GridAsm.Field
import Mathlib.Algebra.Order.Ring.Nat
import Mathlib.Data.List.Basic
import Mathlib.Logic.ExistsUnique

/-!
# Fields that fill a word

Fields tile the bits below `top` if they lie one below the other without a gap (`Tiles`).  Then every
bit below `top` is held by one field and one only (`Tiles.existsUnique_covers`), and a field that
reaches bit zero is the last one (`Tiles.getLast?_eq_of_lsb_eq_zero`).
-/

namespace GridAsm

/-- Fields that are not empty, lie one below the other and fill the bits below `top`. -/
def Tiles : Nat → List Field → Prop
  | top, [] => top = 0
  | top, f :: rest => 0 < f.width ∧ f.lsb + f.width = top ∧ Tiles f.lsb rest

namespace Tiles

variable {top : Nat} {fields : List Field}

/-- No field is empty, and none reaches beyond the top. -/
theorem bounds (h : Tiles top fields) {f : Field} (hf : f ∈ fields) :
    0 < f.width ∧ f.lsb + f.width ≤ top := by
  induction fields generalizing top with
  | nil => exact absurd hf List.not_mem_nil
  | cons g rest ih =>
    obtain ⟨hpos, htop, hrest⟩ := h
    rcases List.mem_cons.mp hf with rfl | hf
    · exact ⟨hpos, by omega⟩
    · have := ih hrest hf
      exact ⟨this.1, by omega⟩

/-- The fields after the first one lie below it. -/
theorem not_covers_of_mem_tail {f g : Field} {rest : List Field} (h : Tiles top (f :: rest))
    (hg : g ∈ rest) {i : Nat} (hi : f.lsb ≤ i) : ¬ g.covers i := by
  have := bounds h.2.2 hg
  rintro ⟨-, hlt⟩
  omega

/-- A bit is held by one field at most. -/
theorem eq_of_covers (h : Tiles top fields) {f g : Field} (hf : f ∈ fields) (hg : g ∈ fields)
    {i : Nat} (hfi : f.covers i) (hgi : g.covers i) : f = g := by
  induction fields generalizing top with
  | nil => exact absurd hf List.not_mem_nil
  | cons first rest ih =>
    rcases List.mem_cons.mp hf with hf' | hf' <;> rcases List.mem_cons.mp hg with hg' | hg'
    · rw [hf', hg']
    · subst hf'
      exact absurd hgi (not_covers_of_mem_tail h hg' hfi.1)
    · subst hg'
      exact absurd hfi (not_covers_of_mem_tail h hf' hgi.1)
    · exact ih h.2.2 hf' hg'

/-- A bit below the top is held by some field. -/
theorem exists_covers (h : Tiles top fields) {i : Nat} (hi : i < top) :
    ∃ f ∈ fields, f.covers i := by
  induction fields generalizing top with
  | nil =>
    have : top = 0 := h
    omega
  | cons f rest ih =>
    obtain ⟨-, htop, hrest⟩ := h
    by_cases hlow : i < f.lsb
    · obtain ⟨g, hg, hgi⟩ := ih hrest hlow
      exact ⟨g, List.mem_cons_of_mem _ hg, hgi⟩
    · exact ⟨f, List.mem_cons_self .., by omega, by omega⟩

/-- A bit below the top is held by one field and one only. -/
theorem existsUnique_covers (h : Tiles top fields) {i : Nat} (hi : i < top) :
    ∃! f, f ∈ fields ∧ f.covers i := by
  obtain ⟨f, hf, hfi⟩ := h.exists_covers hi
  exact ⟨f, ⟨hf, hfi⟩, fun g hg => h.eq_of_covers hg.1 hf hg.2 hfi⟩

/-- The fields have as many bits as they fill. -/
theorem sum_width (h : Tiles top fields) : (fields.map Field.width).sum = top := by
  induction fields generalizing top with
  | nil => exact h.symm
  | cons f rest ih =>
    rw [List.map_cons, List.sum_cons, ih h.2.2, Nat.add_comm]
    exact h.2.1

/-- The first field ends at the top. -/
theorem head?_msb (h : Tiles top fields) (htop : top ≠ 0) :
    fields.head?.map Field.msb = some ((top : Int) - 1) := by
  cases fields with
  | nil => exact absurd h htop
  | cons f rest =>
    have := h.2.1
    simp only [List.head?_cons, Option.map_some, Option.some.injEq, Field.msb]
    omega

/-- Every field ends right below the one before it. -/
theorem isChain (h : Tiles top fields) :
    fields.IsChain fun f g => g.msb = (f.lsb : Int) - 1 := by
  induction fields generalizing top with
  | nil => exact .nil
  | cons f rest ih =>
    obtain ⟨-, -, hrest⟩ := h
    cases rest with
    | nil => exact .singleton f
    | cons g rest =>
      refine .cons_cons ?_ (ih hrest)
      have := hrest.2.1
      rw [Field.msb]
      omega

/-- The last field reaches bit zero. -/
theorem getLast?_lsb (h : Tiles top fields) (htop : top ≠ 0) :
    fields.getLast?.map Field.lsb = some 0 := by
  induction fields generalizing top with
  | nil => exact absurd h htop
  | cons f rest ih =>
    cases rest with
    | nil =>
      have : f.lsb = 0 := h.2.2
      simp [this]
    | cons g rest =>
      have hlsb : f.lsb ≠ 0 := by
        have := h.2.2.2.1
        have := h.2.2.1
        omega
      rw [List.getLast?_cons_cons]
      exact ih h.2.2 hlsb

/-- A field that reaches bit zero is the last one. -/
theorem getLast?_eq_of_lsb_eq_zero (h : Tiles top fields) {f : Field} (hf : f ∈ fields)
    (hlsb : f.lsb = 0) : fields.getLast? = some f := by
  have hpos := (h.bounds hf).1
  have htop : top ≠ 0 := by
    have := (h.bounds hf).2
    omega
  obtain ⟨g, hg, hg0⟩ := Option.map_eq_some_iff.mp (h.getLast?_lsb htop)
  have hgmem : g ∈ fields := List.mem_of_getLast? hg
  have hgpos := (h.bounds hgmem).1
  have hg0covers : g.covers 0 := ⟨by omega, by omega⟩
  have hf0covers : f.covers 0 := ⟨by omega, by omega⟩
  rw [hg, h.eq_of_covers hgmem hf hg0covers hf0covers]

end Tiles

end GridAsm
