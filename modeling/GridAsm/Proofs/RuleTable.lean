import GridAsm.Proofs.Word
import GridAsm.RuleTable

/-!
# Tables of grids

Every rule of a table that a grid gives is the rule of one of its rows (`exists_row_of_find?`), so
that what holds of the rules of rows holds of all words that the table gives.
-/

namespace GridAsm

open Text

namespace RuleTable

/-! ### Rows -/

variable {rows : List (List Json.Value)} {rules : List Rule} {notices : List Notice}

theorem rulesOfRows_nil_gives :
    (rulesOfRows []).Gives rules notices ↔ rules = [] ∧ notices = [] :=
  Attempt.gives_pure

/-- The rules of rows are the one that the first row may have and those of the others. -/
theorem rulesOfRows_cons_gives {row : List Json.Value} :
    (rulesOfRows (row :: rows)).Gives rules notices ↔
      ∃ rule? others n₁ n₂, (Rule.ofRow? row).Gives rule? n₁ ∧ (rulesOfRows rows).Gives others n₂ ∧
        rules = rule?.toList ++ others ∧ notices = n₁ ++ n₂ := by
  rw [rulesOfRows, Attempt.gives_bind]
  constructor
  · rintro ⟨rule?, n₁, n₂, hrow, h, rfl⟩
    obtain ⟨others, n₃, n₄, hrest, hpure, rfl⟩ := Attempt.gives_bind.mp h
    obtain ⟨rfl, rfl⟩ := Attempt.gives_pure.mp hpure
    exact ⟨rule?, others, n₁, n₃, hrow, hrest, rfl, by rw [List.append_nil]⟩
  · rintro ⟨rule?, others, n₁, n₂, hrow, hrest, rfl, rfl⟩
    refine ⟨rule?, n₁, n₂, hrow, Attempt.gives_bind.mpr ⟨others, n₂, [], hrest, ?_, ?_⟩, rfl⟩
    · exact Attempt.gives_pure.mpr ⟨rfl, rfl⟩
    · rw [List.append_nil]

theorem exists_row_of_mem_rulesOfRows (h : (rulesOfRows rows).Gives rules notices) {rule : Rule}
    (hrule : rule ∈ rules) : ∃ row ∈ rows, ∃ ns, (Rule.ofRow? row).Gives (some rule) ns := by
  induction rows generalizing rules notices with
  | nil =>
    obtain ⟨rfl, -⟩ := rulesOfRows_nil_gives.mp h
    exact absurd hrule List.not_mem_nil
  | cons row rest ih =>
    obtain ⟨rule?, others, n₁, n₂, hrow, hrest, rfl, -⟩ := rulesOfRows_cons_gives.mp h
    rcases List.mem_append.mp hrule with hfirst | hother
    · obtain rfl := Option.mem_toList.mp hfirst
      exact ⟨row, List.mem_cons_self .., n₁, hrow⟩
    · obtain ⟨row', hmem, hgives⟩ := ih hrest hother
      exact ⟨row', List.mem_cons_of_mem _ hmem, hgives⟩

/-- Rows have rules if each of them can be read. -/
theorem succeeds_rulesOfRows_iff :
    (rulesOfRows rows).Succeeds ↔ ∀ row ∈ rows, (Rule.ofRow? row).Succeeds := by
  induction rows with
  | nil => exact ⟨fun _ => List.forall_mem_nil _, fun _ => Attempt.succeeds_pure []⟩
  | cons row rest ih =>
    rw [List.forall_mem_cons, ← ih]
    constructor
    · rintro ⟨rules, notices, h⟩
      obtain ⟨rule?, others, n₁, n₂, hrow, hrest, -⟩ := rulesOfRows_cons_gives.mp h
      exact ⟨⟨rule?, n₁, hrow⟩, others, n₂, hrest⟩
    · rintro ⟨⟨rule?, n₁, hrow⟩, others, n₂, hrest⟩
      exact ⟨_, _, rulesOfRows_cons_gives.mpr ⟨rule?, others, n₁, n₂, hrow, hrest, rfl, rfl⟩⟩

/-- The rules of rows and more rows are those of both. -/
theorem rulesOfRows_append (rows more : List (List Json.Value)) :
    rulesOfRows (rows ++ more) = do
      let rules ← rulesOfRows rows
      let extra ← rulesOfRows more
      return rules ++ extra := by
  induction rows with
  | nil => simp [rulesOfRows]
  | cons row rest ih =>
    simp only [List.cons_append, rulesOfRows, ih, bind_assoc, pure_bind, List.append_assoc]

/-! ### Grids -/

variable {grid : List (List Json.Value)} {t : RuleTable}

/-- The table of a grid has the rules of its rows; the warnings about them come last. -/
theorem ofGrid_gives :
    (ofGrid grid).Gives t notices ↔
      ∃ ns, (rulesOfRows (grid.drop 1)).Gives t.rules ns ∧
        notices = ns ++ .rulesRead t.size :: t.duplicateNotices := by
  rw [ofGrid, Attempt.gives_bind]
  constructor
  · rintro ⟨rules, n₁, n₂, hrules, htable, rfl⟩
    obtain ⟨_, n₃, n₄, hnote, hofRules, rfl⟩ := Attempt.gives_bind.mp htable
    obtain ⟨rfl, rfl⟩ := Attempt.gives_liftM.mp hofRules
    obtain rfl := Attempt.gives_note.mp hnote
    exact ⟨n₁, hrules, rfl⟩
  · rintro ⟨ns, hrules, rfl⟩
    refine ⟨t.rules, ns, _, hrules, Attempt.gives_bind.mpr ?_, rfl⟩
    exact ⟨(), [.rulesRead t.size], t.duplicateNotices, Attempt.gives_note.mpr rfl,
      Attempt.gives_liftM.mpr ⟨rfl, rfl⟩, rfl⟩

/-- The rule that a grid's table has for a mnemonic is that of a row of the grid. -/
theorem exists_row_of_find? (h : (ofGrid grid).Gives t notices) {name : Text} {rule : Rule}
    (hrule : t.find? name = some rule) :
    ∃ row ∈ grid.drop 1, ∃ ns, (Rule.ofRow? row).Gives (some rule) ns := by
  obtain ⟨ns, hrules, -⟩ := ofGrid_gives.mp h
  exact exists_row_of_mem_rulesOfRows hrules (List.mem_of_find?_eq_some hrule)

/-- A grid has a table if every row after the header can be read. -/
theorem succeeds_ofGrid_iff :
    (ofGrid grid).Succeeds ↔ ∀ row ∈ grid.drop 1, (Rule.ofRow? row).Succeeds := by
  rw [← succeeds_rulesOfRows_iff]
  constructor
  · rintro ⟨t, notices, h⟩
    obtain ⟨ns, hrules, -⟩ := ofGrid_gives.mp h
    exact ⟨t.rules, ns, hrules⟩
  · rintro ⟨rules, ns, hrules⟩
    exact ⟨⟨rules⟩, _, ofGrid_gives.mpr ⟨ns, hrules, rfl⟩⟩

end RuleTable

end GridAsm
