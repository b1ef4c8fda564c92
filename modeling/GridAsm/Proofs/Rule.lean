import GridAsm.Proofs.Layout
import GridAsm.Rule

/-!
# Rules of rows

A rule that a row gives is that of its mnemonic, its operand text and its layout
(`ofRow?_gives_some`).  The fields of such a rule tile the sixteen bits of a word, and each of them
is one that a cell can stand for (`Field.IsRead`): the numbers in it are positions of bits, and only
a slice, an immediate value or the condition has more than one bit.
-/

namespace GridAsm

open Text

/-- A field that a cell can stand for. -/
def Field.IsRead (f : Field) : Prop :=
  match f.content with
  | .fixed value => f.width = 1 ∧ (value = 0 ∨ value = 1)
  | .ignored => f.width = 1
  | .slice _ hi lo => 0 ≤ hi ∧ 0 ≤ lo
  | .registerBit _ n => f.width = 1 ∧ 0 ≤ n
  | .immediate name => name = "Y" ∨ name = "P" ∨ name = "O"
  | .condition => True
  | .unknown => False

namespace Layout

variable {cells : List Json.Value} {fields : List Field} {notices : List Notice}

/-- Every field of a row is one that a cell can stand for. -/
theorem isRead_of_ofCells (h : (ofCells cells).Gives fields notices) {f : Field}
    (hf : f ∈ fields) : f.IsRead := by
  have hdenotes := (denotes_iff_of_ofCells h hf f.content).mpr rfl
  have hone := (scans_of_ofCells h).width_eq_one hf
  generalize cellAt cells f.msb.toNat = cell at hdenotes
  rw [Field.IsRead]
  generalize f.content = content at hdenotes hone
  cases hdenotes with
  | blank | cross | other => exact hone rfl fun _ => rfl
  | zero => exact ⟨hone rfl fun _ => rfl, .inl rfl⟩
  | one => exact ⟨hone rfl fun _ => rfl, .inr rfl⟩
  | slice => exact ⟨Int.natCast_nonneg _, Int.natCast_nonneg _⟩
  | registerBit => exact ⟨hone rfl fun _ => rfl, Int.natCast_nonneg _⟩
  | immediate hname =>
    rcases List.mem_cons.mp hname with rfl | hname
    · exact .inl rfl
    rcases List.mem_cons.mp hname with rfl | hname
    · exact .inr (.inl rfl)
    · rw [List.mem_singleton.mp hname]
      exact .inr (.inr rfl)
  | condition => trivial

end Layout

namespace Rule

variable {r : Rule} {notices : List Notice}

/-- What a row with a mnemonic gives. -/
theorem ofNamedRow_gives {mnemonic : Text} {rest : List Json.Value}
    (h : (ofNamedRow mnemonic rest).Gives r notices) :
    r.mnemonic = upper mnemonic ∧
      r.operands = (rest.head?.map Json.Value.cellText).getD [] ∧
      r.shape = Shape.classify r.operands ∧
      ∃ ns, (Layout.ofCells (rest.drop 1)).Gives r.fields ns ∧
        notices = (if r.shape = .unsupported then [.unknownShape mnemonic r.operands] else []) ++
          ns := by
  rw [ofNamedRow] at h
  generalize hoperands : (rest.head?.map Json.Value.cellText).getD [] = operands at h ⊢
  -- The notice comes first, and the rest does not depend on it.
  obtain ⟨ns, hlayout, hnotices⟩ : ∃ ns,
      (do return ⟨upper mnemonic, operands, Shape.classify operands,
        ← Layout.ofCells (rest.drop 1)⟩ : Attempt NumberFault Rule).Gives r ns ∧
      notices = (if Shape.classify operands = .unsupported then
        [.unknownShape mnemonic operands] else []) ++ ns := by
    split_ifs at h ⊢
    · obtain ⟨_, n₁, n₂, hnote, h₂, rfl⟩ := Attempt.gives_bind.mp h
      exact ⟨n₂, h₂, by rw [Attempt.gives_note.mp hnote]⟩
    · exact ⟨notices, h, rfl⟩
  obtain ⟨fields, n₁, n₂, hfields, h₂, rfl⟩ := Attempt.gives_bind.mp hlayout
  obtain ⟨rfl, rfl⟩ := Attempt.gives_pure.mp h₂
  rw [List.append_nil] at hnotices
  exact ⟨rfl, rfl, rfl, n₁, hfields, hnotices⟩

/-- A row that gives a rule has a mnemonic. -/
theorem ofRow?_gives_some {row : List Json.Value} (h : (ofRow? row).Gives (some r) notices) :
    ∃ first rest, row = first :: rest ∧ first.cellText ≠ [] ∧
      (ofNamedRow first.cellText rest).Gives r notices := by
  cases row with
  | nil => exact nomatch (Attempt.gives_pure.mp h).1
  | cons first rest =>
    simp only [ofRow?] at h
    split_ifs at h with hempty
    · exact nomatch (Attempt.gives_pure.mp h).1
    · obtain ⟨r', hgives, hr'⟩ := Attempt.gives_map.mp h
      obtain rfl := Option.some.inj hr'
      exact ⟨first, rest, rfl, by simpa using hempty, hgives⟩

/-- The fields of a row's rule are those of its format cells. -/
theorem exists_ofCells_of_ofRow? {row : List Json.Value} (h : (ofRow? row).Gives (some r) notices) :
    ∃ cells ns, (Layout.ofCells cells).Gives r.fields ns := by
  obtain ⟨first, rest, -, -, hnamed⟩ := ofRow?_gives_some h
  obtain ⟨-, -, -, ns, hfields, -⟩ := ofNamedRow_gives hnamed
  exact ⟨rest.drop 1, ns, hfields⟩

end Rule

end GridAsm
