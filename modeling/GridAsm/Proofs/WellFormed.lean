import GridAsm.Proofs.Acceptance
import GridAsm.Proofs.Artifact

/-!
# Programs are well formed

The views of a line (its status, address, word and fault) each look at another part of it.
`Line.WellFormed` says how they go together, and how they follow from the line's text: a line has an
address if it has code, then either a word or a fault, and a fault knows its place.

`wellFormed_lineOf` is that of one line, at whatever address the second pass reaches it.  For a whole
program the lines are then counted: those with an address by `filterMap_pc_assemble`, those with a
word or a fault by `length_words_add_length_errors`.
-/

namespace GridAsm

open Text

/-! ### Lines -/

/-- A line is that of a text: its number, what became of it, and where its fault is. -/
structure Line.WellFormed (filename : Text) (number : Nat) (text : Text) (line : Line) : Prop where
  number_eq : line.number = number
  text_eq : line.text = text
  /-- Lines without code are blank or have a label only. -/
  idle_iff : line.status = .blank ∨ line.status = .labelOnly ↔ (SourceLine.parse text).code = []
  labelOnly_iff : line.status = .labelOnly ↔
    (SourceLine.parse text).code = [] ∧ (SourceLine.parse text).label ≠ none
  idle_views : (SourceLine.parse text).code = [] →
    line.pc = none ∧ line.word = none ∧ line.error = none
  pc_iff : line.pc ≠ none ↔ (SourceLine.parse text).code ≠ []
  word_iff : line.word ≠ none ↔ line.status = .encoded
  word_bounds : ∀ word, line.word = some word → 0 ≤ word ∧ word ≤ 0x7FFF
  error_iff : line.error ≠ none ↔ line.status = .failed
  error_place : ∀ d, line.error = some d →
    d.location = some ⟨filename, number, 0⟩ ∧ d.sourceLine = some (trim text)

namespace Line

theorem word_ne_none_iff (line : Line) : line.word ≠ none ↔ line.status = .encoded := by
  rcases line.encoded_or_failed with ⟨p, word, -, hw, hs⟩ | ⟨p, -, hw, hs⟩ | ⟨-, hw, hs, -⟩
  · simp [hw, hs]
  · simp [hw, hs]
  · simp [hw, hs]

theorem error_ne_none_iff (line : Line) : line.error ≠ none ↔ line.status = .failed := by
  unfold error status
  cases line.instruction with
  | none => cases line.label.isSome <;> simp
  | some i => cases hresult : i.result <;> simp [hresult]

/-- A line with an address has a word or a fault, and never both. -/
theorem length_words_add_length_errors (lines : List Line) :
    (lines.filterMap Line.word).length + (lines.filterMap Line.error).length =
      lines.countP (·.pc.isSome) := by
  have herrors : (lines.filterMap Line.error).length = lines.countP (·.status = .failed) := by
    rw [List.length_filterMap_eq_countP]
    apply List.countP_congr
    intro line _
    rw [Option.isSome_iff_ne_none, decide_eq_true_eq]
    exact line.error_ne_none_iff
  rw [herrors, countP_pc_eq]

end Line

theorem Program.anyFailed_iff (program : Program) :
    program.anyFailed = true ↔ program.errors ≠ [] := by
  have hfailed : program.anyFailed = true ↔ ∃ line ∈ program.lines, line.status = .failed := by
    simp [anyFailed]
  have herrors : program.errors ≠ [] ↔ ∃ line ∈ program.lines, line.error ≠ none := by
    simp [errors, List.filterMap_eq_nil_iff]
  rw [hfailed, herrors]
  simp only [Line.error_ne_none_iff]

/-! ### The second pass -/

namespace RuleTable

variable (t : RuleTable) (labels : LabelTable) (filename : Text)

theorem bounds_of_outcome_wordOf {code : Text} {pc word : Int}
    (h : (t.wordOf code pc labels).outcome.toOption = some word) : 0 ≤ word ∧ word ≤ 0x7FFF := by
  cases hrule : t.find? (codeParts code).1 with
  | none =>
    rw [outcome_wordOf_of_none hrule] at h
    exact nomatch h
  | some rule =>
    rw [outcome_wordOf_of_some hrule] at h
    cases hparse : (Operands.parse rule (Token.split (codeParts code).2) labels pc).outcome with
    | error fault =>
      rw [hparse] at h
      exact nomatch h
    | ok v =>
      rw [hparse] at h
      obtain rfl := Option.some.inj h
      have hbounds := rule.encode_bounds v
      omega

/-- Every line is well formed, encoded or not, at any address. -/
theorem wellFormed_lineOf (number pc : Nat) (text : Text) :
    (t.lineOf labels filename number text pc).value.WellFormed filename number text where
  number_eq := number_value_lineOf t labels filename number pc text
  text_eq := text_value_lineOf t labels filename number pc text
  idle_iff := by
    rw [status_value_lineOf, ← takesAddress_eq_false_iff]
    split_ifs <;> simp_all
  labelOnly_iff := by
    rw [status_value_lineOf, ← takesAddress_eq_false_iff, ← Option.isSome_iff_ne_none]
    split_ifs <;> simp_all
  idle_views := by
    intro hcode
    rw [pc_value_lineOf, word_value_lineOf, error_value_lineOf,
      takesAddress_eq_false_iff.mpr hcode]
    exact ⟨rfl, rfl, rfl⟩
  pc_iff := by
    rw [pc_value_lineOf, ne_eq, ne_eq, ← takesAddress_eq_false_iff]
    cases takesAddress text <;> simp
  word_iff := Line.word_ne_none_iff _
  word_bounds := by
    intro word hword
    rw [word_value_lineOf] at hword
    split_ifs at hword
    exact bounds_of_outcome_wordOf t labels hword
  error_iff := Line.error_ne_none_iff _
  error_place := by
    intro d hd
    rw [error_value_lineOf] at hd
    split_ifs at hd
    obtain ⟨fault, -, rfl⟩ := Option.map_eq_some_iff.mp hd
    exact ⟨rfl, rfl⟩

/-- **Programs are well formed.**  A program has one line for each line of its source, numbered from
one on, and each is well formed.  The addresses are those from zero on, in the order of the lines.
A line has failed if and only if there are faults, and there are as many words and faults together
as lines with code.  No word is lost to a negative shift. -/
theorem assemble_wellFormed {grid : List (List Json.Value)} {t : RuleTable}
    {notices : List Notice} (hgrid : (ofGrid grid).Gives t notices) (source filename : Text) :
    let texts := sourceLines source
    let program := (t.assemble source filename).value
    let slots := texts.countP fun text => (SourceLine.parse text).code ≠ []
    (∀ name rule, t.find? name = some rule → ∀ v, rule.packChecked v = .ok (rule.pack v)) ∧
    program.lines.length = texts.length ∧
    (∀ i text, texts[i]? = some text →
      ∃ line : Line, program.lines[i]? = some line ∧ line.WellFormed filename (i + 1) text) ∧
    program.lines.filterMap Line.pc = List.range slots ∧
    (program.anyFailed = true ↔ program.errors ≠ []) ∧
    program.words.length + program.errors.length = slots := by
  intro texts program slots
  refine ⟨?_, length_lines_assemble t filename source, ?_, filterMap_pc_assemble t filename source,
    program.anyFailed_iff, ?_⟩
  · intro name rule hrule v
    obtain ⟨row, -, ns, hrow⟩ := exists_row_of_find? hgrid hrule
    exact Rule.packChecked_eq_pack hrow v
  · intro i text hi
    refine ⟨_, by rw [lines_assemble, getElem?_value_linesFrom, hi, Option.map_some], ?_⟩
    rw [Nat.add_comm 1 i]
    exact wellFormed_lineOf ..
  · have hcount := countP_pc_assemble t filename source
    rw [← Line.length_words_add_length_errors] at hcount
    exact hcount

/-- A blank line, a label, a jump and a line that fails. -/
theorem assemble_wellFormed_of_four_lines :
    let grid := [[], (["jmp", "P", "0", "1"] ++ List.replicate 14 "P").map fun s : String =>
      Json.Value.text s]
    let t : RuleTable := ⟨[⟨"JMP", "P", .absolute,
      [⟨15, 1, .fixed 0⟩, ⟨14, 1, .fixed 1⟩, ⟨0, 14, .immediate "P"⟩]⟩]⟩
    let program := (t.assemble "; note\nhere:\n JMP here\n FOO 1 " "a.asm").value
    (ofGrid grid).Gives t [.rulesRead 1] ∧
      program.lines.map Line.status = [.blank, .labelOnly, .encoded, .failed] ∧
      program.lines.filterMap Line.pc = [0, 1] ∧ program.errors ≠ [] ∧
      program.words.length + program.errors.length = 2 ∧
      ∃ line, program.lines[3]? = some line ∧ line.number = 4 ∧
        ∃ d, line.error = some d ∧ d.location = some ⟨"a.asm", 4, 0⟩ ∧
          d.sourceLine = some (ofString "FOO 1") := by
  intro grid t program
  have hgrid : (ofGrid grid).Gives t [.rulesRead 1] := by decide +kernel
  have hstatus : program.lines.map Line.status = [.blank, .labelOnly, .encoded, .failed] := by
    decide +kernel
  have htext : (sourceLines "; note\nhere:\n JMP here\n FOO 1 ")[3]? =
      some (ofString " FOO 1 ") := by decide +kernel
  have hslots : (sourceLines "; note\nhere:\n JMP here\n FOO 1 ").countP
      (fun text => (SourceLine.parse text).code ≠ []) = 2 := by decide +kernel
  obtain ⟨-, -, hlines, hpcs, hany, hcount⟩ :=
    assemble_wellFormed hgrid "; note\nhere:\n JMP here\n FOO 1 " "a.asm"
  rw [hslots] at hpcs hcount
  obtain ⟨line, hline, hwell⟩ := hlines 3 _ htext
  have hfailed : line.status = .failed := by
    have h := congrArg (·[3]?) hstatus
    rw [List.getElem?_map, hline] at h
    exact Option.some.inj h
  obtain ⟨d, hd⟩ := Option.ne_none_iff_exists'.mp (hwell.error_iff.mpr hfailed)
  obtain ⟨hplace, hquote⟩ := hwell.error_place d hd
  have htrim : trim (ofString " FOO 1 ") = "FOO 1" := by decide +kernel
  rw [htrim] at hquote
  refine ⟨hgrid, hstatus, hpcs, hany.mp (by decide +kernel), hcount, line, hline, hwell.number_eq, d,
    hd, hplace, hquote⟩

end RuleTable

end GridAsm
