import GridAsm.Proofs.Hexadecimal
import GridAsm.Proofs.Program

/-!
# The artifact and the addresses

A line with an address has a word or has failed (`Line.encoded_or_failed`), and the second pass
gives out the addresses from zero on, in the order of the lines (`filterMap_pc_value_linesFrom`).
So before the line at the address `p` stand `p` lines with an address, and its word comes after
those of the lines among them that did not fail (`Line.getElem?_filterMap_word`).

The artifact has the words in hexadecimal between line feeds (`Program.splitAt_artifact`), and a word
fits into the digits that it is written with (`low16_of_mem_words`), so that reading the pieces as
literals gives the words back.
-/

namespace GridAsm

open Text

/-! ### Words and addresses of lines -/

namespace Line

/-- A line has an address and a word, or an address and a fault, or none of them. -/
theorem encoded_or_failed (line : Line) :
    (∃ p word, line.pc = some p ∧ line.word = some word ∧ line.status = .encoded) ∨
    (∃ p, line.pc = some p ∧ line.word = none ∧ line.status = .failed) ∨
    (line.pc = none ∧ line.word = none ∧ line.status ≠ .encoded ∧ line.status ≠ .failed) := by
  unfold pc word status
  cases line.instruction with
  | none =>
    refine Or.inr (Or.inr ⟨rfl, rfl, ?_⟩)
    cases line.label.isSome <;> simp
  | some i =>
    cases hresult : i.result with
    | ok word =>
      refine Or.inl ⟨i.pc, word, rfl, ?_, ?_⟩
      · simp [hresult, Except.toOption]
      · simp [hresult]
    | error d =>
      refine Or.inr (Or.inl ⟨i.pc, rfl, ?_, ?_⟩)
      · simp [hresult, Except.toOption]
      · simp [hresult]

theorem exists_word_of_encoded (line : Line) (h : line.status = .encoded) :
    ∃ p word, line.pc = some p ∧ line.word = some word := by
  rcases line.encoded_or_failed with ⟨p, word, hp, hword, -⟩ | ⟨-, -, -, hs⟩ | ⟨-, -, hs, -⟩
  · exact ⟨p, word, hp, hword⟩
  · rw [hs] at h
    exact nomatch h
  · exact absurd h hs

theorem exists_word_of_not_failed (line : Line) {p : Nat} (hp : line.pc = some p)
    (h : line.status ≠ .failed) : ∃ word, line.word = some word := by
  rcases line.encoded_or_failed with ⟨-, word, -, hword, -⟩ | ⟨-, -, -, hs⟩ | ⟨hnone, -, -, -⟩
  · exact ⟨word, hword⟩
  · exact absurd hs h
  · exact nomatch hnone.symm.trans hp

/-- The lines with an address are those with a word and those that failed. -/
theorem countP_pc_eq (lines : List Line) :
    lines.countP (·.pc.isSome) =
      (lines.filterMap Line.word).length + lines.countP (·.status = .failed) := by
  induction lines with
  | nil => rfl
  | cons line rest ih =>
    rw [List.countP_cons, List.countP_cons, ih]
    rcases line.encoded_or_failed with ⟨p, word, hp, hw, hs⟩ | ⟨p, hp, hw, hs⟩ | ⟨hp, hw, -, hs⟩
    · rw [List.filterMap_cons_some hw, hp, hs]
      simp
      omega
    · rw [List.filterMap_cons_none hw, hp, hs]
      simp
      omega
    · rw [List.filterMap_cons_none hw, hp]
      simp [hs]

/-- Where the addresses are those from zero on, as many lines with an address stand before the one
at `p`, and theirs are the smaller ones. -/
theorem addresses_around {before after : List Line} {line : Line} {n p : Nat}
    (haddresses : (before ++ line :: after).filterMap Line.pc = List.range n)
    (hp : line.pc = some p) :
    before.countP (·.pc.isSome) = p ∧ (∀ l ∈ before, ∀ q, l.pc = some q → q < p) ∧
      ∀ l ∈ after, ∀ q, l.pc = some q → p < q := by
  rw [List.filterMap_append, List.filterMap_cons_some hp] at haddresses
  have hsorted : (before.filterMap Line.pc ++ p :: after.filterMap Line.pc).Pairwise (· < ·) := by
    rw [haddresses]
    exact List.pairwise_lt_range
  obtain ⟨-, hafter, hbefore⟩ := List.pairwise_append.mp hsorted
  refine ⟨?_, ?_, ?_⟩
  · -- The address at an index of the range is the index itself.
    have hget := congrArg (·[(before.filterMap Line.pc).length]?) haddresses
    simp only [List.getElem?_append_right le_rfl, Nat.sub_self, List.getElem?_cons_zero] at hget
    obtain ⟨hlt, hvalue⟩ := List.getElem?_eq_some_iff.mp hget.symm
    rw [List.getElem_range, List.length_filterMap_eq_countP] at hvalue
    exact hvalue
  · intro l hl q hq
    exact hbefore q (List.mem_filterMap.mpr ⟨l, hl, hq⟩) p (List.mem_cons_self ..)
  · intro l hl q hq
    exact (List.pairwise_cons.mp hafter).1 q (List.mem_filterMap.mpr ⟨l, hl, hq⟩)

/-- The number of lines that failed at an address below `p`. -/
def failedBelow (lines : List Line) (p : Nat) : Nat :=
  lines.countP fun l => l.status = .failed && l.pc.any (· < p)

theorem failedBelow_eq_zero {lines : List Line} (h : ∀ line ∈ lines, line.status ≠ .failed)
    (p : Nat) : failedBelow lines p = 0 := by
  rw [failedBelow, List.countP_eq_zero]
  intro line hline
  simp [h line hline]

theorem failedBelow_around {before after : List Line} {line : Line} {n p : Nat}
    (haddresses : (before ++ line :: after).filterMap Line.pc = List.range n)
    (hp : line.pc = some p) :
    failedBelow (before ++ line :: after) p = before.countP (·.status = .failed) := by
  obtain ⟨-, hbefore, hafter⟩ := addresses_around haddresses hp
  -- A line that failed has an address, and where it stands decides whether it is a smaller one.
  have hcount : before.countP (fun l => l.status = .failed && l.pc.any (· < p)) =
      before.countP (·.status = .failed) := by
    apply List.countP_congr
    intro l hl
    rcases l.encoded_or_failed with ⟨q, -, hq, -, hs⟩ | ⟨q, hq, -, hs⟩ | ⟨hq, -, -, hs⟩
    · simp [hs]
    · simp [hs, hq, hbefore l hl q hq]
    · simp [hs]
  have hrest : (line :: after).countP (fun l => l.status = .failed && l.pc.any (· < p)) = 0 := by
    rw [List.countP_eq_zero]
    intro l hl
    have hle : ∀ q, l.pc = some q → p ≤ q := by
      intro q hq
      rcases List.mem_cons.mp hl with rfl | hl
      · exact (Option.some.inj (hp.symm.trans hq)).le
      · exact (hafter l hl q hq).le
    cases hq : l.pc with
    | none => simp
    | some q => simp [hle q hq]
  rw [failedBelow, List.countP_append, hcount, hrest, Nat.add_zero]

/-- The word of the line at `p` comes after those of the lines before it that did not fail. -/
theorem getElem?_filterMap_word {lines : List Line} {line : Line} {n p : Nat} {word : Int}
    (haddresses : lines.filterMap Line.pc = List.range n) (hline : line ∈ lines)
    (hp : line.pc = some p) (hword : line.word = some word) :
    failedBelow lines p ≤ p ∧
      (lines.filterMap Line.word)[p - failedBelow lines p]? = some word := by
  obtain ⟨before, after, rfl⟩ := List.append_of_mem hline
  obtain ⟨hbefore, -, -⟩ := addresses_around haddresses hp
  rw [countP_pc_eq] at hbefore
  rw [failedBelow_around haddresses hp]
  refine ⟨by omega, ?_⟩
  have hindex : p - before.countP (·.status = .failed) = (before.filterMap Line.word).length := by
    omega
  rw [hindex, List.filterMap_append, List.filterMap_cons_some hword,
    List.getElem?_append_right le_rfl, Nat.sub_self, List.getElem?_cons_zero]

end Line

/-! ### Pieces of the artifact -/

theorem Rule.encode_bounds (r : Rule) (v : Operands) : 0 ≤ r.encode v ∧ r.encode v < 2 ^ 15 := by
  have hpos : (0 : Int) < 2 ^ 15 := Bits.two_pow_pos 15
  exact ⟨Int.emod_nonneg _ hpos.ne', Int.emod_lt_of_pos _ hpos⟩

/-- The pieces between the line feeds of an artifact are its words. -/
theorem Program.splitAt_artifact {program : Program} (h : program.words ≠ []) :
    splitAt '\n' program.artifact = program.words.map Word.hex := by
  apply splitAt_join rfl
  · simpa [hexWords] using h
  · intro piece hpiece hfeed
    obtain ⟨word, -, rfl⟩ := List.mem_map.mp hpiece
    exact absurd (Word.isBlank_of_mem_hex hfeed) (by decide)

/-! ### Programs -/

namespace RuleTable

variable (t : RuleTable) (labels : LabelTable) (filename : Text)

/-- The second pass gives out one address after the other. -/
theorem filterMap_pc_value_linesFrom (number pc : Nat) (texts : List Text) :
    (t.linesFrom labels filename number pc texts).value.filterMap Line.pc =
      List.range' pc (slots texts) := by
  induction texts generalizing number pc with
  | nil => simp [linesFrom]
  | cons text rest ih =>
    have hpc := pc_value_lineOf t labels filename number pc text
    rw [value_linesFrom_cons, slots_cons]
    cases h : takesAddress text with
    | true =>
      rw [h, if_pos rfl] at hpc
      rw [List.filterMap_cons_some hpc, if_pos rfl, ih, Nat.add_comm 1, List.range'_succ]
    | false =>
      rw [h, if_neg Bool.false_ne_true] at hpc
      rw [List.filterMap_cons_none hpc, if_neg Bool.false_ne_true, ih, Nat.add_zero, Nat.zero_add]

theorem filterMap_pc_assemble (source : Text) :
    (t.assemble source filename).value.lines.filterMap Line.pc =
      List.range (slots (sourceLines source)) := by
  rw [lines_assemble, filterMap_pc_value_linesFrom, List.range_eq_range']

theorem countP_pc_assemble (source : Text) :
    (t.assemble source filename).value.lines.countP (·.pc.isSome) = slots (sourceLines source) := by
  rw [lines_assemble, countP_pc_value_linesFrom]

theorem low16_of_mem_words {source : Text} {word : Int}
    (h : word ∈ (t.assemble source filename).value.words) : (Word.low16 word : Int) = word := by
  obtain ⟨line, hline, hword⟩ := List.mem_filterMap.mp h
  have hstatus : line.status = .encoded := by
    rcases line.encoded_or_failed with ⟨-, -, -, -, hs⟩ | ⟨-, -, hw, -⟩ | ⟨-, hw, -, -⟩
    · exact hs
    · exact nomatch hw.symm.trans hword
    · exact nomatch hw.symm.trans hword
  obtain ⟨pc, rule, v, ns, -, -, -, hencode⟩ := exists_of_encoded t filename hline hstatus
  obtain rfl := Option.some.inj (hword.symm.trans hencode)
  obtain ⟨h0, h1⟩ := rule.encode_bounds v
  exact Word.low16_of_bounds h0 (by omega)

/-- **The artifact is read back, and it follows the addresses.**  The pieces between its line feeds
are `0x` and four hexadecimal digits in capitals each, and as literals they are the words.  The word
of an encoded line stands at the line's address less the lines that failed at smaller ones.  So in a
program without failed lines the words are indexed by the addresses, and there are as many pieces as
addresses. -/
theorem artifact_reads_back {source : Text}
    (hwords : (t.assemble source filename).value.words ≠ []) :
    let program := (t.assemble source filename).value
    let pieces := splitAt '\n' program.artifact
    let slots := program.lines.countP (·.pc.isSome)
    pieces.map Literal.parse? = program.words.map some ∧
    (∀ piece ∈ pieces, ∃ digits : List Char, piece = ofString "0x" ++ ofChars digits ∧
      digits.length = 4 ∧ ∀ d ∈ digits, d ∈ "0123456789ABCDEF".toList) ∧
    (∀ line ∈ program.lines, line.status = .encoded →
      ∃ p word, line.pc = some p ∧ line.word = some word ∧
        Line.failedBelow program.lines p ≤ p ∧
        program.words[p - Line.failedBelow program.lines p]? = some word) ∧
    (program.anyFailed = false →
      (∀ p < slots, ∃ line ∈ program.lines, line.pc = some p) ∧
      (∀ line ∈ program.lines, ∀ p, line.pc = some p →
        ∃ word, line.word = some word ∧ program.words[p]? = some word) ∧
      pieces.length = slots) := by
  intro program pieces slots
  have hpieces : pieces = program.words.map Word.hex := Program.splitAt_artifact hwords
  have haddresses := filterMap_pc_assemble t filename source
  refine ⟨?_, ?_, ?_, ?_⟩
  · rw [hpieces, List.map_map]
    apply List.map_congr_left
    intro word hword
    rw [Function.comp_apply, Word.parse?_hex, low16_of_mem_words t filename hword]
  · intro piece hpiece
    rw [hpieces] at hpiece
    obtain ⟨word, -, rfl⟩ := List.mem_map.mp hpiece
    exact Word.exists_capitals_eq_hex word
  · intro line hline hstatus
    obtain ⟨p, word, hp, hword⟩ := line.exists_word_of_encoded hstatus
    exact ⟨p, word, hp, hword, Line.getElem?_filterMap_word haddresses hline hp hword⟩
  · intro hnone
    have hfailed : ∀ line ∈ program.lines, line.status ≠ .failed := by
      simpa [Program.anyFailed] using hnone
    refine ⟨?_, ?_, ?_⟩
    · intro p hp
      have hmem : p ∈ program.lines.filterMap Line.pc := by
        rw [haddresses, List.mem_range, ← countP_pc_assemble t filename]
        exact hp
      exact List.mem_filterMap.mp hmem
    · intro line hline p hp
      obtain ⟨word, hword⟩ := line.exists_word_of_not_failed hp (hfailed line hline)
      have h := (Line.getElem?_filterMap_word haddresses hline hp hword).2
      rw [Line.failedBelow_eq_zero hfailed, Nat.sub_zero] at h
      exact ⟨word, hword, h⟩
    · have hzero : program.lines.countP (·.status = .failed) = 0 := by
        simpa [List.countP_eq_zero] using hfailed
      have hcount := Line.countP_pc_eq program.lines
      rw [hzero, Nat.add_zero] at hcount
      rw [hpieces, List.length_map]
      exact hcount.symm

/-- A line that failed between two jumps moves the word of the second; without it there is a word
for every address. -/
theorem artifact_reads_back_around_failure :
    let t : RuleTable := ⟨[⟨"JMP", "P", .absolute, [⟨0, 16, .immediate "P"⟩]⟩]⟩
    let program := (t.assemble "JMP 0x7A5\nFOO\nend: JMP end" "<input>").value
    let whole := (t.assemble "JMP 0x7A5\nend: JMP end" "<input>").value
    program.words ≠ [] ∧ program.artifact = ofString "0x07A5\n0x0002" ∧
      (splitAt '\n' program.artifact).map Literal.parse? = program.words.map some ∧
      (∃ line ∈ program.lines, line.pc = some 2 ∧ Line.failedBelow program.lines 2 = 1 ∧
        ∃ word, line.word = some word ∧ program.words[1]? = some word) ∧
      whole.words ≠ [] ∧ whole.anyFailed = false ∧
      (splitAt '\n' whole.artifact).length = whole.lines.countP (·.pc.isSome) := by
  intro t program whole
  have hprogram : program.words ≠ [] := by decide +kernel
  have hwhole : whole.words ≠ [] := by decide +kernel
  have hnone : whole.anyFailed = false := by decide +kernel
  have hbelow : Line.failedBelow program.lines 2 = 1 := by decide +kernel
  have hline : program.lines[2]?.map (fun line => (line.status, line.pc)) =
      some (.encoded, some 2) := by decide +kernel
  obtain ⟨line, hget, hfacts⟩ := Option.map_eq_some_iff.mp hline
  obtain ⟨hstatus, hpc⟩ := Prod.mk.inj hfacts
  obtain ⟨hparse, -, hindex, -⟩ := artifact_reads_back t "<input>" hprogram
  obtain ⟨p, word, hp, hword, -, hat⟩ := hindex line (List.mem_of_getElem? hget) hstatus
  obtain rfl := Option.some.inj (hpc.symm.trans hp)
  refine ⟨hprogram, by decide +kernel, hparse, ?_, hwhole, hnone, ?_⟩
  · refine ⟨line, List.mem_of_getElem? hget, hpc, hbelow, word, hword, ?_⟩
    rw [hbelow] at hat
    exact hat
  · exact ((artifact_reads_back t "<input>" hwhole).2.2.2 hnone).2.2

end RuleTable

end GridAsm
