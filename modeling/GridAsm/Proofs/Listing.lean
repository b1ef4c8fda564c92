import GridAsm.Listing
import GridAsm.Proofs.LayoutText
import GridAsm.Proofs.LineEnd
import GridAsm.Proofs.Segment
import GridAsm.Proofs.Spacing
import GridAsm.Proofs.WellFormed

/-!
# Listings have one row for each line

A listing is its rows, joined by line feeds, so cutting it at line feeds gives the rows back if they
have none.  A row shows the texts of a line, which come from the line itself, and the lines of a
source have no line feeds (`feed_not_mem_lines`); nor has anything that stands beside them
(`feed_not_mem_lineRow`).  Faults may have line feeds, since the name of the source may, but they
stand after all rows.
-/

namespace GridAsm

open Text

namespace Text

/-! ### Cutting at line feeds -/

theorem splitAt_append_cons (sep : Char) (a b : Text) :
    splitAt sep (a ++ .char sep :: b) = splitAt sep a ++ splitAt sep b := by
  induction a with
  | nil => exact if_pos rfl
  | cons p a ih =>
    obtain ⟨first, rest, ha⟩ := exists_splitAt_eq_cons sep a
    rw [ha, List.cons_append] at ih
    rw [List.cons_append, splitAt, splitAt, ih, ha]
    split_ifs <;> rfl

/-- The pieces of joined texts are those of one text after the other. -/
theorem splitAt_join_flatMap {sep : Char} {separator : String}
    (hsep : ofString separator = [.char sep]) {ts : List Text} (hne : ts ≠ []) :
    splitAt sep (join separator ts) = ts.flatMap (splitAt sep) := by
  induction ts with
  | nil => exact absurd rfl hne
  | cons t ts ih =>
    cases ts with
    | nil => rw [join_singleton, List.flatMap_singleton]
    | cons next ts =>
      rw [join_cons_cons, hsep, List.singleton_append, splitAt_append_cons,
        ih (List.cons_ne_nil next ts)]
      rfl

theorem flatMap_splitAt {sep : Char} {ts : List Text} (h : ∀ t ∈ ts, .char sep ∉ t) :
    ts.flatMap (splitAt sep) = ts := by
  induction ts with
  | nil => rfl
  | cons t ts ih =>
    rw [List.forall_mem_cons] at h
    rw [List.flatMap_cons, splitAt_of_not_mem h.1, ih h.2]
    rfl

theorem feed_not_mem_of_not_blank {t : Text} (h : ∀ p ∈ t, isBlank p = false) :
    CodePoint.char '\n' ∉ t :=
  fun hfeed => absurd (h _ hfeed) (by decide)

theorem mem_of_mem_dropReturn {line : Text} {p : CodePoint} (h : p ∈ dropReturn line) :
    p ∈ line := by
  unfold dropReturn at h
  split at h
  · exact List.mem_cons_of_mem _ h
  · exact h

theorem feed_not_mem_linesFrom {line : Text} (hline : CodePoint.char '\n' ∉ line) (t : Text) :
    ∀ text ∈ linesFrom line t, CodePoint.char '\n' ∉ text := by
  induction t generalizing line with
  | nil =>
    intro text htext hfeed
    rw [List.mem_singleton.mp htext] at hfeed
    exact hline (List.mem_reverse.mp hfeed)
  | cons p rest ih =>
    by_cases hp : p = .char '\n'
    · rw [linesFrom, if_pos hp, List.forall_mem_cons]
      refine ⟨fun hfeed => ?_, ih List.not_mem_nil⟩
      exact hline (mem_of_mem_dropReturn (List.mem_reverse.mp hfeed))
    · rw [linesFrom, if_neg hp]
      apply ih
      rw [List.mem_cons, not_or]
      exact ⟨Ne.symm hp, hline⟩

/-- The lines of a text have no line feeds. -/
theorem feed_not_mem_lines {t text : Text} (h : text ∈ lines t) : CodePoint.char '\n' ∉ text :=
  feed_not_mem_linesFrom List.not_mem_nil t text h

theorem feed_not_mem_alignLeft {width : Nat} {t : Text} (h : CodePoint.char '\n' ∉ t) :
    CodePoint.char '\n' ∉ alignLeft width t := by
  intro hmem
  rcases List.mem_append.mp hmem with hmem | hmem
  · exact h hmem
  · exact absurd (List.eq_of_mem_replicate hmem) (by decide)

theorem feed_not_mem_alignRight {width : Nat} {t : Text} (h : CodePoint.char '\n' ∉ t) :
    CodePoint.char '\n' ∉ alignRight width t := by
  intro hmem
  rcases List.mem_append.mp hmem with hmem | hmem
  · exact absurd (List.eq_of_mem_replicate hmem) (by decide)
  · exact h hmem

end Text

/-! ### Words and numbers -/

namespace Word

theorem feed_not_mem_join_cut {separator : String} (hsep : CodePoint.char '\n' ∉ ofString separator)
    (ws : List Nat) (word : Int) : CodePoint.char '\n' ∉ join separator (cut ws (bits word)) := by
  intro hfeed
  rcases mem_join hfeed with hfeed | ⟨piece, hpiece, hfeed⟩
  · exact hsep hfeed
  · exact feed_not_mem_of_not_blank isBlank_of_mem_bits (mem_of_mem_cut hpiece hfeed)

end Word

namespace Listing

theorem feed_not_mem_decimal (n : Nat) : CodePoint.char '\n' ∉ ofString (decimal n) :=
  feed_not_mem_of_not_blank fun p hp => isBlank_of_isDigit ((isDigits_decimal n).2 p hp)

theorem feed_not_mem_address (pc : Nat) : CodePoint.char '\n' ∉ address pc := by
  obtain ⟨ds, hds, -, hlt, -⟩ := @exists_toDigits_eq 16 (by decide) pc
  have hdigit : ∀ d < 16, (Nat.digitChar d).toUpper ≠ '\n' := by decide
  have haddress : address pc = ofChars (List.replicate (4 - (digitsUpper 16 pc).length) '0' ++
      (ds.map Nat.digitChar).map Char.toUpper) := by
    rw [← hds]
    rfl
  rw [haddress, ofChars, List.mem_map]
  rintro ⟨c, hc, hfeed⟩
  rw [CodePoint.char.inj hfeed, List.mem_append] at hc
  rcases hc with hc | hc
  · exact absurd (List.eq_of_mem_replicate hc) (by decide)
  · rw [List.map_map, List.mem_map] at hc
    obtain ⟨d, hd, hfeed⟩ := hc
    exact hdigit d (hlt d hd) hfeed

/-! ### Rows -/

theorem feed_not_mem_row {number pc mnemonic operands hex binary segments source : Text}
    (h : ∀ t ∈ [number, pc, mnemonic, operands, hex, binary, segments, source],
      CodePoint.char '\n' ∉ t) :
    CodePoint.char '\n' ∉ row number pc mnemonic operands hex binary segments source := by
  intro hfeed
  simp only [List.forall_mem_cons, List.not_mem_nil, false_implies, implies_true, and_true] at h
  obtain ⟨hnumber, hpc, hmnemonic, hoperands, hhex, hbinary, hsegments, hsource⟩ := h
  rcases mem_join hfeed with hsep | ⟨column, hcolumn, hmem⟩
  · exact absurd hsep (by decide)
  · simp only [List.mem_cons, List.not_mem_nil, or_false] at hcolumn
    rcases hcolumn with rfl | rfl | rfl | rfl | rfl | rfl | rfl | rfl
    · exact feed_not_mem_alignRight hnumber hmem
    · exact feed_not_mem_alignRight hpc hmem
    · exact feed_not_mem_alignLeft hmnemonic hmem
    · exact feed_not_mem_alignLeft hoperands hmem
    · exact feed_not_mem_alignLeft hhex hmem
    · exact feed_not_mem_alignLeft hbinary hmem
    · exact feed_not_mem_alignLeft hsegments hmem
    · exact hsource hmem

theorem feed_not_mem_lineRow {line : Line} (hmnemonic : CodePoint.char '\n' ∉ line.mnemonic)
    (hoperands : CodePoint.char '\n' ∉ line.operands) (htext : CodePoint.char '\n' ∉ line.text) :
    CodePoint.char '\n' ∉ lineRow line := by
  have hword : ∀ f : Int → Text, (∀ word, CodePoint.char '\n' ∉ f word) →
      CodePoint.char '\n' ∉ (line.word.map f).getD "" := by
    intro f hf
    cases line.word with
    | none => exact List.not_mem_nil
    | some word => exact hf word
  apply feed_not_mem_row
  simp only [List.forall_mem_cons, List.not_mem_nil, false_implies, implies_true, and_true]
  refine ⟨feed_not_mem_decimal line.number, ?_, hmnemonic, hoperands, hword _ fun word => ?_,
    hword _ fun word => ?_, hword _ fun word => ?_, ?_⟩
  · cases line.pc with
    | none => decide
    | some pc => exact feed_not_mem_address pc
  · exact feed_not_mem_of_not_blank fun p hp => Word.isBlank_of_mem_hex hp
  · exact Word.feed_not_mem_join_cut (by decide) _ word
  · exact Word.feed_not_mem_join_cut (by decide) _ word
  · obtain ⟨b, -, hsplit⟩ := exists_eq_trimEnd_append line.text
    intro hfeed
    rw [hsplit] at htext
    exact htext (List.mem_append_left b hfeed)

/-- The columns of the word. -/
def codeColumns (l : Line) : Text :=
  Text.join "  " [alignLeft 6 l.hex, alignLeft 19 l.binary, alignLeft 28 l.segmented]

theorem lineRow_eq (l : Line) :
    lineRow l = Text.join "  " [alignRight 5 (decimal l.number),
      alignRight 4 ((l.pc.map address).getD ""), alignLeft 8 l.mnemonic, alignLeft 14 l.operands,
      codeColumns l, trimEnd l.text] := by
  unfold lineRow row codeColumns
  simp only [join_cons_cons, join_singleton, List.append_assoc]

theorem allBlank_codeColumns_iff (l : Line) : allBlank (codeColumns l) = true ↔ l.word = none := by
  cases hword : l.word with
  | none =>
    have hblank : codeColumns l =
        Text.join "  " [alignLeft 6 "", alignLeft 19 "", alignLeft 28 ""] := by
      rw [codeColumns, Line.hex, Line.binary, Line.segmented, hword]
      rfl
    rw [hblank]
    exact iff_of_true (by decide) rfl
  | some word =>
    refine iff_of_false (fun hblank => ?_) (Option.some_ne_none word)
    have hzero : CodePoint.char '0' ∈ codeColumns l := by
      rw [codeColumns, Line.hex, hword, join_cons_cons]
      exact List.mem_cons_self
    exact absurd (List.all_eq_true.mp hblank _ hzero) (by decide)

/-! ### The pieces of a listing -/

theorem feed_not_mem_summary (p : Program) : CodePoint.char '\n' ∉ ofString (summary p) := by
  have hword : ∀ n : Nat, CodePoint.char '\n' ∉
      ofString (if n = 1 then " error" else " errors") := by
    intro n
    split_ifs <;> decide
  unfold summary
  rw [ofString_append, ofString_append, ofString_append]
  simp only [List.mem_append, not_or]
  exact ⟨⟨⟨feed_not_mem_decimal _, by decide⟩, feed_not_mem_decimal _⟩, hword _⟩

theorem flatMap_splitAt_errorRows (p : Program) :
    (errorRows p.errors).flatMap (splitAt '\n') =
      if p.anyFailed then
        [] :: ofString "Errors:" :: p.errors.flatMap fun d => splitAt '\n' d.render
      else [] := by
  cases herrors : p.errors with
  | nil =>
    have hfailed : ¬ p.anyFailed = true := fun h => p.anyFailed_iff.mp h herrors
    rw [if_neg hfailed]
    rfl
  | cons d ds =>
    have hfailed : p.anyFailed = true := by
      rw [p.anyFailed_iff, herrors]
      exact List.cons_ne_nil d ds
    have hheading : splitAt '\n' (ofString "Errors:") = [ofString "Errors:"] := by decide
    rw [if_pos hfailed]
    show splitAt '\n' (ofString "") ++ (splitAt '\n' (ofString "Errors:") ++
      ((d :: ds).map Diagnostic.render).flatMap (splitAt '\n')) = _
    rw [hheading, List.flatMap_map]
    rfl

theorem header_eq : header =
    ofString (" LINE    PC  MNEMONIC  OPERANDS        HEX     BINARY               " ++
      "SEGMENTS                      SOURCE") := by
  decide

/-- Where no row has a line feed, a listing is cut into its rows, its faults and its summary. -/
theorem splitAt_render {p : Program} (h : ∀ row ∈ p.lines.map lineRow, CodePoint.char '\n' ∉ row) :
    splitAt '\n' (render p) =
      header :: rule :: p.lines.map lineRow ++
        (if p.anyFailed then
          [] :: ofString "Errors:" :: p.errors.flatMap fun d => splitAt '\n' d.render
        else []) ++
        [[], ofString (summary p)] := by
  have hheader : CodePoint.char '\n' ∉ header := by decide
  have hrule : CodePoint.char '\n' ∉ rule := by decide
  have htable : ∀ row ∈ header :: rule :: p.lines.map lineRow, CodePoint.char '\n' ∉ row := by
    rw [List.forall_mem_cons, List.forall_mem_cons]
    exact ⟨hheader, hrule, h⟩
  have hclosing : ∀ row ∈ [[], ofString (summary p)], CodePoint.char '\n' ∉ row := by
    rw [List.forall_mem_cons, List.forall_mem_singleton]
    exact ⟨List.not_mem_nil, feed_not_mem_summary p⟩
  have hrows : rows p = (header :: rule :: p.lines.map lineRow) ++ errorRows p.errors ++
      [[], ofString (summary p)] := rfl
  have hne : rows p ≠ [] := List.cons_ne_nil _ _
  unfold render
  rw [splitAt_join_flatMap rfl hne, hrows, List.flatMap_append, List.flatMap_append,
    flatMap_splitAt htable, flatMap_splitAt_errorRows, flatMap_splitAt hclosing]

end Listing

namespace RuleTable

variable (t : RuleTable) (labels : LabelTable) (filename : Text)

theorem mem_of_mem_operandText {code : Text} {p : CodePoint} (h : p ∈ (codeParts code).2) :
    p ∈ code := by
  have hrest : p ∈ trimStart ((trim code).dropWhile (!isBlank ·)) := mem_of_mem_trim h
  have hword : p ∈ (trim code).dropWhile (!isBlank ·) :=
    (List.dropWhile_suffix isBlank).subset hrest
  exact mem_of_mem_trim ((List.dropWhile_suffix _).subset hword)

theorem feed_not_mem_lineRow_lineOf (number pc : Nat) {text : Text}
    (h : CodePoint.char '\n' ∉ text) :
    CodePoint.char '\n' ∉ Listing.lineRow (t.lineOf labels filename number text pc).value := by
  apply Listing.feed_not_mem_lineRow
  · rw [mnemonic_value_lineOf]
    split_ifs
    · exact feed_not_mem_of_not_blank fun p hp => isBlank_of_mem_mnemonic hp
    · exact List.not_mem_nil
  · rw [operands_value_lineOf]
    split_ifs
    · intro hfeed
      have hcode := mem_of_mem_operandText hfeed
      exact h (SourceLine.mem_withoutComment (SourceLine.mem_withoutComment_of_mem_code hcode)).2
    · exact List.not_mem_nil
  · rw [text_value_lineOf]
    exact h

/-- The rows of the lines are in one piece each, whatever the source. -/
theorem feed_not_mem_rows (source : Text) :
    ∀ row ∈ (t.assemble source filename).value.lines.map Listing.lineRow,
      CodePoint.char '\n' ∉ row := by
  intro row hrow
  obtain ⟨line, hline, rfl⟩ := List.mem_map.mp hrow
  obtain ⟨i, hi⟩ := List.mem_iff_getElem?.mp hline
  rw [lines_assemble, getElem?_value_linesFrom] at hi
  obtain ⟨text, htext, rfl⟩ := Option.map_eq_some_iff.mp hi
  have hfeed := feed_not_mem_lines (List.mem_of_getElem? htext)
  exact feed_not_mem_lineRow_lineOf t _ filename _ _ hfeed

/-- **Listings have one row for each line.**  Cut at line feeds, a listing is the heading, the rule,
a row for each line of the source, the faults in order if a line failed, and the summary.  The row
of a line starts with its number and ends with its text, and the columns of its word are blank just
if it has none.  The words and the faults of the summary are as many as the addresses together. -/
theorem listing_has_one_row_per_line (source : Text) :
    let program := (t.assemble source filename).value
    let pieces := splitAt '\n' (Listing.render program)
    let words := program.words.length
    let errors := program.errors.length
    pieces = ofString (" LINE    PC  MNEMONIC  OPERANDS        HEX     BINARY               " ++
          "SEGMENTS                      SOURCE") ::
        List.replicate 110 (.char '-') :: program.lines.map Listing.lineRow ++
        (if program.anyFailed then
          [] :: ofString "Errors:" :: program.errors.flatMap fun d => splitAt '\n' d.render
        else []) ++
        [[], ofString (decimal words ++ " words, " ++ decimal errors ++
          if errors = 1 then " error" else " errors")] ∧
      words + errors = program.lines.countP (·.pc.isSome) ∧
      program.lines.length = (sourceLines source).length ∧
      ∀ i text, (sourceLines source)[i]? = some text →
        ∃ line code, program.lines[i]? = some line ∧
          pieces[2 + i]? = some (Text.join "  " [alignRight 5 (decimal ((i + 1 : Nat))),
            alignRight 4 ((line.pc.map Listing.address).getD ""), alignLeft 8 line.mnemonic,
            alignLeft 14 line.operands, code, trimEnd text]) ∧
          code = Text.join "  "
            [alignLeft 6 line.hex, alignLeft 19 line.binary, alignLeft 28 line.segmented] ∧
          (allBlank code = true ↔ line.word = none) := by
  intro program pieces words errors
  have hpieces := Listing.splitAt_render (t.feed_not_mem_rows filename source)
  rw [Listing.header_eq] at hpieces
  refine ⟨hpieces, Line.length_words_add_length_errors _, t.length_lines_assemble filename source,
    fun i text htext => ?_⟩
  have hline : program.lines[i]? = some (t.lineOf program.labels filename (1 + i) text
      (0 + slots ((sourceLines source).take i))).value := by
    rw [lines_assemble, getElem?_value_linesFrom, htext]
    rfl
  generalize hvalue : (t.lineOf program.labels filename (1 + i) text
    (0 + slots ((sourceLines source).take i))).value = line at hline
  have hnumber : line.number = i + 1 := by
    rw [← hvalue, number_value_lineOf, Nat.add_comm]
  have hshown : line.text = text := by
    rw [← hvalue, text_value_lineOf]
  refine ⟨line, Listing.codeColumns line, hline, ?_, rfl, Listing.allBlank_codeColumns_iff line⟩
  have hrow : (program.lines.map Listing.lineRow)[i]? = some (Listing.lineRow line) := by
    rw [List.getElem?_map, hline]
    rfl
  have hlt : i < (program.lines.map Listing.lineRow).length :=
    (List.getElem?_eq_some_iff.mp hrow).1
  rw [← hnumber, ← hshown, ← Listing.lineRow_eq, Nat.add_comm 2 i]
  show (splitAt '\n' (Listing.render program))[i + 2]? = _
  rw [hpieces, List.append_assoc, List.cons_append, List.cons_append, List.getElem?_cons_succ,
    List.getElem?_cons_succ, List.getElem?_append_left hlt]
  exact hrow

/-- A line with a carriage return inside that fails, in a source whose name has a line feed. -/
theorem listing_has_one_row_per_line_of_failed_line :
    let t : RuleTable := ⟨[⟨"JMP", "P", .absolute, [⟨0, 16, .immediate "P"⟩]⟩]⟩
    let source : Text := "nop\rx\t\n jmp 1"
    let program := (t.assemble source "a\nb").value
    let pieces := splitAt '\n' (Listing.render program)
    program.anyFailed = true ∧ program.words.length + program.errors.length = 2 ∧
      program.lines.length = 2 ∧ (sourceLines source)[0]? = some (ofString "nop\rx\t") ∧
      pieces[0]? = some (ofString
        (" LINE    PC  MNEMONIC  OPERANDS        HEX     BINARY               " ++
          "SEGMENTS                      SOURCE")) ∧
      pieces[1]? = some (List.replicate 110 (.char '-')) ∧
      ∃ code, allBlank code = true ∧
        pieces[2]? = some (Text.join "  " ["    1", "0000", "NOP     ", "x             ", code,
          "nop\rx"]) := by
  intro t source program pieces
  have hfacts : program.anyFailed = true ∧ program.lines.countP (·.pc.isSome) = 2 ∧
      (sourceLines source)[0]? = some (ofString "nop\rx\t") ∧
      program.lines[0]?.map (fun line => (line.pc, line.mnemonic, line.operands, line.word)) =
        some (some 0, ofString "NOP", ofString "x", none) := by
    decide +kernel
  obtain ⟨hfailed, hslots, htext, hline⟩ := hfacts
  obtain ⟨hpieces, hcounts, hlength, hrows⟩ := listing_has_one_row_per_line t "a\nb" source
  obtain ⟨line, code, hline', hrow, -, hblank⟩ := hrows 0 _ htext
  rw [hline'] at hline
  simp only [Option.map_some, Option.some.injEq, Prod.mk.injEq] at hline
  obtain ⟨hpc, hmnemonic, hoperands, hword⟩ := hline
  refine ⟨hfailed, hcounts.trans hslots, hlength, htext, ?_, ?_, code, hblank.mpr hword, ?_⟩
  · show (splitAt '\n' (Listing.render program))[0]? = _
    rw [hpieces]
    rfl
  · show (splitAt '\n' (Listing.render program))[1]? = _
    rw [hpieces]
    rfl
  rw [hpc, hmnemonic, hoperands] at hrow
  exact hrow

end RuleTable

end GridAsm
