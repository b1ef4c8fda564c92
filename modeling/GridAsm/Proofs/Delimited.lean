import GridAsm.Grid.Delimited
import GridAsm.Proofs.LineEnd
import GridAsm.Proofs.Loading
import GridAsm.Proofs.Shadowing

/-!
# Grids in files of delimited text

A grid that is written with every cell in quotes is read back as it was, whatever is in its cells:
delimiters, quotes, line feeds or nothing (`rows_write`).  The reader goes from the start of a row to
the start of the next one over the text of every row, and inside of it from the start of a field to
the quote that closes it.

A file adds nothing to that if no cell has a carriage return.  So the files of a grid in both formats
have one table, and it is that of the grid (`RuleFile.written_grid_loads`).
-/

namespace GridAsm

open Text

namespace Delimited

/-- The reader goes from one place to another over a text. -/
def Reader.Reads (limit : Nat) (delimiter : Char) (r : Reader) (cs : Text) (r' : Reader) : Prop :=
  cs.foldlM (step limit delimiter) r = .ok r'

variable {limit : Nat} {delimiter : Char} {r r' r'' : Reader}

theorem Reader.Reads.nil : r.Reads limit delimiter [] r := rfl

theorem Reader.Reads.append {cs cs' : Text} (h : r.Reads limit delimiter cs r')
    (h' : r'.Reads limit delimiter cs' r'') : r.Reads limit delimiter (cs ++ cs') r'' := by
  rw [Reader.Reads] at h ⊢
  rw [List.foldlM_append, h]
  exact h'

theorem Reader.Reads.cons {c : CodePoint} {cs : Text} (hstep : r.step limit delimiter c = .ok r')
    (h : r'.Reads limit delimiter cs r'') : r.Reads limit delimiter (c :: cs) r'' := by
  rw [Reader.Reads, List.foldlM_cons, hstep]
  exact h

theorem Reader.add_of_size_lt {mode : Mode} {c : CodePoint} (h : r.size < limit) :
    r.add limit mode c = .ok { r with mode := mode, field := c :: r.field, size := r.size + 1 } := by
  rw [Reader.add, if_neg (by omega)]

/-! ### A field -/

variable {field : Text} {size : Nat} {row : List Text} {done : List (List Text)}

/-- A code point in quotes is added to the field, also if it is a quote. -/
theorem reads_writePoint (p : CodePoint) (h : size < limit) :
    Reader.Reads limit delimiter ⟨.quoted, field, size, row, done⟩ (writePoint p)
      ⟨.quoted, p :: field, size + 1, row, done⟩ := by
  rw [writePoint]
  split_ifs with hquote
  · -- The first of two quotes may end the field, until the second one is seen.
    have hfirst : Reader.step limit delimiter ⟨.quoted, field, size, row, done⟩ '"' =
        .ok ⟨.quoteInQuotes, field, size, row, done⟩ := rfl
    have hsecond : Reader.step limit delimiter ⟨.quoteInQuotes, field, size, row, done⟩ '"' =
        .ok ⟨.quoted, '"' :: field, size + 1, row, done⟩ := Reader.add_of_size_lt h
    rw [hquote]
    exact .cons hfirst (.cons hsecond .nil)
  · have hstep : Reader.step limit delimiter ⟨.quoted, field, size, row, done⟩ p =
        .ok ⟨.quoted, p :: field, size + 1, row, done⟩ := by
      rw [Reader.step]
      simp only [if_neg hquote]
      exact Reader.add_of_size_lt h
    exact .cons hstep .nil

theorem reads_flatMap_writePoint (t : Text) (h : size + t.length ≤ limit) :
    Reader.Reads limit delimiter ⟨.quoted, field, size, row, done⟩ (t.flatMap writePoint)
      ⟨.quoted, t.reverse ++ field, size + t.length, row, done⟩ := by
  induction t generalizing field size with
  | nil => exact .nil
  | cons p rest ih =>
    rw [List.length_cons] at h
    have hrest := @ih (p :: field) (size + 1) (by omega)
    have hsize : size + 1 + rest.length = size + (p :: rest).length := by
      rw [List.length_cons]
      omega
    rw [hsize] at hrest
    rw [List.flatMap_cons, List.reverse_cons, List.append_assoc]
    exact (reads_writePoint p (by omega)).append hrest

/-- The places where a field can start. -/
def Mode.startsField (mode : Mode) : Prop :=
  mode = .rowStart ∨ mode = .fieldStart

/-- A field in quotes is read up to the quote that closes it. -/
theorem reads_writeField {mode : Mode} (hmode : mode.startsField) (t : Text)
    (h : t.length ≤ limit) :
    Reader.Reads limit delimiter ⟨mode, [], 0, row, done⟩ (writeField t)
      ⟨.quoteInQuotes, t.reverse, t.length, row, done⟩ := by
  have hopen : Reader.step limit delimiter ⟨mode, [], 0, row, done⟩ '"' =
      .ok ⟨.quoted, [], 0, row, done⟩ := by
    rcases hmode with rfl | rfl <;> rfl
  have hinside := @reads_flatMap_writePoint limit delimiter [] 0 row done t (by omega)
  have hclose : Reader.step limit delimiter ⟨.quoted, t.reverse ++ [], 0 + t.length, row, done⟩ '"' =
      .ok ⟨.quoteInQuotes, t.reverse, t.length, row, done⟩ := by
    rw [List.append_nil, Nat.zero_add]
    rfl
  exact .cons hopen (hinside.append (.cons hclose .nil))

/-! ### Rows -/

/-- The characters that can divide fields: none that has a meaning to the reader already. -/
def Divides (delimiter : Char) : Prop :=
  delimiter ≠ '"' ∧ delimiter ≠ '\n' ∧ delimiter ≠ '\r'

instance (delimiter : Char) : Decidable (Divides delimiter) :=
  inferInstanceAs (Decidable (_ ∧ _))

/-- Fields are read from the first quote to the line end. -/
theorem reads_fields (hdelimiter : Divides delimiter) {mode : Mode} (hmode : mode.startsField)
    (t : Text) (cells : List Text) (h : ∀ cell ∈ t :: cells, cell.length ≤ limit) :
    Reader.Reads limit delimiter ⟨mode, [], 0, row, done⟩
      ([CodePoint.char delimiter].intercalate ((t :: cells).map writeField) ++ "\n")
      ⟨.rowStart, [], 0, [], (row.reverse ++ t :: cells) :: done⟩ := by
  induction cells generalizing t row mode with
  | nil =>
    have hfield := @reads_writeField limit delimiter row done mode hmode t (h t List.mem_cons_self)
    have hend : Reader.step limit delimiter ⟨.quoteInQuotes, t.reverse, t.length, row, done⟩ '\n' =
        .ok ⟨.rowStart, [], 0, [], (row.reverse ++ [t]) :: done⟩ := by
      simp [Reader.step, Reader.endField, Reader.endRow, hdelimiter.2.1.symm]
    rw [List.map_singleton, List.intercalate_singleton]
    exact hfield.append (.cons hend .nil)
  | cons next rest ih =>
    have hfield := @reads_writeField limit delimiter row done mode hmode t (h t List.mem_cons_self)
    have hbetween : Reader.step limit delimiter ⟨.quoteInQuotes, t.reverse, t.length, row, done⟩
        delimiter = .ok ⟨.fieldStart, [], 0, t :: row, done⟩ := by
      simp [Reader.step, Reader.endField, hdelimiter.1]
    have hrest := @ih (t :: row) .fieldStart (.inr rfl) next fun cell hcell =>
      h cell (List.mem_cons_of_mem _ hcell)
    rw [List.reverse_cons, List.append_assoc] at hrest
    rw [List.map_cons, List.map_cons, List.intercalate_cons_cons, List.append_assoc,
      List.append_assoc]
    exact hfield.append (.cons hbetween hrest)

/-- A row is read from its start to that of the next one. -/
theorem reads_row (hdelimiter : Divides delimiter) (cells : List Text)
    (h : ∀ cell ∈ cells, cell.length ≤ limit) :
    Reader.Reads limit delimiter ⟨.rowStart, [], 0, [], done⟩
      ([CodePoint.char delimiter].intercalate (cells.map writeField) ++ "\n")
      ⟨.rowStart, [], 0, [], cells :: done⟩ := by
  cases cells with
  | nil =>
    -- An empty line is a row, but not one with an empty field.
    have hend : Reader.step limit delimiter ⟨.rowStart, [], 0, [], done⟩ '\n' =
        .ok ⟨.rowStart, [], 0, [], [] :: done⟩ := rfl
    exact .cons hend .nil
  | cons t rest => exact reads_fields hdelimiter (.inl rfl) t rest h

theorem reads_write (hdelimiter : Divides delimiter) (grid : List (List Text))
    (h : ∀ row ∈ grid, ∀ cell ∈ row, cell.length ≤ limit) :
    Reader.Reads limit delimiter ⟨.rowStart, [], 0, [], done⟩ (write delimiter grid)
      ⟨.rowStart, [], 0, [], grid.reverse ++ done⟩ := by
  induction grid generalizing done with
  | nil => exact .nil
  | cons row rest ih =>
    have hrow := @reads_row limit delimiter done hdelimiter row (h row List.mem_cons_self)
    have hrest := @ih (row :: done) fun row' hrow' => h row' (List.mem_cons_of_mem _ hrow')
    rw [List.reverse_cons, List.append_assoc]
    exact hrow.append hrest

/-- A written grid is read back. -/
theorem rows_write (hdelimiter : Divides delimiter) (grid : List (List Text))
    (h : ∀ row ∈ grid, ∀ cell ∈ row, cell.length ≤ limit) :
    rows limit delimiter (write delimiter grid) = .ok grid := by
  have hreads : (write delimiter grid).foldlM (Reader.step limit delimiter) {} = .ok _ :=
    reads_write hdelimiter grid h
  rw [rows, hreads, List.append_nil]
  exact congrArg Except.ok grid.reverse_reverse

/-! ### Written texts -/

theorem intercalate_eq_join (ts : List Text) :
    [CodePoint.char delimiter].intercalate ts = join (String.singleton delimiter) ts := by
  simp [join, ofString, ofChars]

theorem writeField_eq (t : Text) :
    writeField t = CodePoint.char '"' :: (t.flatMap writePoint ++ [CodePoint.char '"']) := rfl

/-- A written text that is not empty starts with a quote or with an empty line. -/
theorem head?_write {grid : List (List Text)} {p : CodePoint}
    (h : (write delimiter grid).head? = some p) : p = '"' ∨ p = '\n' := by
  cases grid with
  | nil => exact nomatch h
  | cons row rest =>
    cases row with
    | nil => exact .inr (Option.some.inj h).symm
    | cons t cells =>
      rw [write, List.flatMap_cons, intercalate_eq_join, List.map_cons] at h
      rw [writeField_eq, join_cons_left, List.cons_append, List.cons_append, List.head?_cons] at h
      exact .inl (Option.some.inj h).symm

theorem mem_of_mem_writeField {t : Text} {p : CodePoint} (h : p ∈ writeField t) :
    p = '"' ∨ p ∈ t := by
  rw [writeField_eq, List.mem_cons, List.mem_append, List.mem_flatMap, List.mem_singleton] at h
  rcases h with hp | ⟨q, hq, hp⟩ | hp
  · exact .inl hp
  · rw [writePoint] at hp
    split_ifs at hp with hquote
    · simp only [List.mem_cons, List.not_mem_nil, or_false, or_self] at hp
      exact .inl hp
    · rw [List.mem_singleton.mp hp]
      exact .inr hq
  · exact .inl hp

/-- Writing brings no carriage return in. -/
theorem return_not_mem_write (hdelimiter : Divides delimiter) {grid : List (List Text)}
    (h : ∀ row ∈ grid, ∀ cell ∈ row, CodePoint.char '\r' ∉ cell) :
    CodePoint.char '\r' ∉ write delimiter grid := by
  intro hmem
  obtain ⟨row, hrow, hmem⟩ := List.mem_flatMap.mp hmem
  rw [intercalate_eq_join] at hmem
  rcases List.mem_append.mp hmem with hfields | hend
  · rcases mem_join hfields with hbetween | ⟨written, hwritten, hin⟩
    · have hdivides : '\r' = delimiter := by simpa [ofString, ofChars] using hbetween
      exact hdelimiter.2.2 hdivides.symm
    · obtain ⟨cell, hcell, rfl⟩ := List.mem_map.mp hwritten
      rcases mem_of_mem_writeField hin with hquote | hin
      · exact absurd hquote (by decide)
      · exact h row hrow cell hcell hin
  · exact absurd hend (by decide)

end Delimited

/-! ### Files -/

/-- Bytes that do not start like the byte-order mark have none. -/
theorem Text.dropMark_eq_self {bytes : List UInt8} (h : bytes.head? ≠ some 0xEF) :
    dropMark bytes = bytes := by
  cases bytes with
  | nil => rfl
  | cons b rest =>
    have hb : b ≠ 0xEF := by simpa using h
    simp [dropMark, markBytes, List.isPrefixOf, hb, hb.symm]

/-- A text that starts with an ASCII character has no mark in UTF-8. -/
theorem Text.dropMark_encodeUtf8 {s : String} (h : ∀ c, s.toList.head? = some c → c.toNat < 0x80) :
    dropMark (encodeUtf8 s) = encodeUtf8 s := by
  refine dropMark_eq_self ?_
  rw [encodeUtf8_eq]
  cases hs : s.toList with
  | nil => simp
  | cons c rest =>
    have hc : c.toNat < 0x80 := h c (by rw [hs]; rfl)
    have hbyte : (UInt8.ofNat c.toNat).toNat = c.toNat := toNat_ofNat_of_lt (by omega)
    have hchar : String.utf8EncodeChar c = [UInt8.ofNat c.toNat] := by
      have hencode := encodeChar_of_lt (hbyte.trans_lt hc)
      rwa [hbyte, Char.ofNat_toNat] at hencode
    rw [List.flatMap_cons, hchar, List.singleton_append, List.head?_cons]
    intro hmark
    have hcode := congrArg UInt8.toNat (Option.some.inj hmark)
    rw [hbyte] at hcode
    have hlarge : (0xEF : UInt8).toNat = 0xEF := rfl
    omega

namespace RuleFile

variable {levels : Nat} {files : FileTree} {name : Text} {delimiter : Char}
  {cells : List (List Text)} {s : String}

/-- The file of a written grid is read as it was written: nothing before it looks like a mark, and it
has one kind of line end. -/
theorem readText_of_written {p : Path} (hdelimiter : Delimited.Divides delimiter)
    (hread : files.read p = .ok (encodeUtf8 s))
    (hwritten : ofString s = Delimited.write delimiter cells)
    (hreturn : ∀ row ∈ cells, ∀ cell ∈ row, CodePoint.char '\r' ∉ cell) :
    readText files p = .ok (Delimited.write delimiter cells) := by
  have hmark : dropMark (encodeUtf8 s) = encodeUtf8 s := by
    refine dropMark_encodeUtf8 fun c hc => ?_
    have hhead : (Delimited.write delimiter cells).head? = some (.char c) := by
      rw [← hwritten, ofString, ofChars, List.head?_map, hc]
      rfl
    rcases Delimited.head?_write hhead with hquote | hfeed
    · rw [CodePoint.char.inj hquote]
      decide
    · rw [CodePoint.char.inj hfeed]
      decide
  have hfeeds : withFeeds (ofString s) = ofString s := by
    refine withFeeds_of_not_mem ?_
    rw [hwritten]
    exact Delimited.return_not_mem_write hdelimiter hreturn
  unfold readText
  rw [hread]
  dsimp only
  rw [hmark, decodeUtf8_encodeUtf8]
  dsimp only
  rw [unifyLineEnds_eq, hfeeds, hwritten]

/-- The file of a written grid has that grid. -/
theorem grid_of_written {p : Path} (hformat : format p = .ok (.delimited delimiter))
    (hdelimiter : Delimited.Divides delimiter) (hread : files.read p = .ok (encodeUtf8 s))
    (hwritten : ofString s = Delimited.write delimiter cells)
    (hreturn : ∀ row ∈ cells, ∀ cell ∈ row, CodePoint.char '\r' ∉ cell)
    (hlimit : ∀ row ∈ cells, ∀ cell ∈ row, cell.length ≤ Delimited.fieldLimit) :
    grid levels files p = .ok (cells.map fun row => row.map .text) := by
  have htext := readText_of_written hdelimiter hread hwritten hreturn
  have hrows := Delimited.rows_write hdelimiter cells hlimit
  rw [grid_eq, hformat, htext]
  show delimitedGrid delimiter (Delimited.write delimiter cells) = _
  rw [delimitedGrid, hrows]

/-! ### Tables of files -/

variable {rows : List (List Json.Value)}

theorem tableOf_of_named (name : Text) (h : ∃ row ∈ rows.drop 1, Rule.name? row ≠ none) :
    tableOf name rows = (RuleTable.ofGrid rows).outcome.mapError .number := by
  obtain ⟨row, hrow, hnamed⟩ := h
  have hlength : ¬ rows.length < 2 := by
    have hpos := List.length_pos_of_mem hrow
    rw [List.length_drop] at hpos
    omega
  rw [tableOf, if_neg hlength]
  cases houtcome : (RuleTable.ofGrid rows).outcome with
  | error fault => rfl
  | ok t =>
    have hsize : t.size ≠ 0 := by
      intro hzero
      have hgives := Attempt.gives_iff.mpr ⟨houtcome, rfl⟩
      exact hnamed ((RuleTable.size_eq_zero_iff hgives).mp hzero row hrow)
    dsimp only
    rw [if_neg hsize]
    rfl

theorem tableOf_of_unnamed (name : Text) (hlength : 2 ≤ rows.length)
    (h : ∀ row ∈ rows.drop 1, Rule.name? row = none) :
    tableOf name rows = .error (.ruleTable name .noRules) := by
  obtain ⟨t, notices, hgives⟩ : (RuleTable.ofGrid rows).Succeeds := by
    refine RuleTable.succeeds_ofGrid_iff.mpr fun row hrow => ?_
    rw [Rule.ofRow?_of_name?_eq_none (h row hrow)]
    exact Attempt.succeeds_pure none
  have houtcome : (RuleTable.ofGrid rows).outcome = .ok t := (Attempt.gives_iff.mp hgives).1
  rw [tableOf, if_neg (by omega), houtcome]
  dsimp only
  rw [if_pos ((RuleTable.size_eq_zero_iff hgives).mpr h)]

/-- A row of texts has a name if its first cell is more than blanks. -/
theorem name?_map_text (row : List Text) :
    Rule.name? (row.map .text) ≠ none ↔ ∃ cell, row.head? = some cell ∧ allBlank cell = false := by
  cases row with
  | nil => simp [Rule.name?]
  | cons cell rest =>
    have htext : (Json.Value.text cell).cellText = trim cell := rfl
    rw [List.map_cons, Rule.name?, htext]
    simp only [ne_eq, ite_eq_left_iff, reduceCtorEq, imp_false, Decidable.not_not, trim_eq_nil_iff,
      List.head?_cons, Option.some.injEq, exists_eq_left', Bool.not_eq_true]

/-- The formats of delimited text: a suffix in small letters and a delimiter. -/
def delimitedFormats : List (String × Char) :=
  [(".csv", ','), (".tsv", '\t')]

theorem ofSuffix?_of_mem : ∀ x ∈ delimitedFormats,
    Format.ofSuffix? x.1 = some (.delimited x.2) ∧ Delimited.Divides x.2 := by
  decide

/-- **The formats agree.**  A grid of cells without carriage returns, none too long, is read back
from the file with every cell in quotes, in both formats.  Its rows need not be of one length, nor
have cells at all.  If a row after the first has a name, loading the file ends as the table of the
grid does, with the table or with the fault of a number.  If there are fewer than two rows or no
names, there is no table. -/
theorem written_grid_loads {suffix : String}
    (hformat : (suffix, delimiter) ∈ delimitedFormats)
    (hsuffix : lower (Path.parse name).suffix = suffix)
    (hread : files.read (.parse name) = .ok (encodeUtf8 s))
    (hwritten : ofString s = Delimited.write delimiter cells)
    (hreturn : ∀ row ∈ cells, ∀ cell ∈ row, CodePoint.char '\r' ∉ cell)
    (hlimit : ∀ row ∈ cells, ∀ cell ∈ row, cell.length ≤ Delimited.fieldLimit) :
    let rows := cells.map fun row => row.map Json.Value.text
    let named := ∃ row ∈ cells.drop 1, ∃ cell, row.head? = some cell ∧ allBlank cell = false
    grid levels files (.parse name) = .ok rows ∧
    (named → (load levels files name).outcome = (RuleTable.ofGrid rows).outcome.mapError .number) ∧
    (cells.length < 2 → (load levels files name).outcome = .error (.ruleTable name .empty)) ∧
    (2 ≤ cells.length → ¬ named →
      (load levels files name).outcome = .error (.ruleTable name .noRules)) := by
  intro rows named
  obtain ⟨hof, hdelimiter⟩ := ofSuffix?_of_mem _ hformat
  have hpath : format (.parse name) = .ok (.delimited delimiter) := by
    simp only [format, hsuffix, hof]
  have hgrid : grid levels files (.parse name) = .ok rows :=
    grid_of_written hpath hdelimiter hread hwritten hreturn hlimit
  have hload : (load levels files name).outcome = tableOf name rows := by
    rw [outcome_load, hgrid]
    rfl
  have hdrop : rows.drop 1 = (cells.drop 1).map fun row => row.map Json.Value.text :=
    List.map_drop.symm
  have hlength : rows.length = cells.length := List.length_map ..
  have hnamed : named ↔ ∃ row ∈ rows.drop 1, Rule.name? row ≠ none := by
    simp only [hdrop, List.mem_map, exists_exists_and_eq_and, name?_map_text, named]
  refine ⟨hgrid, ?_, ?_, ?_⟩
  · intro h
    rw [hload]
    exact tableOf_of_named name (hnamed.mp h)
  · intro h
    rw [hload, tableOf, if_pos (by omega)]
  · intro h hnone
    rw [hload]
    refine tableOf_of_unnamed name (by omega) fun row hrow => ?_
    by_contra hname
    exact hnone (hnamed.mpr ⟨row, hrow, hname⟩)

/-- A grid in both formats, with a byte-order mark in its first cell, a row without cells, and a cell
of a quote, both delimiters and a line feed.  Of the two files without a table one has a single row,
and the other a name of blanks. -/
theorem written_grid_loads_from_both_formats :
    let cells : List (List Text) := [["\uFEFFName", ""], [], ["add\"", "\",\t\n"]]
    let csv := "\"\uFEFFName\",\"\"\n\n\"add\"\"\",\"\"\",\t\n\"\n"
    let tsv := "\"\uFEFFName\"\t\"\"\n\n\"add\"\"\"\t\"\"\",\t\n\"\n"
    let files : FileTree := ⟨[(["a.csv"], .file (encodeUtf8 csv)),
      (["a.TSV"], .file (encodeUtf8 tsv)), (["b.csv"], .file (encodeUtf8 "\"Name\"\n")),
      (["c.tsv"], .file (encodeUtf8 "\"Name\"\n\" \"\n"))]⟩
    let rows := cells.map fun row => row.map Json.Value.text
    grid 0 files (.parse "a.csv") = .ok rows ∧ grid 0 files (.parse "a.TSV") = .ok rows ∧
    (load 0 files "a.csv").outcome = (RuleTable.ofGrid rows).outcome.mapError .number ∧
    (load 0 files "a.TSV").outcome = (RuleTable.ofGrid rows).outcome.mapError .number ∧
    (load 0 files "b.csv").outcome = .error (.ruleTable "b.csv" .empty) ∧
    (load 0 files "c.tsv").outcome = .error (.ruleTable "c.tsv" .noRules) := by
  intro cells csv tsv files rows
  have hcells : (∀ row ∈ cells, ∀ cell ∈ row, CodePoint.char '\r' ∉ cell) ∧
      (∀ row ∈ cells, ∀ cell ∈ row, cell.length ≤ Delimited.fieldLimit) := by
    decide +kernel
  have hnamed : ∃ row ∈ cells.drop 1, ∃ cell, row.head? = some cell ∧ allBlank cell = false :=
    ⟨["add\"", "\",\t\n"], by decide +kernel, "add\"", rfl, by decide +kernel⟩
  have hcsv := @written_grid_loads 0 files "a.csv" ',' cells csv ".csv" (by decide)
    (by decide +kernel) (by decide +kernel) (by decide +kernel) hcells.1 hcells.2
  have htsv := @written_grid_loads 0 files "a.TSV" '\t' cells tsv ".tsv" (by decide)
    (by decide +kernel) (by decide +kernel) (by decide +kernel) hcells.1 hcells.2
  have hone := @written_grid_loads 0 files "b.csv" ',' [["Name"]] "\"Name\"\n" ".csv" (by decide)
    (by decide +kernel) (by decide +kernel) (by decide +kernel) (by decide) (by decide)
  have hunnamed := @written_grid_loads 0 files "c.tsv" '\t' [["Name"], [" "]]
    "\"Name\"\n\" \"\n" ".tsv" (by decide) (by decide +kernel) (by decide +kernel)
    (by decide +kernel) (by decide) (by decide)
  refine ⟨hcsv.1, htsv.1, hcsv.2.1 hnamed, htsv.2.1 hnamed, hone.2.2.1 (by decide),
    hunnamed.2.2.2 (by decide) ?_⟩
  rintro ⟨row, hrow, cell, hcell, hblank⟩
  obtain rfl := List.mem_singleton.mp hrow
  obtain rfl := Option.some.inj hcell
  exact absurd hblank (by decide)

end RuleFile

end GridAsm
