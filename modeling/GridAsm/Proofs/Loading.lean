import GridAsm.Proofs.Activity
import GridAsm.Proofs.FieldLimit
import GridAsm.Proofs.JsonLimits
import GridAsm.Proofs.Layout
import GridAsm.Proofs.RuleTable
import GridAsm.Proofs.Utf8

/-!
# How loading fails

A rule table file gives a table with a rule, or fails as a rule table, or its failure escapes: by
its path, its bytes, a number or a field that is too long, or values too deep inside each other.
`RuleFile.Escapes` says what the file must have for each of these, and `RuleFile.Breaks` what is
enough for one of them.  They differ for JSON only, where a text is broken off at a limit before it
is known whether the rest of it is JSON.  A source gives a text that is not blank, or fails as a
source, or its failure escapes by its path or its bytes (`SourceFile.Escapes`).

What escapes is no failure of a table or of a source to a command, which ends with another exit code
then.
-/

namespace GridAsm

open Text

/-! ### Grids -/

namespace Rule

/-- A row with a mnemonic, in whose format the scan comes to a number that is too long. -/
def Overruns (row : List Json.Value) : Prop :=
  ∃ first rest, row = first :: rest ∧ first.cellText ≠ [] ∧
    Layout.Overruns (Layout.cellTexts (rest.drop 1))

theorem ofNamedRow_succeeds_iff (mnemonic : Text) (rest : List Json.Value) :
    (ofNamedRow mnemonic rest).Succeeds ↔ ¬ Layout.Overruns (Layout.cellTexts (rest.drop 1)) := by
  have hrule : ∀ operands shape, Attempt.Succeeds (do
      let fields ← Layout.ofCells (rest.drop 1)
      return (⟨upper mnemonic, operands, shape, fields⟩ : Rule)) ↔
        ¬ Layout.Overruns (Layout.cellTexts (rest.drop 1)) := fun operands shape =>
    Attempt.succeeds_bind_pure_iff.trans Layout.ofCells_succeeds_iff
  unfold ofNamedRow
  dsimp only
  -- A notice for an operand text of no shape comes first, and stops nothing.
  split
  · have hnote : ∀ n, (Attempt.note n : Attempt NumberFault Unit).Gives () [n] := fun n =>
      Attempt.gives_note.mpr rfl
    exact (hnote _).succeeds_bind_iff.trans (hrule _ _)
  · exact hrule _ _

theorem ofRow?_succeeds_iff (row : List Json.Value) : (ofRow? row).Succeeds ↔ ¬ Overruns row := by
  unfold ofRow?
  split
  · refine iff_of_true (Attempt.succeeds_pure none) ?_
    rintro ⟨first, rest, hrow, -⟩
    cases hrow
  · rename_i first rest
    dsimp only
    split
    · rename_i hempty
      refine iff_of_true (Attempt.succeeds_pure none) ?_
      rintro ⟨first', rest', hrow, hname, -⟩
      cases hrow
      exact hname (List.isEmpty_iff.mp hempty)
    · rename_i hname
      have hoverruns : Overruns (first :: rest) ↔
          Layout.Overruns (Layout.cellTexts (rest.drop 1)) := by
        constructor
        · rintro ⟨_, _, hrow, -, h⟩
          cases hrow
          exact h
        · intro h
          exact ⟨first, rest, rfl, fun hempty => hname (List.isEmpty_iff.mpr hempty), h⟩
      rw [map_eq_pure_bind, Attempt.succeeds_bind_pure_iff, ofNamedRow_succeeds_iff, hoverruns]

end Rule

/-- A grid has no table exactly if one of its rows after the first overruns. -/
theorem RuleTable.ofGrid_eq_error_iff {grid : List (List Json.Value)} :
    (∃ fault, (ofGrid grid).outcome = .error fault) ↔ ∃ row ∈ grid.drop 1, Rule.Overruns row := by
  rw [← Attempt.not_succeeds_iff, succeeds_ofGrid_iff]
  simp only [Rule.ofRow?_succeeds_iff, not_forall, not_not, exists_prop]

/-- A text whose rows, read without a limit, have a field that is too long for a file. -/
def Delimited.Overlong (delimiter : Char) (text : Text) : Prop :=
  ∃ grid, rows text.length delimiter text = .ok grid ∧ ¬ FieldsWithin fieldLimit grid

/-! ### Rule table files -/

namespace RuleFile

/-- What a rule table file must have for a failure that is none of rule tables. -/
inductive Escapes (levels : Nat) (files : FileTree) (p : Path) : Failure → Prop where
  /-- The path names no place. -/
  | path {f : Format} {fault : FileFault} (hformat : format p = .ok f)
    (hplace : FileTree.NoPlace p fault) : Escapes levels files p (.file fault)
  /-- The bytes of the file, but for a mark, are no UTF-8. -/
  | bytes {f : Format} {bytes : List UInt8} {fault : DecodeFault} (hformat : format p = .ok f)
    (hread : files.read p = .ok bytes) (hbytes : ∀ s, dropMark bytes ≠ encodeUtf8 s) :
    Escapes levels files p (.decode fault)
  /-- Too many digits stand one after the other. -/
  | digits {text : Text} {n : Nat} (hformat : format p = .ok .json)
    (htext : readText files p = .ok text) (hlimit : digitLimit < n)
    (hdigits : Json.HasDigits n text) : Escapes levels files p (.number (.tooManyDigits n))
  /-- Too many brackets are open at once, those in strings apart. -/
  | depth {text : Text} {container : Json.Container} (hformat : format p = .ok .json)
    (htext : readText files p = .ok text) (hdepth : levels < Json.nesting text) :
    Escapes levels files p (.tooDeep container)
  /-- A field is too long. -/
  | field {delimiter : Char} {text : Text} (hformat : format p = .ok (.delimited delimiter))
    (htext : readText files p = .ok text) (hfield : Delimited.Overlong delimiter text) :
    Escapes levels files p (.field ⟨Delimited.fieldLimit⟩)
  /-- A number in the cells of a row is too long. -/
  | cell {rows : List (List Json.Value)} {row : List Json.Value} {fault : NumberFault}
    (hgrid : grid levels files p = .ok rows) (hrow : row ∈ rows.drop 1)
    (hcell : Rule.Overruns row) : Escapes levels files p (.number fault)

/-- What is enough for a rule table file to fail, and not as one. -/
inductive Breaks (levels : Nat) (files : FileTree) (p : Path) : Prop where
  /-- The path names no place. -/
  | path {f : Format} {fault : FileFault} (hformat : format p = .ok f)
    (hplace : FileTree.NoPlace p fault)
  /-- The bytes of the file, but for a mark, are no UTF-8. -/
  | bytes {f : Format} {bytes : List UInt8} (hformat : format p = .ok f)
    (hread : files.read p = .ok bytes) (hbytes : ∀ s, dropMark bytes ≠ encodeUtf8 s)
  /-- The text is JSON, and has too many brackets open at once or a whole number of too many
  digits. -/
  | json {text : Text} {limits : Json.Limits} {v : Json.Value} (hformat : format p = .ok .json)
    (htext : readText files p = .ok text) (hjson : Json.parse limits text = .ok v)
    (hlimit : levels < Json.nesting text ∨ ∃ n, Json.Whole n v ∧ 10 ^ digitLimit ≤ n.natAbs)
  /-- A field is too long. -/
  | field {delimiter : Char} {text : Text} (hformat : format p = .ok (.delimited delimiter))
    (htext : readText files p = .ok text) (hfield : Delimited.Overlong delimiter text)
  /-- A number in the cells of a row is too long. -/
  | cell {rows : List (List Json.Value)} {row : List Json.Value}
    (hgrid : grid levels files p = .ok rows) (hrow : row ∈ rows.drop 1) (hcell : Rule.Overruns row)

variable {levels : Nat} {files : FileTree} {p : Path}

/-! #### Failures that escape -/

theorem readText_eq_error {f : Format} {failure : Failure} (hformat : format p = .ok f)
    (h : readText files p = .error failure) :
    (∃ problem, failure = .ruleTable p.text problem) ∨ Escapes levels files p failure := by
  unfold readText at h
  split at h
  · cases h
    exact .inl ⟨_, rfl⟩
  · cases h
    exact .inl ⟨_, rfl⟩
  · rename_i fault hnotFound hfailed hread
    cases h
    rcases FileTree.read_eq_error hread with ⟨problem, rfl⟩ | hplace
    · exact absurd rfl (hfailed problem p.text)
    · exact .inr (.path hformat hplace)
  · rename_i bytes hread
    split at h
    · cases h
    · rename_i fault hfault
      cases h
      refine .inr (.bytes hformat hread ?_)
      intro s hs
      rw [hs, decodeUtf8_encodeUtf8] at hfault
      cases hfault

theorem jsonGrid_eq_error {text : Text} {failure : Failure} (hformat : format p = .ok .json)
    (htext : readText files p = .ok text) (h : jsonGrid levels p text = .error failure) :
    (∃ problem, failure = .ruleTable p.text problem) ∨ Escapes levels files p failure := by
  unfold jsonGrid at h
  split at h
  · cases h
    exact .inl ⟨_, rfl⟩
  · rename_i count hparse
    cases h
    obtain ⟨hlimit, hdigits⟩ := Json.parse_stops hparse
    exact .inr (.digits hformat htext hlimit hdigits)
  · rename_i container hparse
    cases h
    have hexceeds : Json.Exceeds levels text := Json.parse_stops hparse
    exact .inr (.depth hformat htext hexceeds.lt_nesting)
  · split at h
    · cases h
    · cases h
      exact .inl ⟨_, rfl⟩

/-- The grid of a delimited text, from its rows without a limit. -/
theorem delimitedGrid_eq (delimiter : Char) (text : Text) :
    (Delimited.Overlong delimiter text →
      delimitedGrid delimiter text = .error (.field ⟨Delimited.fieldLimit⟩)) ∧
    (¬ Delimited.Overlong delimiter text → ∃ rows, delimitedGrid delimiter text = .ok rows) := by
  obtain ⟨grid, hgrid⟩ := Delimited.exists_rows delimiter text
  have hrows := Delimited.rows_eq hgrid Delimited.fieldLimit
  unfold delimitedGrid
  constructor
  · rintro ⟨grid', hgrid', hlong⟩
    obtain rfl : grid = grid' := Except.ok.inj (hgrid.symm.trans hgrid')
    rw [hrows, if_neg hlong]
  · intro hshort
    rw [hrows, if_pos (Decidable.byContradiction fun hlong => hshort ⟨grid, hgrid, hlong⟩)]
    exact ⟨_, rfl⟩

theorem delimitedGrid_eq_error {delimiter : Char} {text : Text} {failure : Failure}
    (hformat : format p = .ok (.delimited delimiter)) (htext : readText files p = .ok text)
    (h : delimitedGrid delimiter text = .error failure) : Escapes levels files p failure := by
  obtain ⟨hlong, hshort⟩ := delimitedGrid_eq delimiter text
  by_cases hfield : Delimited.Overlong delimiter text
  · rw [hlong hfield] at h
    cases h
    exact .field hformat htext hfield
  · obtain ⟨rows, hrows⟩ := hshort hfield
    rw [hrows] at h
    cases h

theorem format_eq_error {failure : Failure} (h : format p = .error failure) :
    ∃ problem, failure = .ruleTable p.text problem := by
  unfold format at h
  dsimp only at h
  split at h
  · cases h
  · cases h
    exact ⟨_, rfl⟩

theorem grid_eq (levels : Nat) (files : FileTree) (p : Path) :
    grid levels files p = format p >>= fun f => readText files p >>= fun text => match f with
      | .json => jsonGrid levels p text
      | .delimited delimiter => delimitedGrid delimiter text :=
  rfl

theorem grid_eq_error {failure : Failure} (h : grid levels files p = .error failure) :
    (∃ problem, failure = .ruleTable p.text problem) ∨ Escapes levels files p failure := by
  rw [grid_eq] at h
  cases hformat : format p with
  | error e =>
    rw [hformat] at h
    cases h
    exact .inl (format_eq_error hformat)
  | ok f =>
    rw [hformat] at h
    cases htext : readText files p with
    | error e =>
      rw [htext] at h
      cases h
      exact readText_eq_error hformat htext
    | ok text =>
      rw [htext] at h
      cases f with
      | json => exact jsonGrid_eq_error hformat htext h
      | delimited delimiter => exact .inr (delimitedGrid_eq_error hformat htext h)

/-- The table of the rows of a file, which is reported under a name. -/
def tableOf (name : Text) (rows : List (List Json.Value)) : Except Failure RuleTable :=
  if rows.length < 2 then .error (.ruleTable name .empty)
  else match (RuleTable.ofGrid rows).outcome with
    | .error fault => .error (.number fault)
    | .ok table => if table.size = 0 then .error (.ruleTable name .noRules) else .ok table

theorem outcome_load (levels : Nat) (files : FileTree) (name : Text) :
    (load levels files name).outcome = grid levels files (.parse name) >>= tableOf name := by
  have htable : ∀ rows, ((RuleTable.ofGrid rows).mapFault Failure.number).outcome =
      (RuleTable.ofGrid rows).outcome.mapError Failure.number := fun rows => rfl
  unfold load
  rw [Attempt.outcome_bind, Attempt.outcome_liftExcept]
  congr 1
  funext rows
  unfold tableOf
  by_cases hrows : rows.length < 2
  · rw [if_pos hrows, if_pos hrows]
    rfl
  · rw [if_neg hrows, if_neg hrows, Attempt.outcome_bind, htable]
    cases (RuleTable.ofGrid rows).outcome with
    | error fault => rfl
    | ok table =>
      by_cases hsize : table.size = 0
      · simp only [Except.mapError, bind, Except.bind, if_pos hsize]
        rfl
      · simp only [Except.mapError, bind, Except.bind, if_neg hsize]
        rfl

theorem outcome_load_of_grid_error {name : Text} {failure : Failure}
    (h : grid levels files (.parse name) = .error failure) :
    (load levels files name).outcome = .error failure := by
  rw [outcome_load, h]
  rfl

/-- A rule table file gives a table with a rule, or fails as one, or its failure escapes. -/
theorem load_cases (levels : Nat) (files : FileTree) (name : Text) :
    (∃ table, (load levels files name).outcome = .ok table ∧ 0 < table.size) ∨
      (∃ shown problem, (load levels files name).outcome = .error (.ruleTable shown problem)) ∨
      ∃ failure, (load levels files name).outcome = .error failure ∧
        Escapes levels files (.parse name) failure := by
  cases hgrid : grid levels files (.parse name) with
  | error failure =>
    have hload := outcome_load_of_grid_error hgrid
    rcases grid_eq_error hgrid with ⟨problem, rfl⟩ | hescapes
    · exact .inr (.inl ⟨_, problem, hload⟩)
    · exact .inr (.inr ⟨failure, hload, hescapes⟩)
  | ok rows =>
    rw [outcome_load, hgrid]
    simp only [bind, Except.bind, tableOf]
    split
    · exact .inr (.inl ⟨name, .empty, rfl⟩)
    · split
      · rename_i fault hfault
        obtain ⟨row, hrow, hcell⟩ := RuleTable.ofGrid_eq_error_iff.mp ⟨fault, hfault⟩
        exact .inr (.inr ⟨_, rfl, .cell hgrid hrow hcell⟩)
      · rename_i table htable
        split
        · exact .inr (.inl ⟨name, .noRules, rfl⟩)
        · rename_i hsize
          exact .inl ⟨table, rfl, Nat.pos_of_ne_zero hsize⟩

/-! #### Files that break a load -/

theorem grid_of_readText_error {f : Format} {failure : Failure} (hformat : format p = .ok f)
    (h : readText files p = .error failure) : grid levels files p = .error failure := by
  rw [grid_eq, hformat, h]
  rfl

/-- A text of JSON beyond the limits has no grid, and no failure of a rule table. -/
theorem exists_jsonGrid_eq_error {text : Text} {limits : Json.Limits} {v : Json.Value} (p : Path)
    (hjson : Json.parse limits text = .ok v)
    (hlimit : levels < Json.nesting text ∨ ∃ n, Json.Whole n v ∧ 10 ^ digitLimit ≤ n.natAbs) :
    ∃ failure, jsonGrid levels p text = .error failure ∧ failure.category = .unexpected := by
  obtain ⟨stop, hstop, hkind⟩ : ∃ stop, Json.parse { levels := levels } text = .error stop ∧
      stop.IsLimit := Json.exists_stop_of_exceeding hjson hlimit
  unfold jsonGrid
  rw [hstop]
  cases stop with
  | syntaxAt problem offset => cases hkind
  | tooManyDigits count => exact ⟨_, rfl, rfl⟩
  | tooDeep container => exact ⟨_, rfl, rfl⟩

theorem exists_failure_of_grid {name : Text}
    (h : ∃ failure, grid levels files (.parse name) = .error failure ∧
      failure.category = .unexpected) :
    ∃ failure, (load levels files name).outcome = .error failure ∧
      failure.category = .unexpected := by
  obtain ⟨failure, hgrid, hcategory⟩ := h
  exact ⟨failure, outcome_load_of_grid_error hgrid, hcategory⟩

/-- A file that breaks a load ends it, and not with a failure of a rule table. -/
theorem Breaks.exists_failure {name : Text} (h : Breaks levels files (.parse name)) :
    ∃ failure, (load levels files name).outcome = .error failure ∧
      failure.category = .unexpected := by
  cases h with
  | @path f fault hformat hplace =>
    refine exists_failure_of_grid ⟨.file fault, grid_of_readText_error hformat ?_, ?_⟩
    · unfold readText
      rw [hplace.read files]
      cases hplace <;> rfl
    · cases hplace <;> rfl
  | @bytes f bytes hformat hread hbytes =>
    cases hfault : decodeUtf8 (dropMark bytes) with
    | ok text =>
      obtain ⟨s, hs, -⟩ := decodeUtf8_eq_ok_iff.mp hfault
      exact absurd hs (hbytes s)
    | error fault =>
      refine exists_failure_of_grid ⟨.decode fault, grid_of_readText_error hformat ?_, rfl⟩
      unfold readText
      rw [hread]
      dsimp only
      rw [hfault]
  | json hformat htext hjson hlimit =>
    apply exists_failure_of_grid
    rw [grid_eq, hformat, htext]
    exact exists_jsonGrid_eq_error _ hjson hlimit
  | @field delimiter text hformat htext hfield =>
    apply exists_failure_of_grid
    rw [grid_eq, hformat, htext]
    exact ⟨_, (delimitedGrid_eq delimiter text).1 hfield, rfl⟩
  | @cell rows row hgrid hrow hcell =>
    obtain ⟨fault, hfault⟩ := RuleTable.ofGrid_eq_error_iff.mpr ⟨row, hrow, hcell⟩
    -- A row after the first has been found, so the grid is not refused as empty before.
    have hlength : ¬ rows.length < 2 := by
      have hpos := List.length_pos_of_mem hrow
      rw [List.length_drop] at hpos
      omega
    refine ⟨.number fault, ?_, rfl⟩
    rw [outcome_load, hgrid]
    show tableOf name rows = _
    rw [tableOf, if_neg hlength, hfault]

end RuleFile

/-! ### Source files -/

namespace SourceFile

variable {files : FileTree} {p : Path}

/-- The failures of source files that are no failures of sources. -/
inductive Escapes (files : FileTree) (p : Path) : Failure → Prop where
  /-- The path names no place. -/
  | path {fault : FileFault} (hplace : FileTree.NoPlace p fault) : Escapes files p (.file fault)
  /-- The bytes of the file are no UTF-8. -/
  | bytes {bytes : List UInt8} {fault : DecodeFault} (hread : files.read p = .ok bytes)
    (hbytes : ∀ s, bytes ≠ encodeUtf8 s) : Escapes files p (.decode fault)

/-- A source file gives a text that is not blank, or fails as a source, or its failure escapes. -/
theorem load_cases (files : FileTree) (p : Path) :
    (∃ text, load files p = .ok text ∧ allBlank text = false) ∨
      (∃ problem, load files p = .error (.source p problem)) ∨
      ∃ failure, load files p = .error failure ∧ Escapes files p failure := by
  unfold load
  split
  · exact .inr (.inl ⟨_, rfl⟩)
  · exact .inr (.inl ⟨_, rfl⟩)
  · rename_i fault hnotFound hfailed hread
    rcases FileTree.read_eq_error hread with ⟨problem, rfl⟩ | hplace
    · exact absurd rfl (hfailed problem p.text)
    · exact .inr (.inr ⟨_, rfl, .path hplace⟩)
  · rename_i bytes hread
    split
    · rename_i fault hfault
      refine .inr (.inr ⟨_, rfl, .bytes hread ?_⟩)
      intro s hs
      rw [hs, decodeUtf8_encodeUtf8] at hfault
      cases hfault
    · dsimp only
      split
      · exact .inr (.inl ⟨_, rfl⟩)
      · rename_i hblank
        exact .inl ⟨_, rfl, Bool.eq_false_iff.mpr hblank⟩

/-- A source file whose path or bytes escape does not load, and not as a source. -/
theorem Escapes.exists_failure {failure : Failure} (h : Escapes files p failure) :
    ∃ escaped, load files p = .error escaped ∧ Escapes files p escaped := by
  unfold load
  cases h with
  | @path fault hplace =>
    refine ⟨.file fault, ?_, .path hplace⟩
    rw [hplace.read files]
    cases hplace <;> rfl
  | @bytes bytes _ hread hbytes =>
    rw [hread]
    dsimp only
    cases hfault : decodeUtf8 bytes with
    | ok text =>
      obtain ⟨s, hs, -⟩ := decodeUtf8_eq_ok_iff.mp hfault
      exact absurd hs (hbytes s)
    | error fault => exact ⟨.decode fault, rfl, .bytes hread hbytes⟩

end SourceFile

/-! ### Exit codes -/

namespace Command

open Activity

/-- The exit code of a command that cannot load a file. -/
def loadExit : Failure → Nat
  | .ruleTable .. | .source .. => 2
  | _ => 3

section

variable {host : Host} {files : FileTree} {failure : Failure}

theorem number_exitStatus_of_rules {name : Text}
    (h : (RuleFile.load host.levels files name).outcome = .error failure) :
    failure.category.exitStatus.number = loadExit failure := by
  rcases RuleFile.load_cases host.levels files name with
    ⟨table, hok, -⟩ | ⟨shown, problem, herror⟩ | ⟨escaped, herror, hescapes⟩
  · cases h.symm.trans hok
  · cases h.symm.trans herror
    rfl
  · cases h.symm.trans herror
    cases hescapes with
    | path hformat hplace => cases hplace <;> rfl
    | _ => rfl

theorem number_exitStatus_of_source {p : Path} (h : SourceFile.load files p = .error failure) :
    failure.category.exitStatus.number = loadExit failure := by
  rcases SourceFile.load_cases files p with
    ⟨table, hok, -⟩ | ⟨problem, herror⟩ | ⟨escaped, herror, hescapes⟩
  · cases h.symm.trans hok
  · cases h.symm.trans herror
    rfl
  · cases h.symm.trans herror
    cases hescapes with
    | path hplace => cases hplace <;> rfl
    | bytes => rfl

theorem exit_inspect_of_error {i : Inspection}
    (h : (RuleFile.load host.levels files i.rules.text).outcome = .error failure) :
    (inspect host files i).exit.number = loadExit failure := by
  have hvalue : (RuleFile.load host.levels files i.rules.text).run.value = .error failure := h
  unfold inspect
  dsimp only
  rw [hvalue, ← number_exitStatus_of_rules h]
  exact congrArg ExitStatus.number (exit_report ..)

variable {settings : Settings} {a : Assembly}

theorem assemble_of_rules_error
    (h : (RuleFile.load host.levels files (rulesPath settings a).text).outcome = .error failure) :
    (assemble host settings files a).files = files ∧
      (assemble host settings files a).exit.number = loadExit failure := by
  obtain ⟨hfiles, hexit⟩ := assemble_of_error (ends_assembling_of_rules_error h)
  exact ⟨hfiles, hexit ▸ number_exitStatus_of_rules h⟩

theorem assemble_of_source_error {table : RuleTable}
    (hrules : (RuleFile.load host.levels files (rulesPath settings a).text).outcome = .ok table)
    (hannounced : host.PrintsAll (announced a (rulesPath settings a) (sourcePath settings a) table))
    (hsource : SourceFile.load files (sourcePath settings a) = .error failure) :
    (assemble host settings files a).files = files ∧
      (assemble host settings files a).exit.number = loadExit failure := by
  obtain ⟨hfiles, hexit⟩ :=
    assemble_of_error (ends_assembling_of_source_error hrules hannounced hsource)
  exact ⟨hfiles, hexit ▸ number_exitStatus_of_source hsource⟩

end

/-- A load gives a usable result, fails as a load, or fails in a way that escapes.  It escapes only
for the files of `RuleFile.Escapes` and `SourceFile.Escapes`, and surely for those of
`RuleFile.Breaks` and `SourceFile.Escapes`.  The commands end with 2 for a failure of a load, and
with 3 for one that escapes. -/
theorem load_failures_and_exit_codes (host : Host) (files : FileTree) :
    (∀ name,
      ((∃ table, (RuleFile.load host.levels files name).outcome = .ok table ∧ 0 < table.size) ∨
        (∃ shown problem,
          (RuleFile.load host.levels files name).outcome = .error (.ruleTable shown problem)) ∨
        ∃ failure, (RuleFile.load host.levels files name).outcome = .error failure ∧
          RuleFile.Escapes host.levels files (.parse name) failure) ∧
      (RuleFile.Breaks host.levels files (.parse name) →
        ∃ failure, (RuleFile.load host.levels files name).outcome = .error failure ∧
          RuleFile.Escapes host.levels files (.parse name) failure)) ∧
    (∀ p,
      ((∃ text, SourceFile.load files p = .ok text ∧ allBlank text = false) ∨
        (∃ problem, SourceFile.load files p = .error (.source p problem)) ∨
        ∃ failure, SourceFile.load files p = .error failure ∧ SourceFile.Escapes files p failure) ∧
      ∀ failure, SourceFile.Escapes files p failure →
        ∃ escaped, SourceFile.load files p = .error escaped ∧ SourceFile.Escapes files p escaped) ∧
    (∀ (i : Inspection) failure,
      (RuleFile.load host.levels files i.rules.text).outcome = .error failure →
      (inspect host files i).exit.number = loadExit failure) ∧
    ∀ (settings : Settings) (a : Assembly),
      let rules := a.rules.getD settings.rules
      let source := a.source.getD settings.source
      (∀ failure, (RuleFile.load host.levels files rules.text).outcome = .error failure →
        (assemble host settings files a).exit.number = loadExit failure) ∧
      ∀ table, (RuleFile.load host.levels files rules.text).outcome = .ok table →
        host.PrintsAll (announced a rules source table) →
        ∀ failure, SourceFile.load files source = .error failure →
          (assemble host settings files a).exit.number = loadExit failure := by
  refine ⟨fun name => ⟨RuleFile.load_cases host.levels files name, fun hbreaks => ?_⟩,
    fun p => ⟨SourceFile.load_cases files p, fun failure h => h.exists_failure⟩,
    fun i failure h => exit_inspect_of_error h, fun settings a => ⟨?_, ?_⟩⟩
  · obtain ⟨failure, hload, hcategory⟩ := hbreaks.exists_failure
    refine ⟨failure, hload, ?_⟩
    -- The load fails, and not as a rule table, which leaves one of the three ways.
    rcases RuleFile.load_cases host.levels files name with
      ⟨table, hok, -⟩ | ⟨shown, problem, herror⟩ | ⟨escaped, herror, hescapes⟩
    · cases hload.symm.trans hok
    · cases hload.symm.trans herror
      cases hcategory
    · cases hload.symm.trans herror
      exact hescapes
  · intro failure h
    exact (assemble_of_rules_error h).2
  · intro table hrules hannounced failure hsource
    exact (assemble_of_source_error hrules hannounced hsource).2

/-- With the rules `[[],["A"]]` and a source of the one byte `FF`, the source escapes where two
levels are allowed.  Where only one is, the rules do. -/
theorem load_failures_of_undecodable_source :
    let files : FileTree :=
      ⟨[(["rules.json"], .file [0x5B, 0x5B, 0x5D, 0x2C, 0x5B, 0x22, 0x41, 0x22, 0x5D, 0x5D]),
        (["default.asm"], .file [0xFF])]⟩
    (∃ table, (RuleFile.load 2 files "rules.json").outcome = .ok table ∧ 0 < table.size) ∧
      SourceFile.Escapes files (.parse "default.asm") (.decode ⟨.badStart, 0, 1, 0xFF⟩) ∧
      (assemble (.console 2) {} files {}).exit.number = 3 ∧
      RuleFile.Breaks 1 files (.parse "rules.json") ∧
      (inspect (.console 1) files ⟨.parse "rules.json", none⟩).exit.number = 3 := by
  intro files
  have hread : files.read (.parse "default.asm") = .ok [0xFF] := by decide +kernel
  have hsource : SourceFile.Escapes files (.parse "default.asm")
      (.decode ⟨.badStart, 0, 1, 0xFF⟩) := by
    refine .bytes hread ?_
    intro s hs
    have hdecode : decodeUtf8 [0xFF] = .error ⟨.badStart, 0, 1, 0xFF⟩ := rfl
    rw [hs, decodeUtf8_encodeUtf8] at hdecode
    cases hdecode
  have hbreaks : RuleFile.Breaks 1 files (.parse "rules.json") := by
    have htext : RuleFile.readText files (.parse "rules.json") = .ok "[[],[\"A\"]]" := by
      decide +kernel
    have hjson : Json.parse { levels := 2 } "[[],[\"A\"]]" =
        .ok (.list [.list [], .list [.text "A"]]) := rfl
    exact .json (by decide +kernel) htext hjson (.inl (by decide +kernel))
  have hname : (Path.parse "rules.json").text = "rules.json" := by decide +kernel
  have hok : (RuleFile.load (Host.console 2).levels files "rules.json").outcome.isOk = true := by
    decide +kernel
  obtain ⟨hrules, hsources, -, hassemble⟩ := load_failures_and_exit_codes (.console 2) files
  obtain ⟨hnarrow, -, hinspect, -⟩ := load_failures_and_exit_codes (.console 1) files
  rcases (hrules "rules.json").1 with ⟨table, htable, hsize⟩ | ⟨shown, problem, h⟩ | ⟨failure, h, -⟩
  · obtain ⟨escaped, hload, hescapes⟩ := (hsources (.parse "default.asm")).2 _ hsource
    obtain ⟨broken, hbroken, hkind⟩ := (hnarrow "rules.json").2 hbreaks
    have hexit := (hassemble {} {}).2 table (hname.symm ▸ htable) (List.forall_mem_nil _) escaped
      hload
    have hshown := hinspect ⟨.parse "rules.json", none⟩ broken (hname.symm ▸ hbroken)
    refine ⟨⟨table, htable, hsize⟩, hsource, ?_, hbreaks, ?_⟩
    · rw [hexit]
      cases hescapes <;> rfl
    · rw [hshown]
      cases hkind <;> rfl
  · rw [h] at hok
    cases hok
  · rw [h] at hok
    cases hok

/-- A rule table and a source that are no UTF-8 fail neither as a rule table nor as a source. -/
theorem undecodable_files_escape :
    let files : FileTree := ⟨[(["r.json"], .file [0xFF]), (["s.asm"], .file [0xFF])]⟩
    (RuleFile.load 1000 files "r.json").outcome = .error (.decode ⟨.badStart, 0, 1, 0xFF⟩) ∧
      SourceFile.load files (.parse "s.asm") = .error (.decode ⟨.badStart, 0, 1, 0xFF⟩) ∧
      (inspect (.console 1000) files ⟨.parse "r.json", none⟩).exit.number = 3 := by
  decide +kernel

end Command

end GridAsm
