import GridAsm.Proofs.Loading

/-!
# What the assembler leaves behind

The assembler ends in one of four ways.  Without a rule table or a source, and if the output refuses
a line up to the listing, no file is touched, and the exit code says which it was.  Otherwise, if no
file refuses what is written, the listing and the artifact are in their files, nothing else has
changed, and the exit code tells whether a line failed (`Completed`); only a line that the output
refuses then can still break this off.
-/

namespace GridAsm.Command

open Text

/-- A place that is neither that of the listing nor that of the artifact, if they are written. -/
def IsOther (settings : Settings) (a : Assembly) (artifact : Path) (program : Program)
    (place : Place) : Prop :=
  (∀ p, a.listing = some p → place ≠ p.place) ∧
    (leavesArtifact settings a program = true → place ≠ artifact.place)

/-- What a program leaves if nothing is refused.  `files` are those before. -/
structure Completed (settings : Settings) (a : Assembly) (artifact : Path) (program : Program)
    (files : FileTree) (outcome : Outcome) : Prop where
  exit : outcome.exit.number = if program.anyFailed then 1 else 0
  holdsListing : ∀ p, a.listing = some p →
    outcome.files.Holds p.place (Listing.render program ++ "\n")
  holdsArtifact : leavesArtifact settings a program = true →
    outcome.files.Holds artifact.place program.artifact
  keepsOthers : ∀ place, IsOther settings a artifact program place → files.Keeps outcome.files place

section

variable {settings : Settings} {a : Assembly} {artifact : Path} {files files' files'' : FileTree}
  {program : Program}

/-! ### The files -/

theorem keeps_of_listingEdit (h : files.edit (listingEdit a program) = (.ok (), files')) :
    (∀ p, a.listing = some p → files'.Holds p.place (Listing.render program ++ "\n")) ∧
      ∀ place, (∀ p, a.listing = some p → place ≠ p.place) → files.Keeps files' place := by
  unfold listingEdit at h
  split at h
  · rename_i hnone
    cases h
    constructor
    · intro p hp
      rw [hnone] at hp
      cases hp
    · intro place _
      exact .refl files place
  · rename_i path hpath
    obtain ⟨hholds, hkeeps⟩ := FileTree.keeps_of_writeText h
    constructor
    · intro p hp
      cases hpath.symm.trans hp
      exact hholds
    · intro place hplace
      exact hkeeps place (hplace path hpath)

theorem keeps_of_artifactEdit
    (h : files.edit (artifactEdit settings a artifact program) = (.ok (), files')) :
    (leavesArtifact settings a program = true →
      files'.Holds artifact.place program.artifact) ∧
      ∀ place, (leavesArtifact settings a program = true → place ≠ artifact.place) →
        files.Keeps files' place := by
  unfold artifactEdit at h
  split at h
  · rename_i hleaves
    obtain ⟨hholds, hkeeps⟩ := FileTree.keeps_of_writeText h
    exact ⟨fun _ => hholds, fun place hplace => hkeeps place (hplace hleaves)⟩
  · rename_i hleaves
    cases h
    exact ⟨fun h => absurd h hleaves, fun place _ => .refl files place⟩

section

variable (hlisting : files.edit (listingEdit a program) = (.ok (), files'))
  (hartifact : files'.edit (artifactEdit settings a artifact program) = (.ok (), files''))

include hlisting hartifact

/-- Before, between and after the two edits every other place is as it was. -/
theorem keeps_of_edits {left : FileTree} (hleft : left = files ∨ left = files' ∨ left = files'')
    {place : Place} (hother : IsOther settings a artifact program place) :
    files.Keeps left place := by
  have hlist := (keeps_of_listingEdit hlisting).2 place hother.1
  rcases hleft with rfl | rfl | rfl
  · exact .refl _ place
  · exact hlist
  · exact hlist.trans ((keeps_of_artifactEdit hartifact).2 place hother.2)

/-- Where the edits of the listing and of the artifact succeed, both files hold what they should. -/
theorem completed_of_edits {outcome : Outcome}
    (hplaces : ∀ p, a.listing = some p → p.place ≠ artifact.place)
    (hfiles : outcome.files = files'')
    (hexit : outcome.exit = if program.anyFailed then .linesFailed else .success) :
    Completed settings a artifact program files outcome := by
  obtain ⟨hlist, -⟩ := keeps_of_listingEdit hlisting
  obtain ⟨hart, hartKeeps⟩ := keeps_of_artifactEdit hartifact
  subst hfiles
  constructor
  · rw [hexit]
    split <;> rfl
  · -- The artifact is written after the listing, but to another place.
    intro p hp
    exact (hlist p hp).of_keeps (hartKeeps p.place fun _ => hplaces p hp)
  · exact hart
  · intro place hother
    exact keeps_of_edits hlisting hartifact (.inr (.inr rfl)) hother

end

/-- Edits one after the other succeed if each of them does on the files that it finds. -/
theorem exists_edits {x y : FileTree.Edit Unit}
    (h : (files.edit (do x; y)).1 = .ok ()) :
    ∃ files' files'', files.edit x = (.ok (), files') ∧ files'.edit y = (.ok (), files'') := by
  rw [FileTree.edit_bind] at h
  rcases hx : files.edit x with ⟨result, files'⟩
  rw [hx] at h
  cases result with
  | error fault => cases h
  | ok u =>
    rcases hy : files'.edit y with ⟨result, files''⟩
    replace h : (files'.edit y).1 = .ok () := h
    rw [hy] at h
    cases h
    exact ⟨files', files'', rfl, hy⟩

end

/-- The assembler without rules or without a source touches no file and ends with 2, or with 3 if
the failure is another one than theirs; so it does with 3 if the output refuses a line up to the
listing.  Otherwise, if the files take the listing and the artifact, it ends with 1 if a line failed
and with 0 if none did, and leaves the two, and nothing else; unless the output refuses a line,
which ends it with 3. -/
theorem assembler_leaves_listing_and_artifact (host : Host) (settings : Settings)
    (files : FileTree) (a : Assembly) :
    let rules := a.rules.getD settings.rules
    let source := a.source.getD settings.source
    let artifact := a.output.getD (source.parent.join (.parse settings.artifactName))
    let outcome := assemble host settings files a
    (∀ p, a.listing = some p → p.place ≠ artifact.place) →
    (∀ failure, (RuleFile.load host.levels files rules.text).outcome = .error failure →
      outcome.files = files ∧ outcome.exit.number = loadExit failure) ∧
    ∀ table, (RuleFile.load host.levels files rules.text).outcome = .ok table →
      (¬ host.PrintsAll (announced a rules source table) →
        outcome.files = files ∧ outcome.exit.number = 3) ∧
      (host.PrintsAll (announced a rules source table) →
        (∀ failure, SourceFile.load files source = .error failure →
          outcome.files = files ∧ outcome.exit.number = loadExit failure) ∧
        ∀ text, SourceFile.load files source = .ok text →
          let program := (table.assemble text source.text).value
          (¬ host.PrintsAll (shownListing a program) →
            outcome.files = files ∧ outcome.exit.number = 3) ∧
          ((files.edit (do listingEdit a program; artifactEdit settings a artifact program)).1 =
              .ok () →
            (host.PrintsAll (concluded settings a artifact program) →
              Completed settings a artifact program files outcome) ∧
            (¬ host.PrintsAll (concluded settings a artifact program) →
              outcome.exit.number = 3 ∧
              ∀ place, IsOther settings a artifact program place →
                files.Keeps outcome.files place))) := by
  intro rules source artifact outcome hplaces
  refine ⟨fun failure => assemble_of_rules_error, fun table htable => ⟨?_, fun hannounced =>
    ⟨fun failure => assemble_of_source_error htable hannounced, fun text htext => ⟨?_, ?_⟩⟩⟩⟩
  · intro hrefused
    exact assemble_of_refused (refused_assembling_of_not_announced htable hrefused)
  · intro hrefused
    exact assemble_of_refused
      (refused_assembling_of_not_shown htable hannounced htext rfl hrefused)
  · intro hedits
    obtain ⟨files', files'', hlisting, hartifact⟩ := exists_edits hedits
    constructor
    · intro hconcluded
      have hends := ends_assembling htable hannounced htext rfl hconcluded hlisting hartifact
      obtain ⟨hfiles, hexit⟩ := assemble_of_ok hends
      exact completed_of_edits hlisting hartifact hplaces hfiles hexit
    · intro hrefused
      obtain ⟨left, hleft, hstore⟩ := refused_storeProgram hlisting hartifact hrefused
      obtain ⟨hfiles, hexit⟩ :=
        assemble_of_refused (refused_assembling htable hannounced htext rfl hstore)
      refine ⟨hexit, fun place hother => ?_⟩
      rw [show outcome.files = left from hfiles]
      exact keeps_of_edits hlisting hartifact hleft hother

/-- The rules `[[],["A","P"]]` and a source with the lines `A 1` and `B`, each in a directory of its
own. -/
def twoLines : FileTree :=
  ⟨[(["t"], .directory), (["t", "r.json"], .file
      [0x5B, 0x5B, 0x5D, 0x2C, 0x5B, 0x22, 0x41, 0x22, 0x2C, 0x22, 0x50, 0x22, 0x5D, 0x5D]),
    (["s"], .directory), (["s", "two.asm"], .file [0x41, 0x20, 0x31, 0x0A, 0x42])]⟩

/-- A call that names all four files. -/
def fourNames : Assembly :=
  { source := some (.parse "s/two.asm"), rules := some (.parse "t/r.json"),
    output := some (.parse "o/two.hex"), listing := some (.parse "o/two.lst"), quiet := true }

/-- Of the two lines one fails, and the word of the other is in the artifact, with the listing
beside it in a new directory. -/
theorem assembler_leaves_failed_line_and_artifact :
    ∃ program : Program, leavesArtifact {} fourNames program = true ∧ program.anyFailed = true ∧
      Completed {} fourNames (.parse "o/two.hex") program twoLines
        (assemble (.console 2) {} twoLines fourNames) := by
  let table := (RuleFile.load 2 twoLines "t/r.json").outcome.toOption.getD {}
  let program := (table.assemble "A 1\nB" "s/two.asm").value
  have hplaces : ∀ p, fourNames.listing = some p → p.place ≠ (Path.parse "o/two.hex").place := by
    intro p hp
    cases hp
    decide +kernel
  obtain ⟨htable, hsource, hprint, hedits, hleaves, hfailed⟩ :
      (RuleFile.load 2 twoLines (Path.parse "t/r.json").text).outcome = .ok table ∧
        SourceFile.load twoLines (.parse "s/two.asm") = .ok "A 1\nB" ∧
        (Host.console 2).PrintsAll (concluded {} fourNames (.parse "o/two.hex") program) ∧
        (twoLines.edit (do
          listingEdit fourNames program
          artifactEdit {} fourNames (.parse "o/two.hex") program)).1 = .ok () ∧
        leavesArtifact {} fourNames program = true ∧ program.anyFailed = true := by
    decide +kernel
  have hcommand := assembler_leaves_listing_and_artifact (.console 2) {} twoLines fourNames hplaces
  have hloaded := (hcommand.2 table htable).2 (List.forall_mem_nil _)
  have hstored := (hloaded.2 _ hsource).2
  exact ⟨program, hleaves, hfailed, (hstored hedits).1 hprint⟩

/-- The rules `[[],["A","q\ud800"]]`, whose operand text has a lone surrogate, and the source
`A 1`. -/
def loneSurrogate : FileTree :=
  ⟨[(["rules.json"], .file
      [0x5B, 0x5B, 0x5D, 0x2C, 0x5B, 0x22, 0x41, 0x22, 0x2C, 0x22, 0x71, 0x5C, 0x75, 0x64, 0x38,
        0x30, 0x30, 0x22, 0x5D, 0x5D]),
    (["default.asm"], .file [0x41, 0x20, 0x31])]⟩

/-- Rules and source are loaded and no file is to be written, and yet the exit code for a failed
line is 3: its listing cannot be printed. -/
theorem listing_with_surrogate_ends_with_three :
    ∃ (table : RuleTable) (text : Text),
      (RuleFile.load 2 loneSurrogate "rules.json").outcome = .ok table ∧
      SourceFile.load loneSurrogate (.parse "default.asm") = .ok text ∧
      (loneSurrogate.edit (do
        listingEdit {} (table.assemble text "default.asm").value
        artifactEdit {} {} (.parse "MachineCodeHex.txt")
          (table.assemble text "default.asm").value)).1 = .ok () ∧
      (table.assemble text "default.asm").value.anyFailed = true ∧
      (assemble (.console 2) {} loneSurrogate {}).exit.number = 3 := by
  refine ⟨(RuleFile.load 2 loneSurrogate "rules.json").outcome.toOption.getD {}, "A 1", ?_⟩
  decide +kernel

end GridAsm.Command
