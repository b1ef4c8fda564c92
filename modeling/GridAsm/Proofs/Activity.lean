import GridAsm.Command.Run
import GridAsm.Proofs.FileTree
import GridAsm.Proofs.Notice

/-!
# How the work of the assembler ends

`x.Ends files result files'` says that the part `x` of a command, started on `files`, ends with
`result` and leaves `files'`, whatever has been printed before it.  Sequences are put together from
their parts (`Ends.bind`, `Ends.bind_error`), so the work of the assembler is gone through once, in
the three ways it can end: at the rules, at the source, or with a program.

The lines that it prints on the way are collected in `announced` and `concluded`.  A line that the
output refuses ends the work where it is printed.
-/

namespace GridAsm.Command

open Text

/-- The output refuses none of the lines. -/
def Host.PrintsAll (host : Host) (lines : List Text) : Prop :=
  ∀ line ∈ lines, (host.output line).isOk = true

instance (host : Host) (lines : List Text) : Decidable (host.PrintsAll lines) :=
  inferInstanceAs (Decidable (∀ line ∈ lines, (host.output line).isOk = true))

theorem Host.printsAll_append {host : Host} {lines lines' : List Text} :
    host.PrintsAll (lines ++ lines') ↔ host.PrintsAll lines ∧ host.PrintsAll lines' :=
  List.forall_mem_append

namespace Activity

variable {α β : Type} {host : Host} {files files' files'' : FileTree}

/-- Started on files, a part of a command ends with a result and leaves files. -/
def Ends (x : Activity α) (files : FileTree) (result : Except Failure α) (files' : FileTree) :
    Prop :=
  ∀ c : Console, c.files = files → ∃ c', x.run.run c = (result, c') ∧ c'.files = files'

/-- Started on files, a part of a command ends at a line that the output refuses. -/
def Refused (x : Activity α) (files files' : FileTree) : Prop :=
  ∃ fault, x.Ends files (.error (.unprintable fault)) files'

theorem run_bind (x : Activity α) (f : α → Activity β) (c : Console) :
    (x >>= f).run.run c = match x.run.run c with
      | (.ok a, c') => (f a).run.run c'
      | (.error failure, c') => (.error failure, c') := by
  have hrun : (x >>= f).run.run c = (x.run >>= ExceptT.bindCont f).run c := rfl
  rw [hrun, StateT.run_bind]
  rcases x.run.run c with ⟨result, c'⟩
  cases result <;> rfl

theorem Ends.bind {x : Activity α} {f : α → Activity β} {a : α} {result : Except Failure β}
    (hx : x.Ends files (.ok a) files') (hf : (f a).Ends files' result files'') :
    (x >>= f).Ends files result files'' := by
  intro c hc
  obtain ⟨c', hrun, hc'⟩ := hx c hc
  obtain ⟨c'', hrun', hc''⟩ := hf c' hc'
  refine ⟨c'', ?_, hc''⟩
  rw [run_bind, hrun]
  exact hrun'

theorem Ends.bind_error {x : Activity α} {f : α → Activity β} {failure : Failure}
    (hx : x.Ends files (.error failure) files') : (x >>= f).Ends files (.error failure) files' := by
  intro c hc
  obtain ⟨c', hrun, hc'⟩ := hx c hc
  refine ⟨c', ?_, hc'⟩
  rw [run_bind, hrun]

theorem Ends.bind_refused {x : Activity α} {f : α → Activity β} {a : α}
    (hx : x.Ends files (.ok a) files') (hf : (f a).Refused files' files'') :
    (x >>= f).Refused files files'' := by
  obtain ⟨fault, hfault⟩ := hf
  exact ⟨fault, hx.bind hfault⟩

theorem Refused.bind {x : Activity α} {f : α → Activity β} (hx : x.Refused files files') :
    (x >>= f).Refused files files' := by
  obtain ⟨fault, hfault⟩ := hx
  exact ⟨fault, hfault.bind_error⟩

theorem ends_pure (a : α) (files : FileTree) : (pure a : Activity α).Ends files (.ok a) files :=
  fun c hc => ⟨c, rfl, hc⟩

/-- A part that asks for the files gets those it is started on. -/
theorem ends_get_bind {f : Console → Activity β} {result : Except Failure β}
    (h : ∀ c : Console, c.files = files → (f c).Ends files result files') :
    (get >>= f).Ends files result files' := by
  intro c hc
  exact h c hc c hc

theorem ends_sayIf {condition : Bool} {line : Text}
    (h : host.PrintsAll (if condition then [line] else [])) (files : FileTree) :
    (sayIf host condition line).Ends files (.ok ()) files := by
  unfold sayIf
  by_cases hcondition : condition = true
  · rw [if_pos hcondition]
    have hline : (host.output line).isOk = true := by
      rw [if_pos hcondition] at h
      exact h line List.mem_cons_self
    unfold say
    cases hshown : host.output line with
    | ok shown => exact fun c hc => ⟨{ c with output := c.output ++ [shown] }, rfl, hc⟩
    | error fault =>
      rw [hshown] at hline
      cases hline
  · rw [if_neg hcondition]
    exact ends_pure () files

/-- A line that the output refuses ends a part of a command. -/
theorem refused_sayIf {condition : Bool} {line : Text}
    (h : ¬ host.PrintsAll (if condition then [line] else [])) (files : FileTree) :
    (sayIf host condition line).Refused files files := by
  unfold sayIf
  by_cases hcondition : condition = true
  · rw [if_pos hcondition] at h ⊢
    unfold say
    cases hshown : host.output line with
    | ok shown =>
      refine absurd (List.forall_mem_singleton.mpr ?_) h
      rw [hshown]
      rfl
    | error fault => exact ⟨fault, fun c hc => ⟨c, rfl, hc⟩⟩
  · rw [if_neg hcondition] at h
    exact absurd (List.forall_mem_nil _) h

theorem ends_log (verbose : Bool) (notices : List Notice) (files : FileTree) :
    (log verbose notices).Ends files (.ok ()) files :=
  fun _ hc => ⟨_, rfl, hc⟩

theorem ends_liftExcept (result : Except Failure α) (files : FileTree) :
    (liftExcept result : Activity α).Ends files result files := by
  intro c hc
  cases result with
  | ok a => exact ⟨c, rfl, hc⟩
  | error failure => exact ⟨c, rfl, hc⟩

theorem ends_attempt (verbose : Bool) (x : Attempt Failure α) (files : FileTree) :
    (attempt verbose x).Ends files x.outcome files :=
  (ends_log verbose _ files).bind (ends_liftExcept _ files)

theorem ends_settle {result : Except FileFault α × FileTree} {a : α}
    (h : result = (.ok a, files')) (files : FileTree) :
    (settle result).Ends files (.ok a) files' := by
  intro c hc
  rw [h]
  exact ⟨{ c with files := files' }, rfl, rfl⟩

end Activity

open Activity

/-! ### What is printed and written -/

section

variable (settings : Settings) (a : Assembly)

/-- Whether a program leaves an artifact: both the settings and the call want one, and there are
words for it. -/
def leavesArtifact (program : Program) : Bool :=
  settings.writesArtifact && !a.noArtifact && !program.words.isEmpty

/-- The lines that are printed before the source is read. -/
def announced (rules source : Path) (table : RuleTable) : List Text :=
  if a.verbose then
    ["Rules: " ++ rules.text ++ " (" ++ decimal table.size ++ " rules)",
     "Assembling " ++ source.text ++ "..."]
  else []

/-- The listing as it is printed: as one line. -/
def shownListing (program : Program) : List Text :=
  if !a.quiet then [Listing.render program] else []

/-- The line that is printed once the listing is in its file. -/
def listingStored : List Text :=
  match a.listing with
  | none => []
  | some path => if a.verbose then ["Wrote listing to " ++ path.text] else []

/-- The line that is printed once the artifact is in its file. -/
def artifactStored (artifact : Path) (program : Program) : List Text :=
  if leavesArtifact settings a program then
    ["Wrote " ++ decimal program.words.length ++ " words to " ++ artifact.text]
  else []

/-- The lines that are printed once the source is assembled. -/
def concluded (artifact : Path) (program : Program) : List Text :=
  shownListing a program ++ listingStored a ++ artifactStored settings a artifact program

/-- Writes the listing to its file, if one is wanted. -/
def listingEdit (program : Program) : FileTree.Edit Unit :=
  match a.listing with
  | none => pure ()
  | some path => FileTree.writeText path (Listing.render program ++ "\n")

/-- Writes the artifact to its file, if the program leaves one. -/
def artifactEdit (artifact : Path) (program : Program) : FileTree.Edit Unit :=
  if leavesArtifact settings a program then FileTree.writeText artifact program.artifact
  else pure ()

end

/-! ### How the work ends -/

section

variable {host : Host} {settings : Settings} {a : Assembly} {files files' files'' : FileTree}
  {program : Program} {table : RuleTable}

/-! #### The rules -/

theorem ends_loadRules_of_error {failure : Failure}
    (h : (RuleFile.load host.levels files (rulesPath settings a).text).outcome = .error failure) :
    (loadRules host settings a).Ends files (.error failure) files := by
  unfold loadRules
  apply ends_get_bind
  rintro c rfl
  apply Ends.bind_error
  rw [← h]
  exact ends_attempt a.verbose _ c.files

/-- The two lines of an announcement, one by one. -/
theorem announced_eq (rules source : Path) (table : RuleTable) :
    announced a rules source table =
      (if a.verbose then ["Rules: " ++ rules.text ++ " (" ++ decimal table.size ++ " rules)"]
        else []) ++
      (if a.verbose then ["Assembling " ++ source.text ++ "..."] else []) := by
  unfold announced
  cases a.verbose <;> rfl

section

variable (h : (RuleFile.load host.levels files (rulesPath settings a).text).outcome = .ok table)

include h

theorem ends_loadRules
    (hprint : host.PrintsAll (announced a (rulesPath settings a) (sourcePath settings a) table)) :
    (loadRules host settings a).Ends files (.ok table) files := by
  rw [announced_eq, Host.printsAll_append] at hprint
  unfold loadRules
  apply ends_get_bind
  rintro c rfl
  have hload := ends_attempt a.verbose
    (RuleFile.load host.levels c.files (rulesPath settings a).text) c.files
  rw [h] at hload
  refine hload.bind ((ends_log _ _ _).bind ?_)
  exact (ends_sayIf hprint.1 _).bind ((ends_sayIf hprint.2 _).bind (ends_pure table _))

/-- Lines that the output refuses end the work before the source is read. -/
theorem refused_loadRules
    (hprint : ¬ host.PrintsAll (announced a (rulesPath settings a) (sourcePath settings a) table)) :
    (loadRules host settings a).Refused files files := by
  rw [announced_eq, Host.printsAll_append] at hprint
  have hload := ends_attempt a.verbose
    (RuleFile.load host.levels files (rulesPath settings a).text) files
  rw [h] at hload
  unfold loadRules
  -- The first line that is refused ends the work: that of the rules, or that of the source.
  by_cases hrules : host.PrintsAll (if a.verbose then
      ["Rules: " ++ (rulesPath settings a).text ++ " (" ++ decimal table.size ++ " rules)"] else [])
  · obtain ⟨fault, hfault⟩ := refused_sayIf (fun hsource => hprint ⟨hrules, hsource⟩) files
    refine ⟨fault, ends_get_bind ?_⟩
    rintro c rfl
    exact hload.bind ((ends_log _ _ _).bind ((ends_sayIf hrules _).bind hfault.bind_error))
  · obtain ⟨fault, hfault⟩ := refused_sayIf hrules files
    refine ⟨fault, ends_get_bind ?_⟩
    rintro c rfl
    exact hload.bind ((ends_log _ _ _).bind hfault.bind_error)

end

/-! #### The program -/

theorem ends_storeListing (hedit : files.edit (listingEdit a program) = (.ok (), files'))
    (hprint : host.PrintsAll (listingStored a)) :
    (storeListing host a (Listing.render program)).Ends files (.ok ()) files' := by
  unfold listingEdit at hedit
  unfold listingStored at hprint
  unfold storeListing
  cases hlisting : a.listing with
  | none =>
    rw [hlisting] at hedit
    cases hedit
    exact ends_pure () files
  | some path =>
    rw [hlisting] at hedit hprint
    apply ends_get_bind
    rintro c rfl
    exact (ends_settle hedit c.files).bind (ends_sayIf hprint files')

theorem refused_storeListing (hedit : files.edit (listingEdit a program) = (.ok (), files'))
    (hprint : ¬ host.PrintsAll (listingStored a)) :
    (storeListing host a (Listing.render program)).Refused files files' := by
  unfold listingEdit at hedit
  unfold listingStored at hprint
  unfold storeListing
  cases hlisting : a.listing with
  | none =>
    rw [hlisting] at hprint
    exact absurd (List.forall_mem_nil _) hprint
  | some path =>
    rw [hlisting] at hedit hprint
    obtain ⟨fault, hfault⟩ := refused_sayIf hprint files'
    refine ⟨fault, ends_get_bind ?_⟩
    rintro c rfl
    exact (ends_settle hedit c.files).bind hfault

/-- Storing the artifact ends as printing its line does. -/
theorem ends_storeArtifact {artifact : Path} {result : Except Failure Unit}
    (hwanted : (settings.writesArtifact && !a.noArtifact) = true)
    (hedit : files.edit (artifactEdit settings a artifact program) = (.ok (), files'))
    (hsay : (sayIf host (leavesArtifact settings a program)
      ("Wrote " ++ decimal program.words.length ++ " words to " ++ artifact.text)).Ends
        files' result files') :
    (storeArtifact host a program artifact).Ends files result files' := by
  unfold storeArtifact
  apply ends_get_bind
  rintro c rfl
  unfold artifactEdit at hedit
  unfold Artifact.writeFile
  by_cases hempty : program.words.isEmpty
  · -- Without words nothing is written and nothing printed.
    have hleaves : leavesArtifact settings a program = false := by simp [leavesArtifact, hempty]
    rw [hleaves] at hedit hsay
    cases hedit
    rw [if_pos hempty]
    exact (ends_log _ _ _).bind ((ends_settle rfl _).bind hsay)
  · have hleaves : leavesArtifact settings a program = true := by
      simp [leavesArtifact, hempty, hwanted]
    rw [hleaves] at hsay
    rw [if_pos hleaves] at hedit
    rw [if_neg hempty, hedit]
    exact (ends_log _ _ _).bind ((ends_settle rfl _).bind hsay)

section

variable (hlisting : files.edit (listingEdit a program) = (.ok (), files'))
  (hartifact : files'.edit (artifactEdit settings a (artifactPath settings a) program) =
    (.ok (), files''))

include hlisting hartifact

theorem ends_storeProgram
    (hprint : host.PrintsAll (concluded settings a (artifactPath settings a) program)) :
    (storeProgram host settings a program).Ends files (.ok ()) files'' := by
  rw [concluded, Host.printsAll_append, Host.printsAll_append] at hprint
  obtain ⟨⟨hshown, hlisted⟩, hstored⟩ := hprint
  unfold storeProgram
  refine (ends_sayIf hshown _).bind ((ends_storeListing hlisting hlisted).bind ?_)
  split
  · rename_i hwanted
    exact ends_storeArtifact hwanted hartifact (ends_sayIf hstored _)
  · rename_i hwanted
    have hleaves : leavesArtifact settings a program = false := by
      simp [leavesArtifact, hwanted]
    unfold artifactEdit at hartifact
    rw [hleaves] at hartifact
    cases hartifact
    exact ends_pure () _

/-- A line that the output refuses ends the work before, between or after the two files. -/
theorem refused_storeProgram
    (hprint : ¬ host.PrintsAll (concluded settings a (artifactPath settings a) program)) :
    ∃ left, (left = files ∨ left = files' ∨ left = files'') ∧
      (storeProgram host settings a program).Refused files left := by
  rw [concluded, Host.printsAll_append, Host.printsAll_append] at hprint
  unfold storeProgram
  -- The first line that is refused decides which of the two files is there.
  by_cases hshown : host.PrintsAll (shownListing a program)
  · have hsay := ends_sayIf hshown files
    by_cases hlisted : host.PrintsAll (listingStored a)
    · have hstored : ¬ host.PrintsAll
          (artifactStored settings a (artifactPath settings a) program) := fun h =>
        hprint ⟨⟨hshown, hlisted⟩, h⟩
      -- There is a line for the artifact, so it is wanted.
      have hwanted : (settings.writesArtifact && !a.noArtifact) = true := by
        apply Decidable.byContradiction
        intro hunwanted
        apply hstored
        have hleaves : leavesArtifact settings a program = false := by
          simp [leavesArtifact, hunwanted]
        rw [artifactStored, hleaves]
        exact List.forall_mem_nil _
      obtain ⟨fault, hfault⟩ := refused_sayIf hstored files''
      refine ⟨files'', .inr (.inr rfl), hsay.bind_refused ?_⟩
      refine (ends_storeListing hlisting hlisted).bind_refused ?_
      rw [if_pos hwanted]
      exact ⟨fault, ends_storeArtifact hwanted hartifact hfault⟩
    · refine ⟨files', .inr (.inl rfl), hsay.bind_refused ?_⟩
      exact (refused_storeListing hlisting hlisted).bind
  · exact ⟨files, .inl rfl, (refused_sayIf hshown files).bind⟩

end

theorem ends_assemble (verbose : Bool) (files : FileTree) (table : RuleTable) (p : Path) :
    (attempt verbose (SourceFile.assemble files table p)).Ends files
      ((SourceFile.load files p).map fun source => (table.assemble source p.text).value) files := by
  have houtcome : (SourceFile.assemble files table p).outcome =
      (SourceFile.load files p).map fun source => (table.assemble source p.text).value := by
    unfold SourceFile.assemble
    rw [Attempt.outcome_bind, Attempt.outcome_liftExcept]
    cases SourceFile.load files p with
    | error failure => rfl
    | ok source => rfl
  rw [← houtcome]
  exact ends_attempt verbose _ files

/-! #### The whole work -/

/-- Without a rule table nothing is done. -/
theorem ends_assembling_of_rules_error {failure : Failure}
    (h : (RuleFile.load host.levels files (rulesPath settings a).text).outcome = .error failure) :
    (assembling host settings a).Ends files (.error failure) files :=
  (ends_loadRules_of_error h).bind_error

section

variable
  (hrules : (RuleFile.load host.levels files (rulesPath settings a).text).outcome = .ok table)

include hrules

/-- Nothing is written if the output refuses a line before the source is read. -/
theorem refused_assembling_of_not_announced
    (hrefused :
      ¬ host.PrintsAll (announced a (rulesPath settings a) (sourcePath settings a) table)) :
    (assembling host settings a).Refused files files :=
  (refused_loadRules hrules hrefused).bind

variable
  (hannounced : host.PrintsAll (announced a (rulesPath settings a) (sourcePath settings a) table))

include hannounced

/-- Without a source nothing is done. -/
theorem ends_assembling_of_source_error {failure : Failure}
    (hsource : SourceFile.load files (sourcePath settings a) = .error failure) :
    (assembling host settings a).Ends files (.error failure) files := by
  refine (ends_loadRules hrules hannounced).bind (ends_get_bind ?_)
  rintro c rfl
  have hassemble := ends_assemble a.verbose c.files table (sourcePath settings a)
  rw [hsource] at hassemble
  exact hassemble.bind_error

variable {source : Text} (hsource : SourceFile.load files (sourcePath settings a) = .ok source)
  (hprogram : (table.assemble source (sourcePath settings a).text).value = program)

include hsource hprogram

/-- With rules and a source, the work ends as the storing of the program does. -/
theorem ends_assembling_of_storeProgram {result : Except Failure Program}
    (h : Ends (do storeProgram host settings a program; return program) files result files') :
    (assembling host settings a).Ends files result files' := by
  subst hprogram
  refine (ends_loadRules hrules hannounced).bind (ends_get_bind ?_)
  rintro c rfl
  have hassemble := ends_assemble a.verbose c.files table (sourcePath settings a)
  rw [hsource] at hassemble
  exact hassemble.bind h

theorem refused_assembling (h : (storeProgram host settings a program).Refused files files') :
    (assembling host settings a).Refused files files' := by
  obtain ⟨fault, hfault⟩ := h
  exact ⟨fault, ends_assembling_of_storeProgram hrules hannounced hsource hprogram
    hfault.bind_error⟩

/-- Nothing is written if the output refuses the listing. -/
theorem refused_assembling_of_not_shown (hrefused : ¬ host.PrintsAll (shownListing a program)) :
    (assembling host settings a).Refused files files :=
  refused_assembling hrules hannounced hsource hprogram (refused_sayIf hrefused files).bind

/-- There is a program if nothing refuses what is printed and written. -/
theorem ends_assembling
    (hconcluded : host.PrintsAll (concluded settings a (artifactPath settings a) program))
    (hlisting : files.edit (listingEdit a program) = (.ok (), files'))
    (hartifact : files'.edit (artifactEdit settings a (artifactPath settings a) program) =
      (.ok (), files'')) :
    (assembling host settings a).Ends files (.ok program) files'' := by
  apply ends_assembling_of_storeProgram hrules hannounced hsource hprogram
  exact (ends_storeProgram hlisting hartifact hconcluded).bind (ends_pure program files'')

end

/-! ### Exit codes -/

theorem exit_report (c : Category) (message : Text) (verbose : Bool) (task : Option Text) :
    (c.report message verbose task).exit = c.exitStatus := by
  unfold Category.report
  split
  · rename_i h
    exact h.symm
  · rename_i h
    exact h.symm
  · rfl

theorem assemble_of_error {failure : Failure}
    (h : (assembling host settings a).Ends files (.error failure) files') :
    (assemble host settings files a).files = files' ∧
      (assemble host settings files a).exit = failure.category.exitStatus := by
  obtain ⟨c, hrun, hc⟩ := h { files := files } rfl
  unfold assemble
  rw [hrun]
  exact ⟨hc, exit_report ..⟩

/-- A line that the output refuses is a failure of its own. -/
theorem assemble_of_refused (h : (assembling host settings a).Refused files files') :
    (assemble host settings files a).files = files' ∧
      (assemble host settings files a).exit.number = 3 := by
  obtain ⟨fault, hends⟩ := h
  obtain ⟨hfiles, hexit⟩ := assemble_of_error hends
  refine ⟨hfiles, ?_⟩
  rw [hexit]
  rfl

theorem assemble_of_ok (h : (assembling host settings a).Ends files (.ok program) files') :
    (assemble host settings files a).files = files' ∧
      (assemble host settings files a).exit =
        if program.anyFailed then .linesFailed else .success := by
  obtain ⟨c, hrun, hc⟩ := h { files := files } rfl
  unfold assemble
  rw [hrun]
  dsimp only
  split
  · exact ⟨hc, rfl⟩
  · exact ⟨hc, rfl⟩

end

end GridAsm.Command
