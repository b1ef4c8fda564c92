import GridAsm.Files.SourceFile
import GridAsm.Proofs.LineEnd
import GridAsm.Proofs.Utf8

/-!
# Sources from files

A source may be given as a text or as a file.  A file is decoded, its line ends are unified, and only
then it is cut into lines.  The program of a file is therefore that of the unified text, under the
name of the path (`assemble_gives`).  The lines are all that a program takes from its source
(`assemble_congr`), so the text as it stands in the file gives the same program, as long as no carriage
return stands alone.
-/

namespace GridAsm

open Text

/-- A program depends on no more than the lines of its source. -/
theorem RuleTable.assemble_congr (t : RuleTable) (filename : Text) {source source' : Text}
    (h : sourceLines source = sourceLines source') :
    t.assemble source filename = t.assemble source' filename := by
  unfold assemble
  rw [h]

namespace SourceFile

variable {files : FileTree} {p : Path} {s : String}

/-- A file with more than blanks in it is read with one kind of line end. -/
theorem load_eq_ok (hread : files.read p = .ok (encodeUtf8 s)) (hblank : allBlank s = false) :
    load files p = .ok (withFeeds s) := by
  have hunified : allBlank (unifyLineEnds s) = false := by
    rw [unifyLineEnds_eq, allBlank_withFeeds, hblank]
  unfold load
  rw [hread]
  dsimp only
  rw [decodeUtf8_encodeUtf8]
  dsimp only
  rw [hunified, unifyLineEnds_eq]
  rfl

theorem assemble_gives (t : RuleTable) (hread : files.read p = .ok (encodeUtf8 s))
    (hblank : allBlank s = false) :
    let program := t.assemble (withFeeds s) p.text
    (assemble files t p).Gives program.value program.notices := by
  intro program
  refine Attempt.gives_bind.mpr ⟨withFeeds s, [], program.notices, ?_, ?_, rfl⟩
  · exact Attempt.gives_liftExcept.mpr ⟨load_eq_ok hread hblank, rfl⟩
  · exact Attempt.gives_liftM.mpr ⟨rfl, rfl⟩

/-- **Files and texts agree.**  A file in UTF-8 with more than blanks in it gives the program of its
text with one kind of line end, named by the path.  If every carriage return of the text has a line
feed right after it, this is the program of the text itself, with all its lines and labels and with
the same notices.  Otherwise the program of the file has more lines than that of the text. -/
theorem file_agrees_with_text (t : RuleTable) (hread : files.read p = .ok (encodeUtf8 s))
    (hblank : allBlank s = false) :
    let ofFile := t.assemble (withFeeds s) p.text
    let ofText := t.assemble s p.text
    (assemble files t p).Gives ofFile.value ofFile.notices ∧
      (ReturnsPaired s → ofFile = ofText) ∧
      (¬ ReturnsPaired s → ofText.value.lines.length < ofFile.value.lines.length) := by
  intro ofFile ofText
  refine ⟨assemble_gives t hread hblank, ?_, ?_⟩
  · intro hpaired
    exact t.assemble_congr p.text hpaired.lines_withFeeds
  · intro halone
    rw [RuleTable.length_lines_assemble, RuleTable.length_lines_assemble]
    exact length_lines_lt halone

/-- A file with a byte-order mark and two kinds of line ends, both with a line feed, and one with a
carriage return alone, which makes three lines out of two. -/
theorem file_agrees_with_text_after_mark :
    let t : RuleTable := ⟨[⟨"JMP", "P", .absolute, [⟨0, 16, .immediate "P"⟩]⟩]⟩
    let paired := "\uFEFF\n; text\r\nend: JMP end\r\n"
    let alone := "JMP 1\rJMP 0\r\n"
    let files : FileTree :=
      ⟨[(["a.asm"], .file (encodeUtf8 paired)), (["b.asm"], .file (encodeUtf8 alone))]⟩
    let p := Path.parse "a.asm"
    let q := Path.parse "b.asm"
    let program := t.assemble paired p.text
    let longer := t.assemble (withFeeds alone) q.text
    (assemble files t p).Gives program.value program.notices ∧
      (assemble files t q).Gives longer.value longer.notices ∧
      (t.assemble alone q.text).value.lines.length < longer.value.lines.length := by
  intro t paired alone files p q program longer
  have hpaired := @file_agrees_with_text files p paired t (by decide +kernel) (by decide +kernel)
  have halone := @file_agrees_with_text files q alone t (by decide +kernel) (by decide +kernel)
  have hsame : t.assemble (withFeeds paired) p.text = program := hpaired.2.1 (by decide +kernel)
  have hgives := hpaired.1
  rw [hsame] at hgives
  exact ⟨hgives, halone.1, halone.2.2 (by decide +kernel)⟩

end SourceFile

end GridAsm
