import GridAsm.Proofs.Program
import Mathlib.Data.List.Forall2

/-!
# Failures are local to their lines

A line acts on the others by its outline only: the name that it defines and whether it takes an
address.  The label pass sees nothing else of a line (`addLines_congr`), and the second pass hands
nothing else on to the lines after it (`slots_congr`).  So a line that has the same text in two
sources of the same outlines has the same result in both (`getElem?_lines_congr`), whatever becomes
of the others.  In the same way, what relates the lines of two texts of the same outline wherever
they stand relates two programs made of such lines (`forall₂_lines_assemble`).
-/

namespace GridAsm

open Text

/-- What a line is to the other lines: the name it defines and whether it takes an address. -/
def outline (text : Text) : Option Text × Bool :=
  ((SourceLine.parse text).labelName, takesAddress text)

theorem slots_eq_countP_outline (texts : List Text) :
    slots texts = (texts.map outline).countP Prod.snd := by
  rw [List.countP_map]
  rfl

theorem map_outline_eq_iff {texts texts' : List Text} :
    texts.map outline = texts'.map outline ↔
      List.Forall₂ (fun text text' => outline text = outline text') texts texts' := by
  rw [← List.forall₂_eq_eq_eq, List.forall₂_map_left_iff, List.forall₂_map_right_iff]

theorem slots_congr {texts texts' : List Text} (h : texts.map outline = texts'.map outline) :
    slots texts = slots texts' := by
  rw [slots_eq_countP_outline, h, slots_eq_countP_outline]

namespace LabelTable

theorem addLine_congr {line line' : SourceLine} (h : line.labelName = line'.labelName)
    (t : LabelTable) (address : Int) : t.addLine address line = t.addLine address line' := by
  rw [addLine, addLine, h]

/-- Lines of the same outlines give the same labels, in the same order. -/
theorem addLines_congr {texts texts' : List Text} (h : texts.map outline = texts'.map outline)
    (t : LabelTable) (address : Int) :
    t.addLines address (texts.map SourceLine.parse) =
      t.addLines address (texts'.map SourceLine.parse) := by
  induction texts generalizing texts' t address with
  | nil =>
    obtain rfl : texts' = [] := List.map_eq_nil_iff.mp h.symm
    rfl
  | cons text rest ih =>
    obtain ⟨text', rest', rfl, htext, hrest⟩ := List.map_eq_cons_iff.mp h.symm
    have hname : (SourceLine.parse text).labelName = (SourceLine.parse text').labelName :=
      (congrArg Prod.fst htext).symm
    have hcode : (SourceLine.parse text).hasCode = (SourceLine.parse text').hasCode :=
      (congrArg Prod.snd htext).symm
    rw [List.map_cons, List.map_cons, addLines, addLines, addLine_congr hname, hcode]
    congr 1
    funext table
    exact ih hrest.symm table _

end LabelTable

namespace RuleTable

variable (t : RuleTable) (filename : Text) {source source' : Text}

theorem labels_congr
    (h : (sourceLines source).map outline = (sourceLines source').map outline) :
    (t.assemble source filename).value.labels = (t.assemble source' filename).value.labels :=
  congrArg Logged.value (LabelTable.addLines_congr h {} 0)

/-- What relates the lines of texts of the same outlines, whatever the labels are and wherever the
lines stand, relates the two programs line by line. -/
theorem forall₂_value_linesFrom {R : Line → Line → Prop} {texts texts' : List Text}
    (labels : LabelTable)
    (h : List.Forall₂ (fun text text' => outline text = outline text' ∧ ∀ number pc,
      R (t.lineOf labels filename number text pc).value
        (t.lineOf labels filename number text' pc).value) texts texts') (number pc : Nat) :
    List.Forall₂ R (t.linesFrom labels filename number pc texts).value
      (t.linesFrom labels filename number pc texts').value := by
  induction h generalizing number pc with
  | nil => exact .nil
  | @cons text text' rest rest' hline _ ih =>
    have htakes : takesAddress text = takesAddress text' := congrArg Prod.snd hline.1
    rw [value_linesFrom_cons, value_linesFrom_cons, htakes]
    exact .cons (hline.2 number pc) (ih _ _)

theorem forall₂_lines_assemble {R : Line → Line → Prop}
    (h : List.Forall₂ (fun text text' => outline text = outline text' ∧ ∀ labels number pc,
      R (t.lineOf labels filename number text pc).value
        (t.lineOf labels filename number text' pc).value)
      (sourceLines source) (sourceLines source')) :
    let program := (t.assemble source filename).value
    let program' := (t.assemble source' filename).value
    program.labels = program'.labels ∧ List.Forall₂ R program.lines program'.lines := by
  intro program program'
  have hlabels : program.labels = program'.labels :=
    labels_congr t filename (map_outline_eq_iff.mpr (h.imp fun _ _ hline => hline.1))
  refine ⟨hlabels, ?_⟩
  show List.Forall₂ R (t.assemble source filename).value.lines
    (t.assemble source' filename).value.lines
  rw [lines_assemble, lines_assemble, ← hlabels]
  exact forall₂_value_linesFrom t filename _
    (h.imp fun _ _ hline => ⟨hline.1, hline.2 program.labels⟩) 1 0

/-- A line of the same text and the same number in two sources of the same outlines has the same
result in both. -/
theorem getElem?_lines_congr
    (h : (sourceLines source).map outline = (sourceLines source').map outline) {j : Nat}
    (hj : (sourceLines source)[j]? = (sourceLines source')[j]?) :
    (t.assemble source filename).value.lines[j]? =
      (t.assemble source' filename).value.lines[j]? := by
  have hbefore : slots ((sourceLines source).take j) = slots ((sourceLines source').take j) := by
    apply slots_congr
    rw [List.map_take, h, List.map_take]
  rw [lines_assemble, lines_assemble, getElem?_value_linesFrom, getElem?_value_linesFrom,
    labels_congr t filename h, hj, hbefore]

/-- **Failures are local to their lines.**  If two sources differ in the line at `i` only, where the
labels of its two versions have the same name or are both absent, and both versions have code or
neither has, then the two programs have the same labels and the same lines at every other index. -/
theorem line_change_is_local {i : Nat}
    (hlength : (sourceLines source).length = (sourceLines source').length)
    (hother : ∀ j ≠ i, (sourceLines source)[j]? = (sourceLines source')[j]?)
    (hline : ∀ text text', (sourceLines source)[i]? = some text →
      (sourceLines source')[i]? = some text' →
      (SourceLine.parse text).label.map upper = (SourceLine.parse text').label.map upper ∧
        ((SourceLine.parse text).code = [] ↔ (SourceLine.parse text').code = [])) :
    let program := (t.assemble source filename).value
    let program' := (t.assemble source' filename).value
    program.labels = program'.labels ∧ ∀ j ≠ i, program.lines[j]? = program'.lines[j]? := by
  intro program program'
  have houtlines : (sourceLines source).map outline = (sourceLines source').map outline := by
    apply List.ext_getElem?
    intro j
    rw [List.getElem?_map, List.getElem?_map]
    by_cases hj : j = i
    · subst hj
      cases htext : (sourceLines source)[j]? with
      | none =>
        rw [List.getElem?_eq_none_iff, hlength] at htext
        rw [List.getElem?_eq_none_iff.mpr htext]
      | some text =>
        have hlt : j < (sourceLines source').length := by
          rw [← hlength]
          exact (List.getElem?_eq_some_iff.mp htext).1
        obtain ⟨hname, hcode⟩ := hline text _ htext (List.getElem?_eq_getElem hlt)
        have htakes : takesAddress text = takesAddress (sourceLines source')[j] :=
          decide_eq_decide.mpr (not_congr hcode)
        rw [List.getElem?_eq_getElem hlt, Option.map_some, Option.map_some, outline, outline,
          SourceLine.labelName, SourceLine.labelName, hname, htakes]
    · rw [hother j hj]
  exact ⟨labels_congr t filename houtlines,
    fun j hj => getElem?_lines_congr t filename houtlines (hother j hj)⟩

/-- A line that fails in one source and is encoded in the other, between two jumps. -/
theorem line_change_between_jumps :
    let t : RuleTable := ⟨[⟨"JMP", "P", .absolute, [⟨0, 16, .immediate "P"⟩]⟩]⟩
    let source : Text := "top: JMP end\nMid: FOO\nend: JMP mid"
    let source' : Text := "top: JMP end\nmid: JMP top\nend: JMP mid"
    let program := (t.assemble source "<input>").value
    let program' := (t.assemble source' "<input>").value
    program.lines[1]?.map Line.status = some .failed ∧
      program'.lines[1]?.map Line.status = some .encoded ∧
      program.labels = program'.labels ∧ program.lines[0]? = program'.lines[0]? ∧
      program.lines[2]? = program'.lines[2]? := by
  intro t source source' program program'
  have hset : sourceLines source' = (sourceLines source).set 1 "mid: JMP top" := by decide +kernel
  have hfirst : (sourceLines source)[1]? = some (ofString "Mid: FOO") := by decide +kernel
  have hsecond : (sourceLines source')[1]? = some (ofString "mid: JMP top") := by decide +kernel
  have hother : ∀ j ≠ 1, (sourceLines source)[j]? = (sourceLines source')[j]? := by
    intro j hj
    rw [hset, List.getElem?_set_ne hj.symm]
  have hline : ∀ text text', (sourceLines source)[1]? = some text →
      (sourceLines source')[1]? = some text' →
      (SourceLine.parse text).label.map upper = (SourceLine.parse text').label.map upper ∧
        ((SourceLine.parse text).code = [] ↔ (SourceLine.parse text').code = []) := by
    intro text text' htext htext'
    obtain rfl := Option.some.inj (hfirst.symm.trans htext)
    obtain rfl := Option.some.inj (hsecond.symm.trans htext')
    decide +kernel
  have h := @line_change_is_local t "<input>" source source' 1 (by rw [hset, List.length_set])
    hother hline
  exact ⟨by decide +kernel, by decide +kernel, h.1, h.2 0 (by decide), h.2 2 (by decide)⟩

end RuleTable

end GridAsm
