import GridAsm.Proofs.Locality
import GridAsm.Proofs.Operand
import GridAsm.Proofs.OperandList
import GridAsm.Proofs.SourceLine

/-!
# The spacing of a line does not matter

A line may be written again with one blank after its label, one after its first word and one after
each comma, and with any comment (`SourceLine.respaced`).  The four cuts that a line is read with
give the same parts again: the comment is cut off since no part holds a semicolon; the label is read
as before, and a code that was no label does not become one, since its first word and the first
character of its operands are kept (`label?_respacedCode`); and the operands are read back from the
joined pieces, since these are trimmed and hold no comma (`split_join`).
-/

namespace GridAsm

open Text

namespace Token

/-- A blank after a comma is a blank in front of the next operand. -/
theorem join_comma_blank (token : Text) (tokens : List Text) :
    join ", " (token :: tokens) = join "," (token :: tokens.map (.char ' ' :: ·)) := by
  induction tokens generalizing token with
  | nil => rfl
  | cons next tokens ih =>
    rw [List.map_cons, join_cons_cons, join_cons_cons, join_cons_left, ih]
    rfl

/-- Operands that are joined by commas and blanks are read back. -/
theorem split_join {tokens : List Text} (hne : tokens ≠ [[]])
    (h : ∀ token ∈ tokens, Trimmed token ∧ .char ',' ∉ token) :
    split (join ", " tokens) = tokens := by
  cases tokens with
  | nil => rfl
  | cons token tokens =>
    obtain ⟨⟨htrimmed, hcomma⟩, hrest⟩ := List.forall_mem_cons.mp h
    have hspace : ∀ next ∈ tokens, trim (.char ' ' :: next) = next := by
      intro next hnext
      have hblank := @trim_append_left [.char ' '] (by decide) next
      exact hblank.trans (hrest next hnext).1.trim_eq
    have hpieces : (token :: tokens.map (.char ' ' :: ·)).map trim = token :: tokens := by
      rw [List.map_cons, htrimmed.trim_eq, List.map_map]
      congr 1
      exact (List.map_congr_left hspace).trans (List.map_id _)
    rw [join_comma_blank, split_join_comma (List.cons_ne_nil _ _) (hpieces ▸ hne), hpieces]
    rw [List.forall_mem_cons, List.forall_mem_map]
    refine ⟨hcomma, fun next hnext hmem => ?_⟩
    rcases List.mem_cons.mp hmem with hblank | hmem
    · exact absurd hblank (by decide)
    · exact (hrest next hnext).2 hmem

theorem split_join_split (text : Text) : split (join ", " (split text)) = split text := by
  apply split_join (split_ne_singleton_nil text)
  intro token htoken
  obtain ⟨htrimmed, hmem⟩ := trimmed_of_mem_split htoken
  exact ⟨htrimmed, fun hcomma => (hmem _ hcomma).1 rfl⟩

/-- The first character of the operands stays first. -/
theorem head?_join_split {text : Text} (h : Trimmed text) :
    (trim (join ", " (split text))).head? = text.head? := by
  cases text with
  | nil => rfl
  | cons p rest =>
    have hp : isBlank p = false := h.1 p rfl
    apply head?_trim ?_ hp
    obtain ⟨first, pieces, hpieces⟩ := exists_splitAt_eq_cons ',' rest
    rw [split_eq, if_neg (by rw [h.trim_eq]; exact List.cons_ne_nil p rest), splitAt, hpieces]
    split_ifs with hcomma
    · -- The first operand is empty, and a comma stands after it.
      rw [List.map_cons, List.map_cons, join_cons_cons, hcomma]
      rfl
    · have hhead : (trim (p :: first)).head? = some p := head?_trim rfl hp
      obtain ⟨token, htoken⟩ := List.head?_eq_some_iff.mp hhead
      show (join ", " (trim (p :: first) :: pieces.map trim)).head? = some p
      rw [htoken, join_cons_left]
      rfl

end Token

/-! ### Codes -/

/-- A code with one blank after its first word and one after each comma. -/
def respacedCode (code : Text) : Text :=
  (firstWord code).1 ++ .char ' ' :: join ", " (Token.split (codeParts code).2)

section

variable {code : Text} (hcode : Trimmed code) (hne : code ≠ [])
include hcode hne

theorem isCode_respacedCode :
    IsCode (firstWord code).1 (trim (join ", " (Token.split (codeParts code).2)))
      (trim (respacedCode code)) :=
  isCode_trim_append (isCode_of_trimmed hcode hne).1 (by decide) _

theorem codeParts_respacedCode :
    codeParts (trim (respacedCode code)) =
      ((codeParts code).1, trim (join ", " (Token.split (codeParts code).2))) := by
  obtain ⟨hword, -⟩ := isCode_of_trimmed hcode hne
  rw [(isCode_respacedCode hcode hne).codeParts_eq hword (trimmed_trim _), codeParts, hcode.trim_eq]

theorem split_respacedCode :
    Token.split (codeParts (trim (respacedCode code))).2 = Token.split (codeParts code).2 := by
  rw [codeParts_respacedCode hcode hne, Token.split_trim, Token.split_join_split]

theorem trim_respacedCode_ne_nil : trim (respacedCode code) ≠ [] := by
  obtain ⟨hword, -⟩ := isCode_of_trimmed hcode hne
  obtain ⟨c, word, hcons⟩ := List.exists_cons_of_ne_nil hword.1
  have hblank : isBlank c = false := hword.2 c (by rw [hcons]; exact List.mem_cons_self ..)
  have hhead : (respacedCode code).head? = some c := by
    rw [respacedCode, hcons]
    rfl
  intro hnil
  exact nomatch (congrArg List.head? hnil).symm.trans (head?_trim hhead hblank)

theorem mem_respacedCode {p : CodePoint} (hp : p ∈ respacedCode code) :
    p ∈ code ∨ p = .char ' ' ∨ p = .char ',' := by
  rw [respacedCode, List.mem_append, List.mem_cons] at hp
  rcases hp with hp | hp | hp
  · exact .inl ((List.takeWhile_prefix _).subset hp)
  · exact .inr (.inl hp)
  · rcases mem_join hp with hsep | ⟨token, htoken, hp⟩
    · have hmem : p ∈ [CodePoint.char ',', .char ' '] := hsep
      simp only [List.mem_cons, List.not_mem_nil, or_false] at hmem
      exact .inr hmem.symm
    · have hoperand := ((Token.trimmed_of_mem_split htoken).2 p hp).2
      exact .inl ((isCode_of_trimmed hcode hne).2.mem_of_mem_operands hoperand)

/-- A code that is no label does not become one: both are decided by the first word and the first
character of the operands. -/
theorem label?_respacedCode (hfeed : CodePoint.char '\n' ∉ code)
    (h : SourceLine.label? code = none) : SourceLine.label? (trim (respacedCode code)) = none := by
  obtain ⟨hword, hshape⟩ := isCode_of_trimmed hcode hne
  have hshape' := isCode_respacedCode hcode hne
  have hoperands : Trimmed (codeParts code).2 := trimmed_trim _
  have hfeed' : CodePoint.char '\n' ∉ trim (respacedCode code) := by
    intro hmem
    rcases mem_respacedCode hcode hne (mem_of_mem_trim hmem) with hmem | hmem | hmem
    · exact hfeed hmem
    · exact absurd hmem (by decide)
    · exact absurd hmem (by decide)
  obtain ⟨c, word, hcons⟩ := List.exists_cons_of_ne_nil hword.1
  rw [hcons] at hword hshape hshape'
  rw [SourceLine.label?_eq_none_iff_of_isCode hword hoperands hshape hfeed] at h
  rw [SourceLine.label?_eq_none_iff_of_isCode hword (trimmed_trim _) hshape' hfeed',
    Token.head?_join_split hoperands]
  exact h

end

/-! ### Lines -/

namespace SourceLine

/-- A line with one blank after its label, one after its first word and one after each comma, and
with a tail. -/
def respaced (line tail : Text) : Text :=
  let label : Text := match (parse line).label with
    | some label => label ++ ": "
    | none => []
  label ++ respacedCode (parse line).code ++ tail

/-- What may follow a line: nothing, or a comment. -/
def IsTail (tail : Text) : Prop :=
  tail = [] ∨ ∃ comment, tail = .char ';' :: comment

theorem withoutComment_append {text tail : Text} (htext : .char ';' ∉ text) (htail : IsTail tail) :
    withoutComment (text ++ tail) = trim text := by
  have hrun : ∀ p ∈ text, decide (p ≠ .char ';') = true := by
    intro p hp
    exact decide_eq_true fun heq => htext (heq ▸ hp)
  have hstop : ∀ p, tail.head? = some p → decide (p ≠ .char ';') = false := by
    intro p hp
    rcases htail with rfl | ⟨comment, rfl⟩
    · exact nomatch hp
    · obtain rfl := Option.some.inj hp
      rfl
  rw [withoutComment, before, (takeWhile_append_of_boundary hrun hstop).1]

theorem mem_withoutComment {line : Text} {p : CodePoint} (h : p ∈ withoutComment line) :
    p ≠ .char ';' ∧ p ∈ line := by
  have hbefore : p ∈ line.takeWhile fun q => decide (q ≠ .char ';') := mem_of_mem_trim h
  have hkeep := List.mem_takeWhile_imp hbefore
  exact ⟨of_decide_eq_true hkeep, (List.takeWhile_prefix _).subset hbefore⟩

/-- A label before a colon and a code are read as such. -/
theorem ofText_label {label text : Text} (hlabel : IsLabel label)
    (hhead : ∀ p, label.head? = some p → isBlank p = false) (htext : trim text ≠ [])
    (hfeed : .char '\n' ∉ text) :
    ofText (trim (label ++ .char ':' :: text)) = ⟨some label, trim text⟩ := by
  obtain ⟨b, b', hb, hb', hsplit⟩ := exists_eq_append_trim text
  have hne : label ≠ [] := by
    obtain ⟨c, word, rfl, -⟩ := hlabel
    exact List.cons_ne_nil c word
  have htrimmed : Trimmed (label ++ .char ':' :: (b ++ trim text)) := by
    refine ⟨fun p hp => ?_, fun p hp => ?_⟩
    · rw [List.head?_append_of_ne_nil _ hne] at hp
      exact hhead p hp
    · rw [List.append_cons, ← List.append_assoc, List.getLast?_append_of_ne_nil _ htext] at hp
      exact (trimmed_trim text).2 p hp
  have hwhole : trim (label ++ .char ':' :: text) = label ++ .char ':' :: (b ++ trim text) := by
    have h := @trim_append [] _ b' rfl htrimmed hb'
    rw [← h]
    conv_lhs => rw [hsplit]
    simp
  have hread := @label?_append label [] b (trim text) hlabel rfl hb (trimmed_trim text).1
    fun hmem => hfeed (mem_of_mem_trim hmem)
  rw [hwhole, ofText]
  rw [List.nil_append] at hread
  rw [hread]
  simp only [trim_trim]

theorem trimmed_code (line : Text) : Trimmed (parse line).code := by
  rcases parse_cases line with ⟨-, hparse⟩ | ⟨label, gap, gap', body, -, hparse, -⟩
  · rw [hparse]
    exact trimmed_trim _
  · rw [hparse]
    exact trimmed_trim body

theorem mem_withoutComment_of_mem_code {line : Text} {p : CodePoint} (h : p ∈ (parse line).code) :
    p ∈ withoutComment line := by
  rcases parse_cases line with ⟨-, hparse⟩ | ⟨label, gap, gap', body, -, hparse, htext⟩
  · rwa [hparse] at h
  · rw [hparse] at h
    rw [htext]
    simp [mem_of_mem_trim h]

theorem parse_respaced {line tail : Text} (hfeed : .char '\n' ∉ line) (hne : (parse line).code ≠ [])
    (htail : IsTail tail) :
    parse (respaced line tail) = ⟨(parse line).label, trim (respacedCode (parse line).code)⟩ := by
  have hcode := trimmed_code line
  -- A character of the code that is none of the two that are put in is one of the line.
  have hmem : ∀ p ∈ respacedCode (parse line).code, p ≠ .char ' ' → p ≠ .char ',' →
      p ∈ withoutComment line := by
    intro p hp hblank hcomma
    rcases mem_respacedCode hcode hne hp with hp | hp | hp
    · exact mem_withoutComment_of_mem_code hp
    · exact absurd hp hblank
    · exact absurd hp hcomma
  have hsemi : .char ';' ∉ respacedCode (parse line).code := fun hp =>
    (mem_withoutComment (hmem _ hp (by decide) (by decide))).1 rfl
  have hfeed' : .char '\n' ∉ respacedCode (parse line).code := fun hp =>
    hfeed (mem_withoutComment (hmem _ hp (by decide) (by decide))).2
  rcases parse_cases line with ⟨hlabel, hparse⟩ | ⟨label, gap, gap', body, hlabel, hparse, htext⟩
  · have hnone : (parse line).label = none := by rw [hparse]
    have hkept : label? (trim (respacedCode (parse line).code)) = none := by
      apply label?_respacedCode hcode hne
      · exact fun hp => hfeed (mem_withoutComment (mem_withoutComment_of_mem_code hp)).2
      · rw [hparse]
        exact hlabel
    have hline : respaced line tail = respacedCode (parse line).code ++ tail := by
      simp only [respaced, hnone, List.nil_append]
    rw [parse, hline, withoutComment_append hsemi htail, ofText, hkept, hnone]
  · have hsome : (parse line).label = some label := by rw [hparse]
    have hline : respaced line tail =
        (label ++ .char ':' :: .char ' ' :: respacedCode (parse line).code) ++ tail := by
      simp only [respaced, hsome, List.append_assoc]
      rfl
    have hlabelMem : ∀ p ∈ label, p ∈ withoutComment line := by
      intro p hp
      rw [htext]
      exact List.mem_append_left _ hp
    have hhead : ∀ p, label.head? = some p → isBlank p = false := by
      intro p hp
      apply (trimmed_trim (before ';' line)).1
      show (withoutComment line).head? = some p
      rw [htext, List.head?_append, hp]
      rfl
    have hblank : trim (.char ' ' :: respacedCode (parse line).code) =
        trim (respacedCode (parse line).code) := @trim_append_left [.char ' '] (by decide) _
    have hsemi' : .char ';' ∉ label ++ .char ':' :: .char ' ' :: respacedCode (parse line).code := by
      intro hp
      rw [List.mem_append, List.mem_cons, List.mem_cons] at hp
      rcases hp with hp | hp | hp | hp
      · exact (mem_withoutComment (hlabelMem _ hp)).1 rfl
      · exact absurd hp (by decide)
      · exact absurd hp (by decide)
      · exact hsemi hp
    rw [parse, hline, withoutComment_append hsemi' htail, ofText_label hlabel hhead, hblank, hsome]
    · rw [hblank]
      exact trim_respacedCode_ne_nil hcode hne
    · rw [List.mem_cons, not_or]
      exact ⟨by decide, hfeed'⟩

end SourceLine

/-! ### Programs -/

/-- Two lines have code with the same label, mnemonic and operands. -/
structure SourceLine.SameParts (line line' : SourceLine) : Prop where
  label_eq : line.label = line'.label
  code_ne : line.code ≠ []
  code_ne' : line'.code ≠ []
  mnemonic_eq : (codeParts line.code).1 = (codeParts line'.code).1
  operands_eq : Token.split (codeParts line.code).2 = Token.split (codeParts line'.code).2

/-- Two lines have the same result: status, address, label, mnemonic, and the word or the fault with
its kind and its message. -/
structure Line.SameResult (line line' : Line) : Prop where
  status_eq : line.status = line'.status
  pc_eq : line.pc = line'.pc
  label_eq : line.label = line'.label
  mnemonic_eq : line.mnemonic = line'.mnemonic
  word_eq : line.word = line'.word
  fault_eq : line.error.map Diagnostic.fault = line'.error.map Diagnostic.fault

theorem SourceLine.SameParts.outline_eq {text text' : Text}
    (h : (parse text).SameParts (parse text')) : outline text = outline text' := by
  have htakes : takesAddress text = takesAddress text' :=
    (decide_eq_true h.code_ne).trans (decide_eq_true h.code_ne').symm
  rw [outline, outline, labelName, labelName, h.label_eq, htakes]

namespace RuleTable

variable (t : RuleTable) (filename : Text)

/-- The word of a code depends on its mnemonic and on its operands only. -/
theorem wordOf_congr {code code' : Text} (hmnemonic : (codeParts code).1 = (codeParts code').1)
    (hoperands : Token.split (codeParts code).2 = Token.split (codeParts code').2) (pc : Int)
    (labels : LabelTable) : t.wordOf code pc labels = t.wordOf code' pc labels := by
  simp only [wordOf, hmnemonic, hoperands]

theorem sameResult_lineOf (labels : LabelTable) (number pc : Nat) {text text' : Text}
    (h : (SourceLine.parse text).SameParts (SourceLine.parse text')) :
    (t.lineOf labels filename number text pc).value.SameResult
      (t.lineOf labels filename number text' pc).value := by
  have htakes : takesAddress text = true := decide_eq_true h.code_ne
  have htakes' : takesAddress text' = true := decide_eq_true h.code_ne'
  have hword := t.wordOf_congr h.mnemonic_eq h.operands_eq pc labels
  constructor
  · rw [status_value_lineOf, status_value_lineOf, htakes, htakes', hword, h.label_eq]
  · rw [pc_value_lineOf, pc_value_lineOf, htakes, htakes']
  · rw [label_value_lineOf, label_value_lineOf, h.label_eq]
  · rw [mnemonic_value_lineOf, mnemonic_value_lineOf, htakes, htakes', h.mnemonic_eq]
  · rw [word_value_lineOf, word_value_lineOf, htakes, htakes', hword]
  · rw [error_value_lineOf, error_value_lineOf, htakes, htakes', hword, if_pos rfl, if_pos rfl,
      Option.map_map, Option.map_map]
    rfl

/-- **The spacing of a line does not matter.**  A line with code may be written again with one blank
after its label, one after its first word and one after each comma, and with any comment: it has the
same label, mnemonic and operands.  Two sources that differ in such lines only have the same labels,
and line by line the same result. -/
theorem spacing_is_ignored {line tail : Text} (hfeed : .char '\n' ∉ line)
    (hne : (SourceLine.parse line).code ≠ []) (htail : SourceLine.IsTail tail) :
    let line' := SourceLine.respaced line tail
    (SourceLine.parse line).SameParts (SourceLine.parse line') ∧
      ∀ source source',
        List.Forall₂ (fun text text' => text = text' ∨ text = line ∧ text' = line')
          (sourceLines source) (sourceLines source') →
        let program := (t.assemble source filename).value
        let program' := (t.assemble source' filename).value
        program.labels = program'.labels ∧
          List.Forall₂ Line.SameResult program.lines program'.lines := by
  intro line'
  have hcode := SourceLine.trimmed_code line
  have hparse := SourceLine.parse_respaced hfeed hne htail
  have hparts : (SourceLine.parse line).SameParts (SourceLine.parse line') := by
    constructor
    · rw [hparse]
    · exact hne
    · rw [hparse]
      exact trim_respacedCode_ne_nil hcode hne
    · rw [hparse, codeParts_respacedCode hcode hne]
    · rw [hparse, split_respacedCode hcode hne]
  refine ⟨hparts, fun source source' h => ?_⟩
  apply forall₂_lines_assemble
  refine h.imp fun text text' htext => ?_
  rcases htext with rfl | ⟨rfl, rfl⟩
  · exact ⟨rfl, fun _ _ _ => ⟨rfl, rfl, rfl, rfl, rfl, rfl⟩⟩
  · exact ⟨hparts.outline_eq, fun labels number pc =>
      t.sameResult_lineOf filename labels number pc hparts⟩

/-- A branch with a label, tabs, a colon after its operand and a comment, before a line that
fails. -/
theorem spacing_is_ignored_in_branch :
    let t : RuleTable := ⟨[⟨"B", "C, O", .conditional, [⟨0, 16, .immediate "O"⟩]⟩]⟩
    let line : Text := "Top :\tB\tEq ,top: ;old"
    let line' : Text := "Top: B Eq, top:; new"
    let source : Text := "Top :\tB\tEq ,top: ;old\nB top"
    let source' : Text := "Top: B Eq, top:; new\nB top"
    let program := (t.assemble source "<input>").value
    let program' := (t.assemble source' "<input>").value
    SourceLine.respaced line "; new" = line' ∧
      program'.lines.map Line.word = [some 32767, none] ∧
      (SourceLine.parse line).SameParts (SourceLine.parse line') ∧
      program.labels = program'.labels ∧
      List.Forall₂ Line.SameResult program.lines program'.lines := by
  intro t line line' source source' program program'
  have hline : SourceLine.respaced line "; new" = line' := by decide +kernel
  have h := @spacing_is_ignored t "<input>" line "; new"
    (by decide +kernel) (by decide +kernel) (.inr ⟨" new", by decide +kernel⟩)
  rw [hline] at h
  have hlines : sourceLines source = [line, "B top"] := by decide +kernel
  have hlines' : sourceLines source' = [line', "B top"] := by decide +kernel
  have hdiffer := h.2 source source' <| by
    rw [hlines, hlines']
    exact .cons (.inr ⟨rfl, rfl⟩) (.cons (.inl rfl) .nil)
  exact ⟨hline, by decide +kernel, h.1, hdiffer⟩

end RuleTable

end GridAsm
