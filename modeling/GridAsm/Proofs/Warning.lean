import GridAsm.Proofs.Acceptance
import GridAsm.Proofs.Condition
import GridAsm.Proofs.Program

/-!
# Unknown conditions never pass silently

An assembly warns of nothing but conditions that are not known.  The label pass leaves no warning
(`LabelTable.warnings_addLines`).  Of the operands of a line only a condition leaves a notice, and
it does so before the displacement is read (`Operands.notices_parse`), so that a line warns whether
it is encoded or not (`warnings_lineOf`).  The warnings of a run are those of its lines in order
(`warnings_linesFrom`).
-/

namespace GridAsm

open Text

/-! ### Notices -/

namespace Operands

/-- Only a condition leaves notices when it is read. -/
theorem notices_read (ctx : Context) (v : Operands) (slot : Slot) (token : Text) :
    (read ctx v slot token).run.notices =
      if slot = .condition then (Token.condition token).notices else [] := by
  have hquiet : ∀ {α : Type} (x : Attempt LineFault α) (f : α → Operands),
      (x >>= fun a => pure (f a)).run.notices = x.run.notices := fun x f =>
    Attempt.notices_bind_of_quiet x fun _ => rfl
  cases slot with
  | condition => exact (hquiet _ _).trans (Attempt.notices_liftM _)
  | register | indirect | immediate | target | displacement =>
    exact (hquiet _ _).trans (Attempt.notices_liftExcept _)

theorem notices_readAll_of_no_condition (ctx : Context) (v : Operands) {slots : List Slot}
    (h : Slot.condition ∉ slots) (tokens : List Text) :
    (readAll ctx v slots tokens).run.notices = [] := by
  induction slots generalizing v tokens with
  | nil => rfl
  | cons slot slots ih =>
    rw [List.mem_cons, not_or] at h
    cases tokens with
    | nil => rfl
    | cons token tokens =>
      show (read ctx v slot token >>= fun v => readAll ctx v slots tokens).run.notices = []
      rw [Attempt.notices_bind_of_quiet _ fun v => ih v h.2 tokens, notices_read,
        if_neg (Ne.symm h.1)]

end Operands

/-! ### Lines with conditions -/

/-- The condition that a rule reads among tokens: the first of two, if the rule is that of a
conditional branch. -/
def Rule.condition? (rule : Rule) (tokens : List Text) : Option Text :=
  if rule.shape = .conditional ∧ tokens.length = 2 then tokens.head? else none

/-- The condition among the operands of a mnemonic, if its rule reads one. -/
def RuleTable.condition? (t : RuleTable) (mnemonic operands : Text) : Option Text :=
  (t.find? mnemonic).bind (·.condition? (Token.split operands))

/-- The warning that a condition is worth, if it is not known. -/
def Token.warning? (token : Text) : Option Notice :=
  if IsUnknown token then some (.unknownCondition (trim token)) else none

/-- The warning that a line is worth: that its condition is not known. -/
def Line.warning? (t : RuleTable) (line : Line) : Option Notice :=
  (t.condition? line.mnemonic line.operands).bind Token.warning?

theorem Rule.condition?_eq_some_iff {rule : Rule} {tokens : List Text} {first : Text} :
    rule.condition? tokens = some first ↔
      rule.shape = .conditional ∧ ∃ second, tokens = [first, second] := by
  unfold condition?
  split_ifs with h
  · obtain ⟨a, b, rfl⟩ := List.length_eq_two.mp h.2
    simp [h.1]
  · refine iff_of_false (by simp) ?_
    rintro ⟨hshape, second, rfl⟩
    exact h ⟨hshape, rfl⟩

theorem Shape.condition_not_mem_slots {shape : Shape} (h : shape ≠ .conditional) :
    Slot.condition ∉ shape.slots := by
  cases shape with
  | conditional => exact absurd rfl h
  | _ => decide

/-- Reading the operands of a line leaves the notices of its condition. -/
theorem Operands.notices_parse (rule : Rule) (tokens : List Text) (labels : LabelTable) (pc : Int) :
    (parse rule tokens labels pc).run.notices =
      (rule.condition? tokens).elim [] fun token => (Token.condition token).notices := by
  cases htoken : rule.condition? tokens with
  | some first =>
    obtain ⟨hshape, second, rfl⟩ := Rule.condition?_eq_some_iff.mp htoken
    rw [parse, hshape]
    show (read _ {} .condition first >>= fun v =>
      readAll _ v [.displacement] [second]).run.notices = _
    rw [Attempt.notices_bind_of_quiet _ fun v =>
      notices_readAll_of_no_condition _ v (by decide) [second], notices_read]
    rfl
  | none =>
    unfold parse
    split_ifs with hunsupported hlength
    · rfl
    · rfl
    · apply notices_readAll_of_no_condition
      apply Shape.condition_not_mem_slots
      intro hshape
      rw [not_not, hshape] at hlength
      obtain ⟨first, second, rfl⟩ := List.length_eq_two.mp hlength
      rw [Rule.condition?_eq_some_iff.mpr ⟨hshape, second, rfl⟩] at htoken
      cases htoken

/-! ### Warnings -/

/-- The label pass does not warn. -/
theorem LabelTable.warnings_addLines (table : LabelTable) (address : Int)
    (lines : List SourceLine) : (table.addLines address lines).warnings = [] := by
  induction lines generalizing table address with
  | nil => rfl
  | cons line rest ih =>
    have hline : (table.addLine address line).warnings = [] := by
      unfold addLine
      split
      · rfl
      · split <;> rfl
    unfold addLines
    rw [Logged.warnings_bind, hline, ih]
    rfl

namespace RuleTable

variable (t : RuleTable) (labels : LabelTable) (filename : Text)

theorem notices_wordOf (code : Text) (pc : Int) :
    (t.wordOf code pc labels).run.notices =
      (t.condition? (codeParts code).1 (codeParts code).2).elim [] fun token =>
        (Token.condition token).notices := by
  unfold wordOf condition?
  cases hrule : t.find? (codeParts code).1 with
  | none =>
    simp only [hrule]
    rfl
  | some rule =>
    simp only [hrule]
    exact (Attempt.notices_bind_of_quiet _ fun _ => rfl).trans (Operands.notices_parse ..)

theorem warnings_wordOf (code : Text) (pc : Int) :
    (t.wordOf code pc labels).run.warnings =
      ((t.condition? (codeParts code).1 (codeParts code).2).bind Token.warning?).toList := by
  rw [Logged.warnings, notices_wordOf]
  cases t.condition? (codeParts code).1 (codeParts code).2 with
  | none => rfl
  | some token =>
    show (Token.condition token).notices.filter Notice.isWarning = (Token.warning? token).toList
    rw [Token.notices_condition, Token.warning?]
    split_ifs <;> rfl

/-- A fault adds no warning to those of the code. -/
theorem warnings_resultOf (number pc : Nat) (text code : Text) :
    (t.resultOf labels filename number text code pc).warnings =
      (t.wordOf code pc labels).run.warnings := by
  unfold resultOf
  rw [Logged.warnings_bind]
  cases (t.wordOf code pc labels).run.value with
  | ok word => exact List.append_nil _
  | error fault => exact List.append_nil _

theorem condition?_nil (mnemonic : Text) : t.condition? mnemonic [] = none := by
  apply Option.bind_eq_none_iff.mpr
  intro rule _
  exact if_neg fun h => absurd h.2 (by decide)

/-- A line warns of its condition if that is not known, whether it is encoded or not. -/
theorem warnings_lineOf (number pc : Nat) (text : Text) :
    (t.lineOf labels filename number text pc).warnings =
      ((t.lineOf labels filename number text pc).value.warning? t).toList := by
  unfold Line.warning?
  rw [mnemonic_value_lineOf, operands_value_lineOf]
  cases htakes : takesAddress text with
  | false =>
    have hcode : (SourceLine.parse text).hasCode = false := htakes
    have hquiet : (t.lineOf labels filename number text pc).warnings = [] := by
      simp [lineOf, hcode, Logged.warnings]
    rw [hquiet, if_neg Bool.false_ne_true, if_neg Bool.false_ne_true, condition?_nil]
    rfl
  | true =>
    have hcode : (SourceLine.parse text).hasCode = true := htakes
    have hresult : (t.lineOf labels filename number text pc).warnings =
        (t.resultOf labels filename number text (SourceLine.parse text).code pc).warnings := by
      simp [lineOf, hcode, Logged.warnings]
    rw [hresult, if_pos rfl, if_pos rfl, warnings_resultOf, warnings_wordOf]

/-- The warnings of the second pass are those of its lines, in order. -/
theorem warnings_linesFrom (number pc : Nat) (texts : List Text) :
    (t.linesFrom labels filename number pc texts).warnings =
      (t.linesFrom labels filename number pc texts).value.filterMap (Line.warning? t) := by
  induction texts generalizing number pc with
  | nil => rfl
  | cons text rest ih =>
    unfold linesFrom
    rw [Logged.warnings_bind, warnings_lineOf, Logged.warnings_bind, ih]
    simp only [Logged.value_bind, Logged.value_pure, List.filterMap_cons]
    cases (t.lineOf labels filename number text pc).value.warning? t with
    | none => exact List.append_nil _
    | some notice => exact congrArg (notice :: ·) (List.append_nil _)

theorem warnings_assemble (source : Text) :
    (t.assemble source filename).warnings =
      (t.assemble source filename).value.lines.filterMap (Line.warning? t) := by
  have hlabels : (LabelTable.ofLines (sourceLines source)).warnings = [] :=
    LabelTable.warnings_addLines ..
  rw [lines_assemble, labels_assemble, ← warnings_linesFrom]
  unfold assemble
  rw [Logged.warnings_bind, hlabels, Logged.warnings_bind, Logged.warnings_bind]
  exact List.append_nil _

theorem warning?_eq_some_iff {line : Line} {notice : Notice} :
    line.warning? t = some notice ↔ ∃ rule first second, t.find? line.mnemonic = some rule ∧
      rule.shape = .conditional ∧ Token.split line.operands = [first, second] ∧
      Token.IsUnknown first ∧ notice = .unknownCondition (trim first) := by
  have htoken : ∀ first, Token.warning? first = some notice ↔
      Token.IsUnknown first ∧ notice = .unknownCondition (trim first) := by
    intro first
    rw [Token.warning?]
    split_ifs with h
    · simp [h, eq_comm]
    · simp [h]
  simp only [Line.warning?, condition?, Option.bind_eq_some_iff, Rule.condition?_eq_some_iff,
    htoken]
  constructor
  · rintro ⟨first, ⟨rule, hrule, hshape, second, htokens⟩, hunknown⟩
    exact ⟨rule, first, second, hrule, hshape, htokens, hunknown⟩
  · rintro ⟨rule, first, second, hrule, hshape, htokens, hunknown⟩
    exact ⟨first, ⟨rule, hrule, hshape, second, htokens⟩, hunknown⟩

/-- **Unknown conditions never pass silently.**  The warnings of an assembly are those of its lines,
in order.  A line has one, whether it is encoded or not, if its rule is that of a conditional
branch, it has two operands and the first of them is no condition, and else it has none.  Such a
condition counts as zero.  All others have a code of three bits, and one that is a literal has the
low three bits of its number. -/
theorem unknown_conditions_are_reported (source : Text) :
    let run := t.assemble source filename
    run.warnings = run.value.lines.filterMap (Line.warning? t) ∧
    ∀ line ∈ run.value.lines,
      (∀ notice, line.warning? t = some notice ↔
        ∃ rule first second, t.find? line.mnemonic = some rule ∧ rule.shape = .conditional ∧
          Token.split line.operands = [first, second] ∧ Token.IsUnknown first ∧
          notice = .unknownCondition (trim first)) ∧
      ∀ rule first second, t.find? line.mnemonic = some rule → rule.shape = .conditional →
        Token.split line.operands = [first, second] →
        let code := (Token.condition first).value
        (∀ (pc : Nat) v, line.pc = some pc →
          (Operands.parse rule [first, second] run.value.labels pc).outcome = .ok v →
          v.cond = code) ∧
        (Token.IsUnknown first → code = 0) ∧
        (¬ Token.IsUnknown first → code ≤ 7 ∧
          ∀ n, Literal.parse? first = some n → (code : Int) = n % 8) := by
  intro run
  refine ⟨t.warnings_assemble filename source, fun line _ => ⟨fun notice => ?_, ?_⟩⟩
  · exact warning?_eq_some_iff t
  intro rule first second _ hshape _ code
  refine ⟨fun pc v _ hparse => ?_, fun hunknown => ?_, fun hknown => ⟨?_, fun n hn => ?_⟩⟩
  · have hread := Operands.outcome_parse_eq_ok_iff.mp hparse
    rw [hshape] at hread
    cases hread
    rfl
  · show (Token.condition first).value = 0
    rw [Token.condition_of_isUnknown hunknown]
  · exact Nat.le_of_lt_succ (Token.condition_lt first)
  · obtain ⟨k, hk, hcondition⟩ := Token.exists_isCondition_of_not_isUnknown hknown
    show ((Token.condition first).value : Int) = n % 8
    rw [hcondition]
    exact Token.eq_emod_of_isLiteral ((Token.conditionCode?_eq_some_iff (upper_upper _)).mpr hk)
      (Literal.parse?_eq_some_iff.mp hn)

/-- Two of five lines have conditions that are not known, and one of these two is encoded. -/
theorem unknown_conditions_are_reported_of_five_lines :
    let rule : Rule := ⟨"B", "cond, O", .conditional, [⟨0, 16, .condition⟩]⟩
    let t : RuleTable := ⟨[rule]⟩
    let source : Text := "B 0x1\uFB00, 1\nB +5, 1\nB 0b1_1, top\nB\tmi , 2\nB never"
    let run := t.assemble source "<input>"
    run.value.lines.map Line.word = [some 7, some 0, none, some 7, none] ∧
      run.warnings = [.unknownCondition "+5", .unknownCondition "0b1_1"] ∧
      (Literal.parse? "+5" = some 5 ∧ (Token.condition "+5").value = 0) ∧
      (¬ Token.IsUnknown "0x1\uFB00" ∧ (Token.condition "0x1\uFB00").value ≤ 7) := by
  intro rule t source run
  have hwords : run.value.lines.map Line.word = [some 7, some 0, none, some 7, none] := by
    decide +kernel
  have hwarned : run.value.lines.filterMap (Line.warning? t) =
      [.unknownCondition "+5", .unknownCondition "0b1_1"] := by decide +kernel
  have hoperands : ((run.value.lines.take 2).map fun line =>
      (t.find? line.mnemonic, Token.split line.operands)) =
        [(some rule, ["0x1\uFB00", "1"].map ofString), (some rule, ["+5", "1"].map ofString)] := by
    decide +kernel
  have htokens : Literal.parse? "+5" = some 5 ∧ Token.IsUnknown "+5" ∧
      ¬ Token.IsUnknown "0x1\uFB00" := by decide +kernel
  obtain ⟨hliteral, hunknown, hknown⟩ := htokens
  obtain ⟨hwarnings, hlines⟩ := unknown_conditions_are_reported t "<input>" source
  obtain ⟨first, rest, hcons, hfirst, hrest⟩ := List.map_eq_cons_iff.mp hoperands
  obtain ⟨second, others, rfl, hsecond, -⟩ := List.map_eq_cons_iff.mp hrest
  have hmem : ∀ line ∈ first :: second :: others, line ∈ run.value.lines := by
    intro line hline
    rw [← hcons] at hline
    exact List.mem_of_mem_take hline
  obtain ⟨hrule, htwo⟩ := Prod.mk.inj hfirst
  obtain ⟨hrule', htwo'⟩ := Prod.mk.inj hsecond
  have hseven := (hlines first (hmem first (by simp))).2 rule _ _ hrule rfl htwo
  have hzero := (hlines second (hmem second (by simp))).2 rule _ _ hrule' rfl htwo'
  exact ⟨hwords, hwarnings.trans hwarned, ⟨hliteral, hzero.2.1 hunknown⟩, hknown,
    (hseven.2.2 hknown).1⟩

end RuleTable

end GridAsm
