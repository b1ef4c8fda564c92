import GridAsm.Program
import GridAsm.Proofs.Label
import GridAsm.Proofs.Notice

/-!
# The two passes agree on addresses

The second pass reaches the line at `i` with the number of addresses that the lines before it take,
whatever became of those lines (`drop_value_linesFrom`).  The first pass counts the same lines, so
the address of a label is that of the next line with code.

An encoded line has the word that its mnemonic's rule gives to its operands, read with the labels of
the first pass at the line's own address (`exists_of_encoded`).
-/

namespace GridAsm

open Text

namespace RuleTable

variable (t : RuleTable) (labels : LabelTable) (filename : Text)

/-! ### One line -/

/-- A line without code has no instruction. -/
theorem value_lineOf_of_not_takesAddress {text : Text} (h : takesAddress text = false)
    (number pc : Nat) :
    (t.lineOf labels filename number text pc).value =
      ⟨number, text, (SourceLine.parse text).label, none⟩ := by
  have hc : (SourceLine.parse text).hasCode = false := h
  simp [lineOf, hc]

/-- A line with code has an instruction at the address it is given, encoded or not. -/
theorem value_lineOf_of_takesAddress {text : Text} (h : takesAddress text = true)
    (number pc : Nat) :
    (t.lineOf labels filename number text pc).value =
      ⟨number, text, (SourceLine.parse text).label,
        some ⟨pc, (codeParts (SourceLine.parse text).code).1,
          (codeParts (SourceLine.parse text).code).2,
          (t.resultOf labels filename number text (SourceLine.parse text).code pc).value⟩⟩ := by
  have hc : (SourceLine.parse text).hasCode = true := h
  simp [lineOf, hc]

@[simp] theorem pc_value_lineOf (number pc : Nat) (text : Text) :
    (t.lineOf labels filename number text pc).value.pc =
      if takesAddress text then some pc else none := by
  cases h : takesAddress text with
  | true => rw [value_lineOf_of_takesAddress t labels filename h]; rfl
  | false => rw [value_lineOf_of_not_takesAddress t labels filename h]; rfl

@[simp] theorem text_value_lineOf (number pc : Nat) (text : Text) :
    (t.lineOf labels filename number text pc).value.text = text := by
  cases h : takesAddress text with
  | true => rw [value_lineOf_of_takesAddress t labels filename h]
  | false => rw [value_lineOf_of_not_takesAddress t labels filename h]

@[simp] theorem number_value_lineOf (number pc : Nat) (text : Text) :
    (t.lineOf labels filename number text pc).value.number = number := by
  cases h : takesAddress text with
  | true => rw [value_lineOf_of_takesAddress t labels filename h]
  | false => rw [value_lineOf_of_not_takesAddress t labels filename h]

theorem value_resultOf (number pc : Nat) (text code : Text) :
    (t.resultOf labels filename number text code pc).value =
      (t.wordOf code pc labels).outcome.mapError fun fault =>
        ⟨fault, some ⟨filename, number, 0⟩, some (trim text)⟩ := by
  unfold resultOf
  rw [Logged.value_bind, Attempt.outcome]
  cases (t.wordOf code pc labels).run.value <;> rfl

theorem label_value_lineOf (number pc : Nat) (text : Text) :
    (t.lineOf labels filename number text pc).value.label = (SourceLine.parse text).label := by
  cases h : takesAddress text with
  | true => rw [value_lineOf_of_takesAddress t labels filename h]
  | false => rw [value_lineOf_of_not_takesAddress t labels filename h]

theorem mnemonic_value_lineOf (number pc : Nat) (text : Text) :
    (t.lineOf labels filename number text pc).value.mnemonic =
      if takesAddress text then (codeParts (SourceLine.parse text).code).1 else [] := by
  cases h : takesAddress text with
  | true => rw [value_lineOf_of_takesAddress t labels filename h]; rfl
  | false => rw [value_lineOf_of_not_takesAddress t labels filename h]; rfl

theorem operands_value_lineOf (number pc : Nat) (text : Text) :
    (t.lineOf labels filename number text pc).value.operands =
      if takesAddress text then (codeParts (SourceLine.parse text).code).2 else [] := by
  cases h : takesAddress text with
  | true => rw [value_lineOf_of_takesAddress t labels filename h]; rfl
  | false => rw [value_lineOf_of_not_takesAddress t labels filename h]; rfl

theorem word_value_lineOf (number pc : Nat) (text : Text) :
    (t.lineOf labels filename number text pc).value.word =
      if takesAddress text then (t.wordOf (SourceLine.parse text).code pc labels).outcome.toOption
      else none := by
  cases h : takesAddress text with
  | true =>
    rw [value_lineOf_of_takesAddress t labels filename h, value_resultOf]
    cases (t.wordOf (SourceLine.parse text).code pc labels).outcome <;> rfl
  | false => rw [value_lineOf_of_not_takesAddress t labels filename h]; rfl

theorem error_value_lineOf (number pc : Nat) (text : Text) :
    (t.lineOf labels filename number text pc).value.error =
      if takesAddress text then
        (t.wordOf (SourceLine.parse text).code pc labels).fault?.map fun fault =>
          ⟨fault, some ⟨filename, number, 0⟩, some (trim text)⟩
      else none := by
  cases h : takesAddress text with
  | true =>
    rw [value_lineOf_of_takesAddress t labels filename h, value_resultOf, Attempt.fault?]
    cases (t.wordOf (SourceLine.parse text).code pc labels).outcome <;> rfl
  | false => rw [value_lineOf_of_not_takesAddress t labels filename h]; rfl

/-- A line with code is encoded if its code has a word, and otherwise it fails. -/
theorem status_value_lineOf (number pc : Nat) (text : Text) :
    (t.lineOf labels filename number text pc).value.status =
      if takesAddress text then
        if (t.wordOf (SourceLine.parse text).code pc labels).outcome.isOk then .encoded else .failed
      else if (SourceLine.parse text).label.isSome then .labelOnly else .blank := by
  cases h : takesAddress text with
  | true =>
    rw [value_lineOf_of_takesAddress t labels filename h, value_resultOf]
    cases (t.wordOf (SourceLine.parse text).code pc labels).outcome <;> rfl
  | false => rw [value_lineOf_of_not_takesAddress t labels filename h]; rfl

/-! ### All lines -/

/-- The second pass takes an address for the same lines as the first. -/
theorem value_linesFrom_cons (number pc : Nat) (text : Text) (rest : List Text) :
    (t.linesFrom labels filename number pc (text :: rest)).value =
      (t.lineOf labels filename number text pc).value ::
        (t.linesFrom labels filename (number + 1)
          (pc + if takesAddress text then 1 else 0) rest).value := by
  have hpc : (t.lineOf labels filename number text pc).value.instruction.isSome =
      takesAddress text := by
    have h := congrArg Option.isSome (pc_value_lineOf t labels filename number pc text)
    rw [Line.pc, Option.isSome_map] at h
    rw [h]
    cases takesAddress text <;> rfl
  rw [linesFrom]
  simp only [Logged.value_bind, Logged.value_pure, hpc]
  cases takesAddress text <;> rfl

/-- What the second pass does from the line at `i` on: the number and the address have moved on by
the lines before it, and by the addresses that they take. -/
theorem drop_value_linesFrom (number pc i : Nat) (texts : List Text) :
    (t.linesFrom labels filename number pc texts).value.drop i =
      (t.linesFrom labels filename (number + i) (pc + slots (texts.take i))
        (texts.drop i)).value := by
  induction i generalizing number pc texts with
  | zero => simp
  | succ i ih =>
    cases texts with
    | nil => simp [linesFrom]
    | cons text rest =>
      rw [value_linesFrom_cons, List.drop_succ_cons, ih, List.take_succ_cons, slots_cons,
        List.drop_succ_cons, Nat.add_assoc, Nat.add_assoc, Nat.add_comm 1 i]

/-- The line at `i` is that of its text, at the address that the lines before it leave. -/
theorem getElem?_value_linesFrom (number pc i : Nat) (texts : List Text) :
    (t.linesFrom labels filename number pc texts).value[i]? =
      texts[i]?.map fun text =>
        (t.lineOf labels filename (number + i) text (pc + slots (texts.take i))).value := by
  rw [← List.head?_drop, drop_value_linesFrom, ← List.head?_drop]
  cases texts.drop i with
  | nil => simp [linesFrom]
  | cons text rest => simp [value_linesFrom_cons]

/-- The lines of a program are those of its source. -/
theorem map_text_value_linesFrom (number pc : Nat) (texts : List Text) :
    (t.linesFrom labels filename number pc texts).value.map Line.text = texts := by
  induction texts generalizing number pc with
  | nil => simp [linesFrom]
  | cons text rest ih => simp [value_linesFrom_cons, ih]

/-- As many lines have an address as take one. -/
theorem countP_pc_value_linesFrom (number pc : Nat) (texts : List Text) :
    (t.linesFrom labels filename number pc texts).value.countP (·.pc.isSome) = slots texts := by
  induction texts generalizing number pc with
  | nil => simp [linesFrom]
  | cons text rest ih =>
    rw [value_linesFrom_cons, List.countP_cons, ih, slots_cons, Nat.add_comm, pc_value_lineOf]
    cases takesAddress text <;> rfl

/-- The first address that the second pass gives is the one it starts with; if it gives none, it
starts with the one it ends with. -/
theorem findSome?_pc_value_linesFrom (number pc : Nat) (texts : List Text) :
    ((t.linesFrom labels filename number pc texts).value.findSome? Line.pc).getD
      (pc + slots texts) = pc := by
  induction texts generalizing number pc with
  | nil => simp [linesFrom]
  | cons text rest ih =>
    rw [value_linesFrom_cons, List.findSome?_cons, pc_value_lineOf, slots_cons]
    cases h : takesAddress text with
    | true => simp
    | false => simpa using ih (number + 1) pc

/-! ### Programs -/

theorem lines_assemble (source : Text) :
    (t.assemble source filename).value.lines =
      (t.linesFrom (t.assemble source filename).value.labels filename 1 0
        (sourceLines source)).value := rfl

theorem labels_assemble (source : Text) :
    (t.assemble source filename).value.labels = (LabelTable.ofLines (sourceLines source)).value := rfl

theorem length_lines_assemble (source : Text) :
    (t.assemble source filename).value.lines.length = (sourceLines source).length := by
  have h := map_text_value_linesFrom t (t.assemble source filename).value.labels filename 1 0
    (sourceLines source)
  rw [lines_assemble, ← List.length_map, h]

/-! ### Encoded lines -/

/-- A code has a word if its mnemonic has a rule that reads its operands. -/
theorem wordOf_gives_iff {code : Text} {pc word : Int} {ns : List Notice} :
    (t.wordOf code pc labels).Gives word ns ↔
      ∃ rule v, t.find? (codeParts code).1 = some rule ∧
        (Operands.parse rule (Token.split (codeParts code).2) labels pc).Gives v ns ∧
        word = rule.encode v := by
  simp only [wordOf]
  cases t.find? (codeParts code).1 with
  | none => simp
  | some rule => simp [Attempt.gives_map]

theorem value_resultOf_eq_ok_iff {number pc : Nat} {text code : Text} {word : Int} :
    (t.resultOf labels filename number text code pc).value = .ok word ↔
      (t.wordOf code pc labels).run.value = .ok word := by
  rw [value_resultOf, Attempt.outcome]
  cases (t.wordOf code pc labels).run.value with
  | ok w => simp [Except.mapError]
  | error fault => simp [Except.mapError]

/-- An encoded line has the word of its mnemonic's rule, with the operands read at its address. -/
theorem exists_of_encoded {source : Text} {line : Line}
    (hline : line ∈ (t.assemble source filename).value.lines) (hstatus : line.status = .encoded) :
    ∃ pc : Nat, ∃ rule v ns, line.pc = some pc ∧ t.find? line.mnemonic = some rule ∧
      (Operands.parse rule (Token.split line.operands)
        (t.assemble source filename).value.labels pc).Gives v ns ∧
      line.word = some (rule.encode v) := by
  obtain ⟨i, hi⟩ := List.mem_iff_getElem?.mp hline
  rw [lines_assemble, getElem?_value_linesFrom] at hi
  obtain ⟨text, -, rfl⟩ := Option.map_eq_some_iff.mp hi
  cases htakes : takesAddress text with
  | false =>
    rw [value_lineOf_of_not_takesAddress _ _ _ htakes, Line.status] at hstatus
    simp only at hstatus
    split_ifs at hstatus
  | true =>
    -- The word of an encoded line is the one that its code gave.
    rw [value_lineOf_of_takesAddress _ _ _ htakes] at hstatus ⊢
    simp only [Line.status] at hstatus
    split at hstatus
    · rename_i word hword
      have hrun := (value_resultOf_eq_ok_iff ..).mp hword
      obtain ⟨rule, v, hrule, hparse, rfl⟩ :=
        (wordOf_gives_iff ..).mp (Attempt.gives_iff.mpr ⟨hrun, rfl⟩)
      simp only [Line.pc, Line.mnemonic, Line.operands, Line.word, Option.map_some, Option.getD_some,
        Option.bind_some, hword]
      exact ⟨_, rule, v, _, rfl, hrule, hparse, rfl⟩
    · exact nomatch hstatus

/-- **The two passes agree.**  The labels of a program are the names that its lines define.  The
address of a label is the number of lines with code before its first definition, and it is the
address that the second pass gives to the first line from there on that has one; at the end of the
program it is the number of all addresses.  A line with code that defines a label first is at the
label's address, whether it is encoded or not. -/
theorem labels_agree_with_addresses (source name : Text) :
    let texts := sourceLines source
    let program := (t.assemble source filename).value
    program.lines.map Line.text = texts ∧
    (name ∈ program.labels.names ↔
      ∃ text ∈ texts, (SourceLine.parse text).label.map upper = some name) ∧
    ∀ i text, texts[i]? = some text → (SourceLine.parse text).label.map upper = some name →
      (∀ j < i, ∀ earlier, texts[j]? = some earlier →
        (SourceLine.parse earlier).label.map upper ≠ some name) →
      let address := (texts.take i).countP fun text => (SourceLine.parse text).code ≠ []
      program.labels.find? name = some (address : Int) ∧
      ((program.lines.drop i).findSome? Line.pc).getD (program.lines.countP (·.pc.isSome)) =
        address ∧
      ((SourceLine.parse text).code ≠ [] →
        ∃ line, program.lines[i]? = some line ∧ line.pc = some address ∧
          (line.status = .encoded ∨ line.status = .failed)) := by
  intro texts program
  refine ⟨map_text_value_linesFrom .., LabelTable.mem_names_ofLines texts name, ?_⟩
  intro i text hi hname hfirst address
  have haddress : address = slots (texts.take i) := rfl
  rw [haddress]
  refine ⟨?_, ?_, ?_⟩
  · refine LabelTable.find?_ofLines_of_first hi (defines_iff.mpr hname) fun j hj earlier he => ?_
    simpa [defines, SourceLine.labelName] using hfirst j hj earlier he
  · -- From `i` on the second pass starts with the address of the label.
    have htotal : slots texts = slots (texts.take i) + slots (texts.drop i) := by
      rw [slots, slots, slots, ← List.countP_append, List.take_append_drop]
    rw [lines_assemble, countP_pc_value_linesFrom, drop_value_linesFrom, htotal, Nat.zero_add]
    exact findSome?_pc_value_linesFrom ..
  · intro hcode
    have htakes : takesAddress text = true := decide_eq_true hcode
    refine ⟨_, by rw [lines_assemble, getElem?_value_linesFrom, hi, Option.map_some], ?_, ?_⟩
    · rw [pc_value_lineOf, htakes, Nat.zero_add]
      rfl
    · rw [value_lineOf_of_takesAddress _ _ _ htakes, Line.status]
      split
      · split <;> simp
      · contradiction

/-- A label on the second of two lines that cannot be encoded, defined again after them. -/
theorem labels_agree_on_failed_lines :
    let source : Text := "NOP ; first\nLoop: NOP\nloop:"
    let program := (({} : RuleTable).assemble source "<input>").value
    (SourceLine.parse "Loop: NOP").label.map upper = some "LOOP" ∧
    program.labels.find? "LOOP" = some 1 ∧
    ((program.lines.drop 1).findSome? Line.pc).getD (program.lines.countP (·.pc.isSome)) = 1 ∧
    ∃ line, program.lines[1]? = some line ∧ line.pc = some 1 ∧
      (line.status = .encoded ∨ line.status = .failed) := by
  intro source program
  have hfirst : ∀ j < 1, ∀ earlier, (sourceLines source)[j]? = some earlier →
      (SourceLine.parse earlier).label.map upper ≠ some (ofString "LOOP") := by
    intro j hj earlier he
    obtain rfl : j = 0 := by omega
    have h0 : (sourceLines source)[0]? = some (ofString "NOP ; first") := by decide +kernel
    obtain rfl := Option.some.inj (h0.symm.trans he)
    decide +kernel
  have h := (labels_agree_with_addresses {} "<input>" source "LOOP").2.2 1 "Loop: NOP"
    (by decide +kernel) (by decide +kernel) hfirst
  exact ⟨by decide +kernel, h.1, h.2.1, h.2.2 (by decide +kernel)⟩

end RuleTable

end GridAsm
