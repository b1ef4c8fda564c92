import GridAsm.Proofs.Acceptance
import GridAsm.Proofs.Branch

/-!
# Relocation

Lines without labels put before a source move everything in it by the addresses that they take: the
label pass moves every address (`ofLines_append`), and the second pass every line.  An operand is
read again as it was, but for a label where its address is taken: that is larger by the same amount
(`Operands.outcome_parse_shift`).  The distance to a label stays what it was, since both of its ends
have moved.
-/

namespace GridAsm

open Text

/-! ### Labels -/

namespace LabelTable

/-- The table with all addresses moved. -/
def shift (k : Int) (t : LabelTable) : LabelTable :=
  ⟨t.entries.map fun (name, address) => (name, address + k)⟩

variable (k : Int) (t : LabelTable)

theorem find?_shift (name : Text) : (t.shift k).find? name = (t.find? name).map (· + k) := by
  obtain ⟨entries⟩ := t
  unfold find? shift
  induction entries with
  | nil => rfl
  | cons entry rest ih =>
    obtain ⟨n, a⟩ := entry
    simp only [List.map_cons, List.lookup_cons]
    cases name == n with
    | true => rfl
    | false => exact ih

theorem names_shift : (t.shift k).names = t.names := by
  rw [names, shift, List.map_map]
  rfl

theorem define_shift (name : Text) (address : Int) :
    (t.shift k).define name (address + k) = (t.define name address).shift k := by
  rw [define, define, find?_shift]
  cases t.find? name with
  | some kept => rfl
  | none => simp [shift]

theorem value_addLine_shift (address : Int) (line : SourceLine) :
    ((t.shift k).addLine (address + k) line).value = (t.addLine address line).value.shift k := by
  unfold addLine
  cases line.labelName with
  | none => rfl
  | some name =>
    simp only [find?_shift]
    cases t.find? name with
    | some kept => rfl
    | none => exact define_shift k t name address

/-- Lines that start at a later address give the same names, each at a later address. -/
theorem value_addLines_shift (address : Int) (lines : List SourceLine) :
    ((t.shift k).addLines (address + k) lines).value =
      (t.addLines address lines).value.shift k := by
  induction lines generalizing t address with
  | nil => rfl
  | cons line rest ih =>
    have hnext : (if line.hasCode then address + k + 1 else address + k) =
        (if line.hasCode then address + 1 else address) + k := by
      split <;> omega
    rw [addLines, addLines, Logged.value_bind, Logged.value_bind, value_addLine_shift, hnext]
    exact ih _ _

/-- Lines without labels only move the address on. -/
theorem value_addLines_append {before : List Text}
    (h : ∀ text ∈ before, (SourceLine.parse text).label = none) (address : Int)
    (texts : List Text) :
    (t.addLines address ((before ++ texts).map SourceLine.parse)).value =
      (t.addLines (address + slots before) (texts.map SourceLine.parse)).value := by
  induction before generalizing address with
  | nil => simp
  | cons text rest ih =>
    rw [List.forall_mem_cons] at h
    have hline : t.addLine address (SourceLine.parse text) = pure t := by
      rw [addLine, SourceLine.labelName, h.1]
      rfl
    have hnext : (if (SourceLine.parse text).hasCode then address + 1 else address) =
        address + (if takesAddress text then 1 else 0 : Nat) := by
      rw [takesAddress]
      split <;> simp
    rw [List.cons_append, List.map_cons, addLines, Logged.value_bind, hline, Logged.value_pure,
      ih h.2, hnext, slots_cons, Int.add_assoc, ← Int.natCast_add]

theorem ofLines_append {before : List Text}
    (h : ∀ text ∈ before, (SourceLine.parse text).label = none) (texts : List Text) :
    (ofLines (before ++ texts)).value = (ofLines texts).value.shift (slots before) := by
  rw [ofLines, ofLines, value_addLines_append _ h, ← value_addLines_shift]
  rfl

end LabelTable

/-! ### Operands -/

namespace Token

/-- A value after its label has moved: that of a number stays. -/
def moved (k : Int) (token : Text) (n : Int) : Int :=
  if Literal.parse? token = none then n + k else n

variable {labels : LabelTable} {token : Text} (k : Int)

theorem IsValue.shift {n : Int} (h : IsValue labels token n) :
    IsValue (labels.shift k) token (moved k token n) := by
  rw [moved]
  rcases h with hliteral | ⟨hnone, hlabel⟩
  · rw [if_neg (by simp [hliteral])]
    exact .inl hliteral
  · rw [if_pos hnone]
    exact .inr ⟨hnone, by rw [LabelTable.find?_shift, hlabel]; rfl⟩

theorem forall_not_isValue_shift_iff :
    (∀ n, ¬ IsValue (labels.shift k) token n) ↔ ∀ n, ¬ IsValue labels token n := by
  constructor
  · intro h n hn
    exact h _ (hn.shift k)
  · rintro h n (hliteral | ⟨hnone, hlabel⟩)
    · exact h n (.inl hliteral)
    · rw [LabelTable.find?_shift] at hlabel
      obtain ⟨a, ha, -⟩ := Option.map_eq_some_iff.mp hlabel
      exact h a (.inr ⟨hnone, ha⟩)

theorem unresolved_shift : unresolved (labels.shift k) token = unresolved labels token := by
  rw [unresolved, unresolved, LabelTable.names_shift]

theorem IsDisplacement.shift {pc o : Int} (h : IsDisplacement labels pc token o) :
    IsDisplacement (labels.shift k) (pc + k) token o := by
  rcases h with hliteral | ⟨hnone, a, hlabel, rfl⟩
  · exact .inl hliteral
  · refine .inr ⟨hnone, a + k, ?_, by omega⟩
    rw [LabelTable.find?_shift, hlabel]
    rfl

end Token

namespace Operands

variable {rule : Rule} {labels : LabelTable} {pc : Int} {tokens : List Text} (k : Int)

/-- The values of a shape's operands after the labels have moved. -/
def moved (k : Int) : Shape → List Text → Operands → Operands
  | .registerImmediate, [_, b], v => { v with y := Token.moved k b v.y }
  | .absolute, [a], v => { v with p := Token.moved k a v.p }
  | _, _, v => v

theorem ReadAs.shift {shape : Shape} {v : Operands} (h : ReadAs labels pc shape tokens v) :
    ReadAs (labels.shift k) (pc + k) shape tokens (moved k shape tokens v) := by
  cases h with
  | threeRegisters ha hb hc => exact .threeRegisters ha hb hc
  | twoRegisters ha hb => exact .twoRegisters ha hb
  | registerImmediate ha hb => exact .registerImmediate ha (hb.shift k)
  | registerIndirect ha hb => exact .registerIndirect ha hb
  | indirectRegister ha hb => exact .indirectRegister ha hb
  | absolute ha => exact .absolute (ha.shift k)
  | conditional hb => exact .conditional (hb.shift k)

/-- What does not fit a slot does not fit it after the labels have moved, for the same reason. -/
theorem offends_shift_iff {slot : Slot} {token : Text} {fault : LineFault} :
    slot.Offends (contextOf rule (labels.shift k) (pc + k)) token fault ↔
      slot.Offends (contextOf rule labels pc) token fault := by
  have hcongr : ∀ {labels labels' : LabelTable} {pc pc' : Int},
      ((∀ n, ¬ Token.IsValue labels token n) → ∀ n, ¬ Token.IsValue labels' token n) →
      Token.unresolved labels' token = Token.unresolved labels token →
      slot.Offends (contextOf rule labels pc) token fault →
      slot.Offends (contextOf rule labels' pc') token fault := by
    intro labels labels' pc pc' hvalue hfault h
    cases h with
    | register h => exact .register h
    | unbracketed h => exact .unbracketed h
    | brokenBrackets hinner h => exact .brokenBrackets hinner h
    | bracketed hinner hwhole h => exact .bracketed hinner hwhole h
    | value hslot h =>
      change slot.Offends _ token (Token.unresolved labels token)
      rw [← hfault]
      exact .value hslot (hvalue h)
  exact ⟨hcongr (Token.forall_not_isValue_shift_iff k).mp (Token.unresolved_shift k).symm,
    hcongr (Token.forall_not_isValue_shift_iff k).mpr (Token.unresolved_shift k)⟩

/-- Operands are read again after everything has moved: with the same fault, or with the same values
but for the addresses of labels. -/
theorem outcome_parse_shift :
    (parse rule tokens (labels.shift k) (pc + k)).outcome =
      (parse rule tokens labels pc).outcome.map (moved k rule.shape tokens) := by
  cases h : (parse rule tokens labels pc).outcome with
  | ok v =>
    rw [outcome_parse_eq_ok_iff] at h
    exact outcome_parse_eq_ok_iff.mpr (h.shift k)
  | error fault =>
    change _ = Except.error fault
    by_cases hfits : rule.shape ≠ .unsupported ∧ tokens.length = rule.shape.arity
    · rw [outcome_parse_eq_error_iff hfits.1 hfits.2] at h ⊢
      simpa only [FirstOffence, offends_shift_iff] using h
    · obtain ⟨misfit, expected, hmisfit⟩ := exists_outcome_parse_of_misfit
        ((not_and_or.mp hfits).imp_left not_not.mp)
      rw [hmisfit] at h ⊢
      exact h

/-- The value of an operand is taken, and the operand is no number. -/
def TakesLabel (shape : Shape) (tokens : List Text) : Prop :=
  shape ∈ [.registerImmediate, .absolute] ∧
    ∃ token, tokens.getLast? = some token ∧ Literal.parse? token = none

theorem moved_eq_self {shape : Shape} (h : ¬ TakesLabel shape tokens) (v : Operands) :
    moved k shape tokens v = v := by
  have hliteral : ∀ token, shape ∈ [.registerImmediate, .absolute] →
      tokens.getLast? = some token → Literal.parse? token ≠ none :=
    fun token hshape hlast hnone => h ⟨hshape, token, hlast, hnone⟩
  unfold moved
  split
  · rename_i _ a b
    rw [Token.moved, if_neg (hliteral b (by simp) rfl)]
  · rename_i _ a
    rw [Token.moved, if_neg (hliteral a (by simp) rfl)]
  · rfl

/-- A label's address that is taken as a value is `k` larger. -/
theorem ReadAs.moved_of_takesLabel {shape : Shape} {v : Operands}
    (hv : ReadAs labels pc shape tokens v) (h : TakesLabel shape tokens) :
    (shape = .registerImmediate → moved k shape tokens v = { v with y := v.y + k }) ∧
      (shape = .absolute → moved k shape tokens v = { v with p := v.p + k }) := by
  obtain ⟨hshape, token, hlast, hnone⟩ := h
  cases hv with
  | registerImmediate ha hb =>
    obtain rfl := Option.some.inj hlast
    refine ⟨fun _ => ?_, nofun⟩
    exact congrArg (fun n => { rd := _, y := n : Operands }) (if_pos hnone)
  | absolute ha =>
    obtain rfl := Option.some.inj hlast
    refine ⟨nofun, fun _ => ?_⟩
    exact congrArg (fun n => { p := n : Operands }) (if_pos hnone)
  | _ => exact absurd hshape (by simp)

end Operands

/-- The low eleven bits of a jump are those of its target. -/
theorem Rule.encode_jump_emod {r : Rule} (h : Form.ofMnemonic r.mnemonic = .jump) (v : Operands) :
    r.encode v % 2 ^ 11 = v.p % 2 ^ 11 := by
  rw [encode_jump h]
  omega

/-- The rule that a table has for the mnemonic of a jump makes jumps. -/
theorem RuleTable.ofMnemonic_eq_jump {t : RuleTable} {name : Text} {rule : Rule}
    (hrule : t.find? name = some rule) (hname : name ∈ ["JZ", "JC", "JMP"].map ofString) :
    Form.ofMnemonic rule.mnemonic = .jump := by
  rw [mnemonic_of_find? hrule]
  simp only [List.map_cons, List.map_nil, List.mem_cons, List.not_mem_nil, or_false] at hname
  rcases hname with rfl | rfl | rfl <;> decide +kernel

/-! ### Lines -/

/-- A line is another one, `k` addresses later. -/
structure Line.MovedBy (k : Nat) (line line' : Line) : Prop where
  text : line'.text = line.text
  status : line'.status = line.status
  label : line'.label = line.label
  mnemonic : line'.mnemonic = line.mnemonic
  operands : line'.operands = line.operands
  pc : line'.pc = line.pc.map (· + k)

namespace RuleTable

variable (t : RuleTable) (labels : LabelTable) (filename : Text) (k : Nat)

theorem outcome_wordOf_shift {code : Text} {rule : Rule}
    (h : t.find? (codeParts code).1 = some rule) (pc : Int) :
    (t.wordOf code (pc + k) (labels.shift k)).outcome =
      (Operands.parse rule (Token.split (codeParts code).2) labels pc).outcome.map fun v =>
        rule.encode (Operands.moved k rule.shape (Token.split (codeParts code).2) v) := by
  rw [outcome_wordOf_of_some h, Operands.outcome_parse_shift]
  cases (Operands.parse rule (Token.split (codeParts code).2) labels pc).outcome <;> rfl

theorem isOk_outcome_wordOf_shift (code : Text) (pc : Int) :
    (t.wordOf code (pc + k) (labels.shift k)).outcome.isOk =
      (t.wordOf code pc labels).outcome.isOk := by
  cases hrule : t.find? (codeParts code).1 with
  | none => rw [outcome_wordOf_of_none hrule, outcome_wordOf_of_none hrule]
  | some rule =>
    rw [outcome_wordOf_shift t labels k hrule, outcome_wordOf_of_some hrule]
    cases (Operands.parse rule (Token.split (codeParts code).2) labels pc).outcome <;> rfl

theorem movedBy_lineOf (number number' pc : Nat) (text : Text) :
    (t.lineOf labels filename number text pc).value.MovedBy k
      (t.lineOf (labels.shift k) filename number' text (pc + k)).value where
  text := by rw [text_value_lineOf, text_value_lineOf]
  status := by
    rw [status_value_lineOf, status_value_lineOf, Int.natCast_add, isOk_outcome_wordOf_shift]
  label := by rw [label_value_lineOf, label_value_lineOf]
  mnemonic := by rw [mnemonic_value_lineOf, mnemonic_value_lineOf]
  operands := by rw [operands_value_lineOf, operands_value_lineOf]
  pc := by
    rw [pc_value_lineOf, pc_value_lineOf]
    split <;> rfl

section

variable {text : Text} {rule : Rule} {number number' pc : Nat} {line line' : Line}
  (hline : line = (t.lineOf labels filename number text pc).value)
  (hline' : line' = (t.lineOf (labels.shift k) filename number' text (pc + k)).value)
  (hrule : t.find? line.mnemonic = some rule)

include hline hline' hrule

theorem word_eq_of_not_takesLabel
    (h : ¬ Operands.TakesLabel rule.shape (Token.split line.operands)) :
    line'.word = line.word := by
  subst hline hline'
  rw [mnemonic_value_lineOf] at hrule
  rw [operands_value_lineOf] at h
  rw [word_value_lineOf, word_value_lineOf]
  by_cases htakes : takesAddress text = true
  · rw [if_pos htakes] at hrule h
    rw [if_pos htakes, if_pos htakes, Int.natCast_add, outcome_wordOf_shift t labels k hrule,
      outcome_wordOf_of_some hrule]
    simp only [Operands.moved_eq_self k h]
  · rw [if_neg htakes, if_neg htakes]

theorem exists_values_of_encoded (hstatus : line.status = .encoded) :
    ∃ v, line.pc = some pc ∧ Operands.ReadAs labels pc rule.shape (Token.split line.operands) v ∧
      line.word = some (rule.encode v) ∧
      line'.word = some (rule.encode
        (Operands.moved k rule.shape (Token.split line.operands) v)) := by
  subst hline hline'
  rw [mnemonic_value_lineOf] at hrule
  rw [status_value_lineOf] at hstatus
  rw [operands_value_lineOf, word_value_lineOf, word_value_lineOf, pc_value_lineOf]
  by_cases htakes : takesAddress text = true
  · rw [if_pos htakes] at hrule
    rw [if_pos htakes, outcome_wordOf_of_some hrule] at hstatus
    rw [if_pos htakes, if_pos htakes, if_pos htakes, if_pos htakes, Int.natCast_add,
      outcome_wordOf_shift t labels k hrule, outcome_wordOf_of_some hrule]
    cases hparse : (Operands.parse rule (Token.split (codeParts (SourceLine.parse text).code).2)
        labels pc).outcome with
    | ok v => exact ⟨v, rfl, Operands.outcome_parse_eq_ok_iff.mp hparse, rfl, rfl⟩
    | error fault =>
      rw [hparse] at hstatus
      exact nomatch hstatus
  · rw [if_neg htakes] at hstatus
    split_ifs at hstatus

end

section

variable {source source' : Text} {before : List Text}
  (hsource : sourceLines source' = before ++ sourceLines source)
  (hbefore : ∀ text ∈ before, (SourceLine.parse text).label = none)

include hsource hbefore

theorem labels_assemble_append :
    (t.assemble source' filename).value.labels =
      (t.assemble source filename).value.labels.shift (slots before) := by
  change (LabelTable.ofLines (sourceLines source')).value = _
  rw [hsource]
  exact LabelTable.ofLines_append hbefore _

/-- The second pass reaches a line with the addresses of the lines before the source on top. -/
theorem exists_lineOf_assemble_append {i : Nat} {line : Line}
    (hi : (t.assemble source filename).value.lines[i]? = some line) :
    ∃ text number number' pc line',
      line = (t.lineOf (t.assemble source filename).value.labels filename number text pc).value ∧
      line' = (t.lineOf ((t.assemble source filename).value.labels.shift (slots before)) filename
        number' text (pc + slots before)).value ∧
      (t.assemble source' filename).value.lines[before.length + i]? = some line' := by
  rw [lines_assemble, getElem?_value_linesFrom] at hi
  obtain ⟨text, htext, hline⟩ := Option.map_eq_some_iff.mp hi
  have hslots : slots ((before ++ sourceLines source).take (before.length + i)) =
      slots ((sourceLines source).take i) + slots before := by
    rw [List.take_length_add_append, slots, List.countP_append, Nat.add_comm]
    rfl
  refine ⟨text, 1 + i, 1 + (before.length + i), 0 + slots ((sourceLines source).take i), _,
    hline.symm, rfl, ?_⟩
  rw [lines_assemble, labels_assemble_append t filename hsource hbefore, getElem?_value_linesFrom,
    hsource, hslots, List.getElem?_append_right (Nat.le_add_right ..), Nat.add_sub_cancel_left,
    htext, Option.map_some, Nat.add_assoc]

end

/-- **Relocation.**  Lines without labels before a source move its labels and its lines by the
addresses that they take, and nothing about a line changes but its word.  The word stays unless its
rule takes the value of an operand that is a label; then that value is larger by as many addresses,
and so are the low eleven bits of a jump. -/
theorem relocation {source source' : Text} {before : List Text}
    (hsource : sourceLines source' = before ++ sourceLines source)
    (hbefore : ∀ text ∈ before, (SourceLine.parse text).label = none) :
    let k := before.countP fun text => (SourceLine.parse text).code ≠ []
    let program := (t.assemble source filename).value
    let program' := (t.assemble source' filename).value
    program'.labels.entries = program.labels.entries.map (fun (name, a) => (name, a + (k : Int))) ∧
    program'.lines.length = before.length + program.lines.length ∧
    ∀ i line, program.lines[i]? = some line → ∃ line',
      program'.lines[before.length + i]? = some line' ∧ line.MovedBy k line' ∧
      ∀ rule, t.find? line.mnemonic = some rule →
        let tokens := Token.split line.operands
        (¬ Operands.TakesLabel rule.shape tokens → line'.word = line.word) ∧
        (Operands.TakesLabel rule.shape tokens → line.status = .encoded →
          ∃ (p : Nat) (v v' : Operands), line.pc = some p ∧
            Operands.ReadAs program.labels p rule.shape tokens v ∧
            Operands.ReadAs program'.labels (p + k) rule.shape tokens v' ∧
            line.word = some (rule.encode v) ∧ line'.word = some (rule.encode v') ∧
            (rule.shape = .registerImmediate → v' = { v with y := v.y + k }) ∧
            (rule.shape = .absolute → v' = { v with p := v.p + k } ∧
              (line.mnemonic ∈ ["JZ", "JC", "JMP"].map ofString →
                rule.encode v' % 2048 = (rule.encode v % 2048 + k) % 2048))) := by
  intro k program program'
  have hlabels : program'.labels = program.labels.shift k :=
    labels_assemble_append t filename hsource hbefore
  refine ⟨by rw [hlabels]; rfl, ?_, ?_⟩
  · rw [length_lines_assemble, length_lines_assemble, hsource, List.length_append]
  · intro i line hi
    obtain ⟨text, number, number', pc, line', hline, hline', hi'⟩ :=
      exists_lineOf_assemble_append t filename hsource hbefore hi
    refine ⟨line', hi', ?_, ?_⟩
    · rw [hline, hline']
      exact movedBy_lineOf ..
    intro rule hrule tokens
    refine ⟨fun h => ?_, fun h hstatus => ?_⟩
    · exact word_eq_of_not_takesLabel t _ filename _ hline hline' hrule h
    · obtain ⟨v, hpc, hv, hword, hword'⟩ :=
        exists_values_of_encoded t _ filename _ hline hline' hrule hstatus
      obtain ⟨himmediate, habsolute⟩ := hv.moved_of_takesLabel (k : Int) h
      refine ⟨pc, v, Operands.moved k rule.shape tokens v, hpc, hv, ?_, hword, hword', himmediate,
        fun hshape => ⟨habsolute hshape, ?_⟩⟩
      · rw [hlabels]
        exact hv.shift k
      · intro hjump
        have hform := ofMnemonic_eq_jump hrule hjump
        have hlow := Rule.encode_jump_emod hform v
        have hlow' : rule.encode { v with p := v.p + k } % 2 ^ 11 = (v.p + k) % 2 ^ 11 :=
          Rule.encode_jump_emod hform _
        rw [habsolute hshape]
        omega

/-- A jump to its own line, behind a line that takes an address and two that do not. -/
theorem relocation_of_jump :
    let t : RuleTable := ⟨[⟨"JMP", "P", .absolute, [⟨0, 16, .immediate "P"⟩]⟩]⟩
    let program := (t.assemble "NOP\nloop: JMP loop" "<input>").value
    let program' := (t.assemble "x y\n\n; z\nNOP\nloop: JMP loop" "<input>").value
    program'.labels.entries = program.labels.entries.map (fun (name, a) => (name, a + 1)) ∧
      ∃ line line' word word', program.lines[1]? = some line ∧ program'.lines[3 + 1]? = some line' ∧
        line'.pc = some 2 ∧ line.word = some word ∧ line'.word = some word' ∧
        word' % 2048 = (word % 2048 + 1) % 2048 := by
  intro t program program'
  have hsource : sourceLines "x y\n\n; z\nNOP\nloop: JMP loop" =
      ["x y", "", "; z"].map ofString ++ sourceLines "NOP\nloop: JMP loop" := by decide +kernel
  have hbefore : ∀ text ∈ ["x y", "", "; z"].map ofString,
      (SourceLine.parse text).label = none := by decide +kernel
  have hk : (["x y", "", "; z"].map ofString).countP
      (fun text => (SourceLine.parse text).code ≠ []) = 1 := by decide +kernel
  obtain ⟨hlabels, -, hlines⟩ := relocation t "<input>" hsource hbefore
  rw [hk] at hlabels hlines
  have hfacts : program.lines[1]?.map (fun line =>
      (line.status, line.mnemonic, line.pc, Token.split line.operands)) =
        some (.encoded, ofString "JMP", some 1, ["loop"].map ofString) := by decide +kernel
  obtain ⟨line, hline, hfacts⟩ := Option.map_eq_some_iff.mp hfacts
  simp only [Prod.mk.injEq] at hfacts
  obtain ⟨hstatus, hmnemonic, hpc, htokens⟩ := hfacts
  obtain ⟨line', hline', hmoved, hwords⟩ := hlines 1 line hline
  have hrule : t.find? line.mnemonic = some ⟨"JMP", "P", .absolute, [⟨0, 16, .immediate "P"⟩]⟩ := by
    rw [hmnemonic]
    decide +kernel
  have htakes : Operands.TakesLabel .absolute (Token.split line.operands) := by
    rw [htokens]
    exact ⟨by simp, "loop", rfl, by decide +kernel⟩
  obtain ⟨p, v, v', -, -, -, hword, hword', -, habsolute⟩ :=
    (hwords _ hrule).2 htakes hstatus
  have hlow := (habsolute rfl).2 (by rw [hmnemonic]; decide +kernel)
  have hpc' : line'.pc = some 2 := by
    rw [hmoved.pc, hpc]
    rfl
  exact ⟨hlabels, line, line', _, _, hline, hline', hpc', hword, hword', hlow⟩

end RuleTable

end GridAsm
