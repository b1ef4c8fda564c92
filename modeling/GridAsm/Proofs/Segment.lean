import GridAsm.Proofs.Artifact
import GridAsm.Proofs.Jump
import GridAsm.Proofs.Literal
import GridAsm.Proofs.Shadowing
import Mathlib.Algebra.Order.Ring.Nat
import Mathlib.Data.Nat.Digits.Lemmas

/-!
# Words are shown in the parts of their form

A word is shown as sixteen binary digits, once in groups of four and once in the parts that the form
of its mnemonic has.  Digits that are cut in two stand for the quotient and the remainder by a power
of the base (`IsNumeral.cut`), so the parts of the digits are the parts of the number
(`forall₂_cut`).

The form is found twice: for the word by the mnemonic of the rule, and for the parts by the mnemonic
of the line.  The two are the same text (`RuleTable.mnemonic_eq`), so a branch is shown in the parts
that it was made of, and so is a jump.
-/

namespace GridAsm

open Text

namespace Text

/-! ### Digits in parts -/

theorem lt_of_forall₂_isDigit {base : Nat} {isDigit : CodePoint → Nat → Prop}
    (hlt : ∀ {p d}, isDigit p d → d < base) {t : Text} {ds : List Nat}
    (h : List.Forall₂ isDigit t ds) : ∀ d ∈ ds, d < base := by
  induction h with
  | nil => simp
  | cons hd _ ih =>
    rw [List.forall_mem_cons]
    exact ⟨hlt hd, ih⟩

/-- The first digits stand for the quotient by a power of the base and the others for the
remainder. -/
theorem IsNumeral.cut {base : Nat} (hbase : 1 < base) {isDigit : CodePoint → Nat → Prop}
    (hlt : ∀ {p d}, isDigit p d → d < base) {t : Text} {n : Nat} (h : IsNumeral base isDigit t n)
    {k : Nat} (h0 : 0 < k) (hk : k < t.length) :
    IsNumeral base isDigit (t.take k) (n / base ^ (t.length - k)) ∧
      IsNumeral base isDigit (t.drop k) (n % base ^ (t.length - k)) := by
  obtain ⟨ds, hne, hds, rfl⟩ := h
  have hlength : (ds.drop k).reverse.length = t.length - k := by
    rw [List.length_reverse, List.length_drop, hds.length_eq]
  have hvalue : Nat.ofDigits base ds.reverse = Nat.ofDigits base (ds.drop k).reverse +
      base ^ (t.length - k) * Nat.ofDigits base (ds.take k).reverse := by
    rw [← hlength, ← Nat.ofDigits_append, ← List.reverse_append, List.take_append_drop]
  have hlow : Nat.ofDigits base (ds.drop k).reverse < base ^ (t.length - k) := by
    rw [← hlength]
    apply Nat.ofDigits_lt_base_pow_length hbase
    intro d hd
    exact lt_of_forall₂_isDigit hlt hds d (List.mem_of_mem_drop (List.mem_reverse.mp hd))
  rw [hvalue]
  constructor
  · refine ⟨ds.take k, ?_, List.forall₂_take k hds, ?_⟩
    · rw [Ne, List.take_eq_nil_iff]
      exact not_or.mpr ⟨h0.ne', hne⟩
    · have hpos : 0 < base ^ (t.length - k) := Nat.pow_pos (by omega)
      rw [Nat.add_mul_div_left _ _ hpos, Nat.div_eq_of_lt hlow, Nat.zero_add]
  · refine ⟨ds.drop k, ?_, List.forall₂_drop k hds, ?_⟩
    · rw [Ne, List.drop_eq_nil_iff]
      exact Nat.not_le.mpr hk
    · rw [Nat.add_mul_mod_self_left, Nat.mod_eq_of_lt hlow]

theorem filter_join {separator : String} {f : CodePoint → Bool}
    (hsep : ∀ p ∈ ofString separator, f p = false) {ts : List Text}
    (h : ∀ t ∈ ts, ∀ p ∈ t, f p = true) : (join separator ts).filter f = ts.flatten := by
  induction ts with
  | nil => rfl
  | cons t ts ih =>
    rw [List.forall_mem_cons] at h
    have ht : t.filter f = t := List.filter_eq_self.mpr h.1
    cases ts with
    | nil => rw [join_singleton, ht, List.flatten_singleton]
    | cons next ts =>
      have hnone : (ofString separator).filter f = [] := by
        rw [List.filter_eq_nil_iff]
        intro p hp
        rw [hsep p hp]
        exact Bool.false_ne_true
      rw [join_cons_cons, List.filter_append, List.filter_append, ht, hnone, ih h.2]
      rfl

end Text

namespace Word

open Literal

/-- The numbers in the parts of a number, given the widths of the parts in bits, from the highest
part on. -/
def parts : List Nat → Nat → List Nat
  | [], _ => []
  | _ :: ws, n => n / 2 ^ ws.sum :: parts ws (n % 2 ^ ws.sum)

theorem lt_of_isBinaryDigit {p : CodePoint} {d : Nat} (h : IsBinaryDigit p d) : d < 2 :=
  h.1

theorem forall₂_cut {ws : List Nat} (hws : ∀ w ∈ ws, 0 < w) {t : Text} {n : Nat}
    (h : IsNumeral 2 IsBinaryDigit t n) (hlength : t.length = ws.sum) :
    List.Forall₂ (IsNumeral 2 IsBinaryDigit) (cut ws t) (parts ws n) := by
  induction ws generalizing t n with
  | nil => exact .nil
  | cons w ws ih =>
    rw [List.forall_mem_cons] at hws
    rw [List.sum_cons] at hlength
    cases ws with
    | nil =>
      have hall : t.take w = t := List.take_of_length_le (by simpa using hlength.le)
      refine .cons ?_ .nil
      rw [hall, List.sum_nil, Nat.pow_zero, Nat.div_one]
      exact h
    | cons next ws =>
      -- Every part has a digit, so the first one does not take all of them.
      have hrest : 0 < (next :: ws).sum := by
        rw [List.sum_cons]
        have := hws.2 next List.mem_cons_self
        omega
      have hmore : w < t.length := by omega
      obtain ⟨hfirst, hothers⟩ := h.cut (by decide) lt_of_isBinaryDigit hws.1 hmore
      have hsub : t.length - w = (next :: ws).sum := by omega
      rw [hsub] at hfirst hothers
      refine .cons hfirst (ih hws.2 hothers ?_)
      rw [List.length_drop, hsub]

theorem flatten_cut {ws : List Nat} {t : Text} (h : t.length = ws.sum) :
    (cut ws t).flatten = t := by
  induction ws generalizing t with
  | nil => exact (List.length_eq_zero_iff.mp h).symm
  | cons w ws ih =>
    show t.take w ++ (cut ws (t.drop w)).flatten = t
    rw [List.sum_cons] at h
    rw [ih (by rw [List.length_drop]; omega), List.take_append_drop]

theorem mem_of_mem_cut {ws : List Nat} {t piece : Text} (h : piece ∈ cut ws t) {p : CodePoint}
    (hp : p ∈ piece) : p ∈ t := by
  induction ws generalizing t with
  | nil => cases h
  | cons w ws ih =>
    rcases List.mem_cons.mp h with rfl | h
    · exact List.mem_of_mem_take hp
    · exact List.mem_of_mem_drop (ih h)

/-! ### The digits of a word -/

theorem isNumeral_bits (word : Int) :
    IsNumeral 2 IsBinaryDigit (bits word) (low16 word) ∧ (bits word).length = 16 := by
  have hlow : low16 word < 2 ^ 16 := low16_lt word
  obtain ⟨ds, hds, hlength, hlt, hvalue⟩ :=
    exists_zeroFilled_eq (by decide) (by decide) hlow id rfl
  rw [List.map_id] at hds
  have hbits : bits word = ofChars (ds.map Nat.digitChar) := congrArg ofChars hds
  rw [hbits, ← hvalue]
  constructor
  · apply isNumeral_ofChars
    · exact List.ne_nil_of_length_pos (by omega)
    · intro d hd
      exact ⟨hlt d hd, rfl⟩
  · rw [ofChars, List.length_map, List.length_map, hlength]

theorem isBlank_of_mem_bits {word : Int} : ∀ p ∈ bits word, isBlank p = false := by
  have hdigit : ∀ d < 2, isBlank (.char (Nat.digitChar d)) = false := by decide
  refine (isNumeral_bits word).1.forall_mem fun hd => ?_
  rw [hd.2]
  exact hdigit _ hd.1

theorem filter_binary (word : Int) : (binary word).filter (· ≠ .char ' ') = bits word := by
  have hparts : ∀ t ∈ cut [4, 4, 4, 4] (bits word), ∀ p ∈ t, decide (p ≠ .char ' ') = true := by
    intro t ht p hp
    have hblank := isBlank_of_mem_bits p (mem_of_mem_cut ht hp)
    apply decide_eq_true
    rintro rfl
    exact absurd hblank (by decide)
  calc (binary word).filter (· ≠ .char ' ') = (cut [4, 4, 4, 4] (bits word)).flatten :=
        filter_join (by decide) hparts
    _ = bits word := flatten_cut (isNumeral_bits word).2

end Word

theorem Form.sum_segments (form : Form) :
    form.segments.sum = 16 ∧ ∀ w ∈ form.segments, 0 < w := by
  cases form <;> decide

theorem Rule.parts_encode_branch {r : Rule} (h : r.mnemonic = "BRA") (v : Operands) {word : Nat}
    (hword : r.encode v = word) :
    Word.parts Form.branch.segments word =
      [0, 15, (v.cond % 8).toNat, (v.o % 256).toNat] := by
  rw [encode_branch h] at hword
  show [word / 2 ^ 15, word % 2 ^ 15 / 2 ^ 11, word % 2 ^ 15 % 2 ^ 11 / 2 ^ 8,
    word % 2 ^ 15 % 2 ^ 11 % 2 ^ 8 / 2 ^ 0] = _
  simp only [List.cons.injEq, and_true]
  omega

theorem Rule.parts_encode_jump {r : Rule} (h : Form.ofMnemonic r.mnemonic = .jump) (v : Operands)
    {word : Nat} (hword : r.encode v = word) :
    Word.parts Form.jump.segments word = [0, word / 2048 % 16, (v.p % 2048).toNat] := by
  rw [encode_jump h] at hword
  show [word / 2 ^ 15, word % 2 ^ 15 / 2 ^ 11, word % 2 ^ 15 % 2 ^ 11 / 2 ^ 0] = _
  simp only [List.cons.injEq, and_true]
  omega

/-! ### Lines -/

theorem Operands.ReadAs.exists_displacement {labels : LabelTable} {pc : Int} {tokens : List Text}
    {v : Operands} (h : ReadAs labels pc .conditional tokens v) :
    ∃ first second d, tokens = [first, second] ∧ Token.IsDisplacement labels pc second d ∧
      v = { cond := (Token.condition first).value, o := d } := by
  cases h with
  | conditional hd => exact ⟨_, _, _, rfl, hd, rfl⟩

namespace RuleTable

open Literal

/-- The mnemonic of a line is that of its rule, and in capitals. -/
theorem mnemonic_eq {t : RuleTable} {source filename : Text} {line : Line}
    (hline : line ∈ (t.assemble source filename).value.lines) {rule : Rule}
    (hrule : t.find? line.mnemonic = some rule) :
    line.mnemonic = rule.mnemonic ∧ upper line.mnemonic = rule.mnemonic := by
  obtain ⟨i, hi⟩ := List.mem_iff_getElem?.mp hline
  have hkey : key line.mnemonic = line.mnemonic :=
    (getElem?_lines_of_append (List.append_nil t.rules).symm hi).1
  have hupper : upper (key line.mnemonic) = key line.mnemonic := upper_upper _
  rw [hkey] at hupper
  rw [mnemonic_of_find? hrule, hkey]
  exact ⟨rfl, hupper⟩

/-- **Words are shown in the parts of their form.**  The mnemonic of an encoded line is that of the
rule that made its word.  The groups and the segments of the line are the same sixteen binary
digits, and these stand for the word, as do the hexadecimal digits.  The segments of a branch are
zero, the opcode, the condition and the low byte of the displacement, and those of a jump are zero,
the opcode in the word and the low eleven bits of the target. -/
theorem segments_match_layout (t : RuleTable) (source filename : Text) {line : Line}
    (hline : line ∈ (t.assemble source filename).value.lines) (hstatus : line.status = .encoded) :
    let labels := (t.assemble source filename).value.labels
    ∃ (pc : Nat) (rule : Rule) (v : Operands) (word : Nat) (digits : Text) (segments : List Text),
      line.pc = some pc ∧ t.find? line.mnemonic = some rule ∧ line.mnemonic = rule.mnemonic ∧
      Operands.ReadAs labels pc rule.shape (Token.split line.operands) v ∧
      rule.encode v = word ∧ line.word = some (word : Int) ∧
      digits.length = 16 ∧ IsNumeral 2 IsBinaryDigit digits word ∧
      Literal.parse? line.hex = some (word : Int) ∧
      line.binary.filter (· ≠ .char ' ') = digits ∧
      line.segmented = Text.join " | " segments ∧ segments.flatten = digits ∧
      (line.mnemonic = "BRA" → rule.shape = .conditional →
        ∃ first second d, Token.split line.operands = [first, second] ∧
          Token.IsDisplacement labels pc second d ∧
          List.Forall₂ (IsNumeral 2 IsBinaryDigit) segments
            [0, 15, (Token.condition first).value, (d % 256).toNat]) ∧
      (line.mnemonic ∈ ["JZ", "JC", "JMP"].map ofString → rule.shape = .absolute →
        ∃ token target, Token.split line.operands = [token] ∧ Token.IsValue labels token target ∧
          List.Forall₂ (IsNumeral 2 IsBinaryDigit) segments
            [0, word / 2048 % 16, (target % 2048).toNat]) := by
  intro labels
  obtain ⟨pc, rule, v, ns, hpc, hrule, hparse, hword⟩ := exists_of_encoded t filename hline hstatus
  have hread := Operands.outcome_parse_eq_ok_iff.mp (Attempt.gives_iff.mp hparse).1
  obtain ⟨hmnemonic, hupper⟩ := mnemonic_eq hline hrule
  obtain ⟨h0, h1⟩ := Rule.encode_bounds rule v
  have hlow : (Word.low16 (rule.encode v) : Int) = rule.encode v :=
    Word.low16_of_bounds h0 (h1.trans (by decide))
  obtain ⟨hnumeral, hlength⟩ := Word.isNumeral_bits (rule.encode v)
  -- The parts are those of the rule's form, whatever it is.
  obtain ⟨hsum, hpos⟩ := (Form.ofMnemonic rule.mnemonic).sum_segments
  have hparts := Word.forall₂_cut hpos hnumeral (hlength.trans hsum.symm)
  have hsegmented : line.segmented = Text.join " | "
      (Word.cut (Form.ofMnemonic rule.mnemonic).segments (Word.bits (rule.encode v))) := by
    rw [Line.segmented, hword, ← hupper]
    rfl
  have hhex : Literal.parse? line.hex = some (Word.low16 (rule.encode v) : Int) := by
    rw [Line.hex, hword]
    exact Word.parse?_hex _
  have hbinary : line.binary.filter (· ≠ .char ' ') = Word.bits (rule.encode v) := by
    rw [Line.binary, hword]
    exact Word.filter_binary _
  generalize Word.low16 (rule.encode v) = word at hlow hnumeral hparts hhex
  refine ⟨pc, rule, v, word, Word.bits (rule.encode v), _, hpc, hrule, hmnemonic, hread, hlow.symm,
    hlow ▸ hword, hlength, hnumeral, hhex, hbinary, hsegmented,
    Word.flatten_cut (hlength.trans hsum.symm), ?_, ?_⟩
  · intro hbra hshape
    rw [hmnemonic] at hbra
    have hform : Form.ofMnemonic rule.mnemonic = .branch := if_pos hbra
    rw [hform, Rule.parts_encode_branch hbra v hlow.symm] at hparts
    obtain ⟨first, second, d, htokens, hd, rfl⟩ := (hshape ▸ hread).exists_displacement
    have hcode := Token.condition_lt first
    have hcond : (((Token.condition first).value : Int) % 8).toNat =
      (Token.condition first).value := by omega
    dsimp only at hparts
    rw [hcond] at hparts
    rw [hform]
    exact ⟨first, second, d, htokens, hd, hparts⟩
  · intro hjump hshape
    have hform := ofMnemonic_eq_jump hrule hjump
    rw [hform, Rule.parts_encode_jump hform v hlow.symm] at hparts
    obtain ⟨token, target, htokens, htarget, rfl⟩ := (hshape ▸ hread).exists_target
    rw [hform]
    exact ⟨token, target, htokens, htarget, hparts⟩

/-- A branch two addresses back, with a mnemonic in small letters. -/
theorem segments_match_layout_of_branch_back :
    let t : RuleTable := ⟨[⟨"BRA", "cond, O", .conditional, [⟨0, 16, .immediate "O"⟩]⟩]⟩
    let program := (t.assemble "\nback: bra eq, -2 ; again" "<input>").value
    ∃ line ∈ program.lines, line.status = .encoded ∧ line.mnemonic = "BRA" ∧
      ∃ (word : Nat) (segments : List Text), line.word = some (word : Int) ∧
        Literal.parse? line.hex = some (word : Int) ∧
        line.segmented = Text.join " | " segments ∧
        line.binary.filter (· ≠ .char ' ') = segments.flatten ∧
        List.Forall₂ (IsNumeral 2 IsBinaryDigit) segments [0, 15, 4, 254] := by
  intro t program
  have hfacts : program.lines[1]?.map (fun line =>
      (line.status, line.mnemonic, Token.split line.operands,
        (t.find? line.mnemonic).map Rule.shape)) =
        some (.encoded, ofString "BRA", ["eq", "-2"].map ofString, some .conditional) := by
    decide +kernel
  obtain ⟨line, hline, hfacts⟩ := Option.map_eq_some_iff.mp hfacts
  simp only [Prod.mk.injEq] at hfacts
  obtain ⟨hstatus, hmnemonic, htokens, hshape⟩ := hfacts
  have hmem : line ∈ program.lines := List.mem_of_getElem? hline
  obtain ⟨pc, rule, v, word, digits, segments, -, hrule, -, -, -, hword, -, -, hhex, hbinary,
    hsegmented, hdigits, hbranch, -⟩ := segments_match_layout t _ _ hmem hstatus
  rw [hrule] at hshape
  obtain ⟨first, second, d, htokens', hd, hparts⟩ := hbranch hmnemonic (Option.some.inj hshape)
  rw [htokens] at htokens'
  obtain ⟨rfl, rfl⟩ : ofString "eq" = first ∧ ofString "-2" = second := by simpa using htokens'
  have hliteral : Literal.parse? (ofString "-2") = some (-2) := by decide
  obtain rfl : d = -2 := by
    rcases hd with hd | ⟨hnone, -⟩
    · exact Option.some.inj (hd.symm.trans hliteral)
    · rw [hliteral] at hnone
      cases hnone
  have hcode : (Token.condition (ofString "eq")).value = 4 := by decide
  rw [hcode] at hparts
  exact ⟨line, hmem, hstatus, hmnemonic, word, segments, hword, hhex, hsegmented,
    hbinary.trans hdigits.symm, hparts⟩

end RuleTable

end GridAsm
