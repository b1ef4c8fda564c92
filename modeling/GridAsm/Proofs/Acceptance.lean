import GridAsm.Proofs.Program
import GridAsm.Proofs.RuleTable
import GridAsm.Proofs.Token

/-!
# Which instructions are accepted

An instruction has a word if its mnemonic has a rule, its operands are as many as the rule's shape
has slots, and each of them fits its slot.  Otherwise it has the fault of what is checked first, and
among the operands that of the leftmost one that does not fit.

`Slot.Offends` says which tokens do not fit a slot and with which fault, `Slot.Reads` which do and
as which number, and `Operands.ReadAs` which values the tokens of a shape have, all by the grammar
of tokens alone.  One operand is read by `Slot.reading`, which refuses it as `Slot.Offends` says
(`reading_eq_error_iff`) or gives what `Slot.Reads` says (`reading_eq_ok_iff`); what holds of all
operands follows by induction on the slots.
-/

namespace GridAsm

open Text

/-- Whether a fault is one that the operands of an instruction can have. -/
def LineFault.concernsOperands : LineFault → Bool
  | .badOperands .. | .invalidRegister .. | .unresolvedSymbol .. => true
  | .unknownMnemonic .. | .other .. => false

/-! ### One operand -/

namespace Slot

/-- A token does not fit a slot, for which it has a fault.  A line feed inside brackets makes the
token one without brackets. -/
inductive Offends (ctx : Operands.Context) : Slot → Text → LineFault → Prop
  | register {role : RegisterRole} {token : Text} (h : ∀ n, ¬ Token.IsRegister token n) :
      Offends ctx (.register role) token (.invalidRegister (trim token))
  | unbracketed {role : RegisterRole} {token : Text} (h : ∀ inner, ¬ Token.Encloses token inner) :
      Offends ctx (.indirect role) token
        (.badOperands ctx.mnemonic (.notIndirect (trim token)) (some ctx.expected))
  | brokenBrackets {role : RegisterRole} {token inner : Text} (hinner : Token.Encloses token inner)
      (h : CodePoint.char '\n' ∈ trim inner) :
      Offends ctx (.indirect role) token
        (.badOperands ctx.mnemonic (.notIndirect (trim token)) (some ctx.expected))
  | bracketed {role : RegisterRole} {token inner : Text} (hinner : Token.Encloses token inner)
      (hwhole : CodePoint.char '\n' ∉ trim inner) (h : ∀ n, ¬ Token.IsRegister inner n) :
      Offends ctx (.indirect role) token (.invalidRegister (trim inner))
  | value {slot : Slot} {token : Text} (hslot : slot ∈ [immediate, target, displacement])
      (h : ∀ n, ¬ Token.IsValue ctx.labels token n) :
      Offends ctx slot token (Token.unresolved ctx.labels token)

/-- The number that a token gives to a slot. -/
def reading (ctx : Operands.Context) (slot : Slot) (token : Text) : Except LineFault Int :=
  match slot with
  | .register _ => (Token.register token).map Int.ofNat
  | .indirect _ => (Token.indirect ctx.mnemonic ctx.expected token).map Int.ofNat
  | .immediate | .target => Token.value ctx.labels token
  | .condition => .ok (Token.condition token).value
  | .displacement => Token.displacement ctx.labels ctx.pc token

/-- The values with a number in the place of a slot. -/
def store (slot : Slot) (v : Operands) (n : Int) : Operands :=
  match slot with
  | .register role | .indirect role => v.setRegister role n
  | .immediate => { v with y := n }
  | .target => { v with p := n }
  | .condition => { v with cond := n }
  | .displacement => { v with o := n }

/-- A token fits a slot, to which it gives a number. -/
def Reads (ctx : Operands.Context) (slot : Slot) (token : Text) (n : Int) : Prop :=
  match slot with
  | .register _ => ∃ m : Nat, Token.IsRegister token m ∧ n = m
  | .indirect _ => ∃ m : Nat, Token.IsIndirect token m ∧ n = m
  | .immediate | .target => Token.IsValue ctx.labels token n
  | .condition => n = (Token.condition token).value
  | .displacement => Token.IsDisplacement ctx.labels ctx.pc token n

variable {ctx : Operands.Context} {slot : Slot} {token : Text} {fault : LineFault}

theorem map_ofNat_eq_error_iff {x : Except LineFault Nat} :
    x.map Int.ofNat = .error fault ↔ x = .error fault := by
  cases x <;> simp [Except.map]

theorem map_ofNat_eq_ok_iff {x : Except LineFault Nat} {n : Int} :
    x.map Int.ofNat = .ok n ↔ ∃ m : Nat, x = .ok m ∧ n = m := by
  cases x <;> simp [Except.map, eq_comm]

/-- A token is refused if it offends the slot, and with that fault. -/
theorem reading_eq_error_iff :
    slot.reading ctx token = .error fault ↔ slot.Offends ctx token fault := by
  constructor
  · intro h
    cases slot with
    | register role =>
      obtain ⟨hregister, rfl⟩ := Token.register_eq_error_iff.mp (map_ofNat_eq_error_iff.mp h)
      exact .register hregister
    | indirect role =>
      rcases Token.indirect_eq_error_iff.mp (map_ofNat_eq_error_iff.mp h) with
        ⟨hbroken, rfl⟩ | ⟨inner, hinner, hwhole, hregister, rfl⟩
      · by_cases hinner : ∃ inner, Token.Encloses token inner
        · obtain ⟨inner, hinner⟩ := hinner
          exact .brokenBrackets hinner (hbroken inner hinner)
        · exact .unbracketed (not_exists.mp hinner)
      · exact .bracketed hinner hwhole hregister
    | immediate | target =>
      obtain ⟨hvalue, rfl⟩ := Token.value_eq_error_iff.mp h
      exact .value (by decide) hvalue
    | condition => exact nomatch h
    | displacement =>
      obtain ⟨hvalue, rfl⟩ := Token.displacement_eq_error_iff.mp h
      exact .value (by decide) hvalue
  · intro h
    cases h with
    | register hregister =>
      exact map_ofNat_eq_error_iff.mpr (Token.register_eq_error_iff.mpr ⟨hregister, rfl⟩)
    | unbracketed hnone =>
      refine map_ofNat_eq_error_iff.mpr (Token.indirect_eq_error_iff.mpr (.inl ⟨?_, rfl⟩))
      exact fun inner hinner => absurd hinner (hnone inner)
    | brokenBrackets hinner hmem =>
      refine map_ofNat_eq_error_iff.mpr (Token.indirect_eq_error_iff.mpr (.inl ⟨?_, rfl⟩))
      exact fun inner' hinner' => hinner.inner_eq hinner' ▸ hmem
    | bracketed hinner hwhole hregister =>
      exact map_ofNat_eq_error_iff.mpr
        (Token.indirect_eq_error_iff.mpr (.inr ⟨_, hinner, hwhole, hregister, rfl⟩))
    | value hslot hvalue =>
      simp only [List.mem_cons, List.not_mem_nil, or_false] at hslot
      rcases hslot with rfl | rfl | rfl
      · exact Token.value_eq_error_iff.mpr ⟨hvalue, rfl⟩
      · exact Token.value_eq_error_iff.mpr ⟨hvalue, rfl⟩
      · exact Token.displacement_eq_error_iff.mpr ⟨hvalue, rfl⟩

/-- A token is read if it fits the slot, and as that number. -/
theorem reading_eq_ok_iff {n : Int} : slot.reading ctx token = .ok n ↔ slot.Reads ctx token n := by
  unfold reading Reads
  cases slot with
  | register role => simp only [map_ofNat_eq_ok_iff, Token.register_eq_ok_iff]
  | indirect role => simp only [map_ofNat_eq_ok_iff, Token.indirect_eq_ok_iff]
  | immediate | target => exact Token.value_eq_ok_iff
  | condition => simp [eq_comm]
  | displacement => exact Token.displacement_eq_ok_iff

theorem Offends.concernsOperands (h : slot.Offends ctx token fault) :
    fault.concernsOperands = true := by
  cases h <;> rfl

end Slot

/-! ### All operands -/

namespace Operands

variable {ctx : Context}

theorem outcome_read (v : Operands) (slot : Slot) (token : Text) :
    (read ctx v slot token).outcome = (slot.reading ctx token).map (slot.store v) := by
  cases slot with
  | register role =>
    simp only [read, Slot.reading, bind_pure_comp, Attempt.outcome_map, Attempt.outcome_liftExcept]
    cases Token.register token <;> rfl
  | indirect role =>
    simp only [read, Slot.reading, bind_pure_comp, Attempt.outcome_map, Attempt.outcome_liftExcept]
    cases Token.indirect ctx.mnemonic ctx.expected token <;> rfl
  | immediate | target | displacement =>
    simp only [read, Slot.reading, bind_pure_comp, Attempt.outcome_map, Attempt.outcome_liftExcept]
    rfl
  | condition =>
    simp only [read, Slot.reading, bind_pure_comp, Attempt.outcome_map, Attempt.outcome_liftM]
    rfl

/-- The first operand is read and stored, and the others are read after it. -/
theorem outcome_readAll_cons (v : Operands) (slot : Slot) (slots : List Slot) (token : Text)
    (tokens : List Text) :
    (readAll ctx v (slot :: slots) (token :: tokens)).outcome =
      slot.reading ctx token >>= fun n => (readAll ctx (slot.store v n) slots tokens).outcome := by
  rw [readAll, Attempt.outcome_bind, outcome_read]
  cases slot.reading ctx token <;> rfl

/-- The leftmost operand that does not fit its slot has the fault. -/
def FirstOffence (ctx : Context) (slots : List Slot) (tokens : List Text) (fault : LineFault) :
    Prop :=
  ∃ before slot token after, slots.zip tokens = before ++ (slot, token) :: after ∧
    (∀ x ∈ before, ∀ fault, ¬ x.1.Offends ctx x.2 fault) ∧ slot.Offends ctx token fault

theorem firstOffence_cons_iff {slot : Slot} {slots : List Slot} {token : Text} {tokens : List Text}
    {fault : LineFault} :
    FirstOffence ctx (slot :: slots) (token :: tokens) fault ↔
      slot.Offends ctx token fault ∨
        (∀ fault, ¬ slot.Offends ctx token fault) ∧ FirstOffence ctx slots tokens fault := by
  rw [FirstOffence, List.zip_cons_cons]
  constructor
  · rintro ⟨before, slot', token', after, hsplit, hbefore, h⟩
    rcases List.cons_eq_append_iff.mp hsplit with ⟨rfl, hhead⟩ | ⟨tail, rfl, htail⟩
    · obtain ⟨⟨rfl, rfl⟩, -⟩ : (slot' = slot ∧ token' = token) ∧ _ := by simpa using hhead
      exact .inl h
    · rw [List.forall_mem_cons] at hbefore
      exact .inr ⟨hbefore.1, tail, slot', token', after, htail, hbefore.2, h⟩
  · rintro (h | ⟨hfits, before, slot', token', after, hsplit, hbefore, h⟩)
    · exact ⟨[], slot, token, _, rfl, fun _ hx => absurd hx List.not_mem_nil, h⟩
    · refine ⟨(slot, token) :: before, slot', token', after, by rw [hsplit]; rfl, ?_, h⟩
      exact List.forall_mem_cons.mpr ⟨hfits, hbefore⟩

/-- The reading stops at the leftmost operand that does not fit, with its fault, and at no other. -/
theorem outcome_readAll_eq_error_iff {slots : List Slot} {tokens : List Text} {fault : LineFault}
    (v : Operands) :
    (readAll ctx v slots tokens).outcome = .error fault ↔ FirstOffence ctx slots tokens fault := by
  have hnil : ∀ {slots tokens}, slots.zip tokens = [] → ¬ FirstOffence ctx slots tokens fault := by
    rintro slots tokens hzip ⟨before, slot, token, after, hsplit, -⟩
    exact absurd (hzip.symm.trans hsplit) (by simp)
  induction slots generalizing tokens v with
  | nil => exact iff_of_false (fun h => nomatch h) (hnil rfl)
  | cons slot slots ih =>
    cases tokens with
    | nil => exact iff_of_false (fun h => nomatch h) (hnil rfl)
    | cons token tokens =>
      rw [outcome_readAll_cons, firstOffence_cons_iff]
      simp only [← Slot.reading_eq_error_iff]
      -- The values that the first operand leaves do not matter for the others.
      cases slot.reading ctx token with
      | ok n =>
        simp only [reduceCtorEq, not_false_eq_true, implies_true, true_and, false_or]
        exact ih (slot.store v n)
      | error e =>
        have hoffends : ¬ ∀ fault, ¬ e = fault := fun h => h e rfl
        change (Except.error e : Except LineFault Operands) = .error fault ↔ _
        simp only [Except.error.injEq, hoffends, false_and, or_false]

/-! ### The values of a shape's operands -/

/-- The values that the tokens of a shape have at `pc`; all others are zero. -/
inductive ReadAs (labels : LabelTable) (pc : Int) : Shape → List Text → Operands → Prop
  | threeRegisters {a b c : Text} {rd rs rt : Nat} (ha : Token.IsRegister a rd)
      (hb : Token.IsRegister b rs) (hc : Token.IsRegister c rt) :
      ReadAs labels pc .threeRegisters [a, b, c] { rd := rd, rs := rs, rt := rt }
  | twoRegisters {a b : Text} {rd rs : Nat} (ha : Token.IsRegister a rd)
      (hb : Token.IsRegister b rs) : ReadAs labels pc .twoRegisters [a, b] { rd := rd, rs := rs }
  | registerImmediate {a b : Text} {rd : Nat} {y : Int} (ha : Token.IsRegister a rd)
      (hb : Token.IsValue labels b y) :
      ReadAs labels pc .registerImmediate [a, b] { rd := rd, y := y }
  | registerIndirect {a b : Text} {rd rs : Nat} (ha : Token.IsRegister a rd)
      (hb : Token.IsIndirect b rs) :
      ReadAs labels pc .registerIndirect [a, b] { rd := rd, rs := rs }
  | indirectRegister {a b : Text} {rs rt : Nat} (ha : Token.IsIndirect a rs)
      (hb : Token.IsRegister b rt) :
      ReadAs labels pc .indirectRegister [a, b] { rs := rs, rt := rt }
  | absolute {a : Text} {p : Int} (ha : Token.IsValue labels a p) :
      ReadAs labels pc .absolute [a] { p := p }
  | conditional {a b : Text} {o : Int} (hb : Token.IsDisplacement labels pc b o) :
      ReadAs labels pc .conditional [a, b] { cond := (Token.condition a).value, o := o }

variable {v w : Operands} {slots : List Slot} {token : Text} {tokens : List Text}

theorem outcome_readAll_cons_eq_ok_iff {slot : Slot} :
    (readAll ctx v (slot :: slots) (token :: tokens)).outcome = .ok w ↔
      ∃ n, slot.Reads ctx token n ∧
        (readAll ctx (slot.store v n) slots tokens).outcome = .ok w := by
  simp only [outcome_readAll_cons, ← Slot.reading_eq_ok_iff]
  cases slot.reading ctx token with
  | ok n => exact ⟨fun h => ⟨n, rfl, h⟩, fun ⟨_, hn, h⟩ => Except.ok.inj hn ▸ h⟩
  | error e => exact iff_of_false (fun h => nomatch h) fun ⟨_, hn, _⟩ => nomatch hn

/-- Operands that are read have the values that the shape says. -/
theorem readAs_of_outcome_readAll {shape : Shape} (hshape : shape ≠ .unsupported)
    (hlength : tokens.length = shape.arity)
    (h : (readAll ctx {} shape.slots tokens).outcome = .ok w) :
    ReadAs ctx.labels ctx.pc shape tokens w := by
  cases shape with
  | threeRegisters =>
    obtain ⟨a, b, c, rfl⟩ := List.length_eq_three.mp hlength
    obtain ⟨_, ⟨rd, ha, rfl⟩, h⟩ := outcome_readAll_cons_eq_ok_iff.mp h
    obtain ⟨_, ⟨rs, hb, rfl⟩, h⟩ := outcome_readAll_cons_eq_ok_iff.mp h
    obtain ⟨_, ⟨rt, hc, rfl⟩, h⟩ := outcome_readAll_cons_eq_ok_iff.mp h
    obtain rfl := Except.ok.inj h
    exact .threeRegisters ha hb hc
  | twoRegisters =>
    obtain ⟨a, b, rfl⟩ := List.length_eq_two.mp hlength
    obtain ⟨_, ⟨rd, ha, rfl⟩, h⟩ := outcome_readAll_cons_eq_ok_iff.mp h
    obtain ⟨_, ⟨rs, hb, rfl⟩, h⟩ := outcome_readAll_cons_eq_ok_iff.mp h
    obtain rfl := Except.ok.inj h
    exact .twoRegisters ha hb
  | registerImmediate =>
    obtain ⟨a, b, rfl⟩ := List.length_eq_two.mp hlength
    obtain ⟨_, ⟨rd, ha, rfl⟩, h⟩ := outcome_readAll_cons_eq_ok_iff.mp h
    obtain ⟨y, hb, h⟩ := outcome_readAll_cons_eq_ok_iff.mp h
    obtain rfl := Except.ok.inj h
    exact .registerImmediate ha hb
  | registerIndirect =>
    obtain ⟨a, b, rfl⟩ := List.length_eq_two.mp hlength
    obtain ⟨_, ⟨rd, ha, rfl⟩, h⟩ := outcome_readAll_cons_eq_ok_iff.mp h
    obtain ⟨_, ⟨rs, hb, rfl⟩, h⟩ := outcome_readAll_cons_eq_ok_iff.mp h
    obtain rfl := Except.ok.inj h
    exact .registerIndirect ha hb
  | indirectRegister =>
    obtain ⟨a, b, rfl⟩ := List.length_eq_two.mp hlength
    obtain ⟨_, ⟨rs, ha, rfl⟩, h⟩ := outcome_readAll_cons_eq_ok_iff.mp h
    obtain ⟨_, ⟨rt, hb, rfl⟩, h⟩ := outcome_readAll_cons_eq_ok_iff.mp h
    obtain rfl := Except.ok.inj h
    exact .indirectRegister ha hb
  | absolute =>
    obtain ⟨a, rfl⟩ := List.length_eq_one_iff.mp hlength
    obtain ⟨p, ha, h⟩ := outcome_readAll_cons_eq_ok_iff.mp h
    obtain rfl := Except.ok.inj h
    exact .absolute ha
  | conditional =>
    obtain ⟨a, b, rfl⟩ := List.length_eq_two.mp hlength
    obtain ⟨_, rfl, h⟩ := outcome_readAll_cons_eq_ok_iff.mp h
    obtain ⟨o, hb, h⟩ := outcome_readAll_cons_eq_ok_iff.mp h
    obtain rfl := Except.ok.inj h
    exact .conditional hb
  | unsupported => exact absurd rfl hshape

/-- Tokens that have values are read, and into these. -/
theorem ReadAs.outcome_readAll (ctx : Context) {shape : Shape}
    (h : ReadAs ctx.labels ctx.pc shape tokens w) :
    (readAll ctx {} shape.slots tokens).outcome = .ok w := by
  cases h with
  | threeRegisters ha hb hc =>
    refine outcome_readAll_cons_eq_ok_iff.mpr ⟨_, ⟨_, ha, rfl⟩, ?_⟩
    refine outcome_readAll_cons_eq_ok_iff.mpr ⟨_, ⟨_, hb, rfl⟩, ?_⟩
    exact outcome_readAll_cons_eq_ok_iff.mpr ⟨_, ⟨_, hc, rfl⟩, rfl⟩
  | twoRegisters ha hb | registerIndirect ha hb | indirectRegister ha hb =>
    refine outcome_readAll_cons_eq_ok_iff.mpr ⟨_, ⟨_, ha, rfl⟩, ?_⟩
    exact outcome_readAll_cons_eq_ok_iff.mpr ⟨_, ⟨_, hb, rfl⟩, rfl⟩
  | registerImmediate ha hb =>
    refine outcome_readAll_cons_eq_ok_iff.mpr ⟨_, ⟨_, ha, rfl⟩, ?_⟩
    exact outcome_readAll_cons_eq_ok_iff.mpr ⟨_, hb, rfl⟩
  | absolute ha => exact outcome_readAll_cons_eq_ok_iff.mpr ⟨_, ha, rfl⟩
  | conditional hb =>
    refine outcome_readAll_cons_eq_ok_iff.mpr ⟨_, rfl, ?_⟩
    exact outcome_readAll_cons_eq_ok_iff.mpr ⟨_, hb, rfl⟩

theorem ReadAs.shape_fits {labels : LabelTable} {pc : Int} {shape : Shape}
    (h : ReadAs labels pc shape tokens w) :
    shape ≠ .unsupported ∧ tokens.length = shape.arity := by
  cases h <;> exact ⟨Shape.noConfusion, rfl⟩

/-! ### The operands of a rule -/

/-- What the operands of a rule's instruction are read with. -/
def contextOf (rule : Rule) (labels : LabelTable) (pc : Int) : Context :=
  ⟨rule.mnemonic, rule.shape.spelling, labels, pc⟩

variable {rule : Rule}

/-- An instruction whose operands are too many or too few, or whose rule has no shape, is refused
before an operand is read. -/
theorem exists_outcome_parse_of_misfit
    (h : rule.shape = .unsupported ∨ tokens.length ≠ rule.shape.arity) :
    ∃ misfit expected, ∀ labels pc, (parse rule tokens labels pc).outcome =
      .error (.badOperands rule.mnemonic misfit expected) := by
  simp only [parse]
  split_ifs with hshape hlength
  · exact ⟨_, _, fun _ _ => rfl⟩
  · exact ⟨_, _, fun _ _ => rfl⟩
  · exact absurd h (by simp [hshape, not_not.mp hlength])

theorem outcome_parse_of_fits (labels : LabelTable) (pc : Int) (hshape : rule.shape ≠ .unsupported)
    (hlength : tokens.length = rule.shape.arity) :
    (parse rule tokens labels pc).outcome =
      (readAll (contextOf rule labels pc) {} rule.shape.slots tokens).outcome := by
  rw [parse, if_neg hshape, if_neg (not_not.mpr hlength), contextOf]

/-- The operands of a rule are read if they have values, and into these. -/
theorem outcome_parse_eq_ok_iff {labels : LabelTable} {pc : Int} :
    (parse rule tokens labels pc).outcome = .ok v ↔ ReadAs labels pc rule.shape tokens v := by
  by_cases hfits : rule.shape ≠ .unsupported ∧ tokens.length = rule.shape.arity
  · rw [outcome_parse_of_fits labels pc hfits.1 hfits.2]
    exact ⟨readAs_of_outcome_readAll hfits.1 hfits.2,
      ReadAs.outcome_readAll (contextOf rule labels pc)⟩
  · obtain ⟨misfit, expected, h⟩ := exists_outcome_parse_of_misfit
      ((not_and_or.mp hfits).imp_left not_not.mp)
    rw [h]
    exact iff_of_false (fun h => nomatch h) fun h => hfits h.shape_fits

/-- The operands of a rule are refused for their leftmost offence, once there are as many as there
are slots. -/
theorem outcome_parse_eq_error_iff {labels : LabelTable} {pc : Int} {fault : LineFault}
    (hshape : rule.shape ≠ .unsupported) (hlength : tokens.length = rule.shape.arity) :
    (parse rule tokens labels pc).outcome = .error fault ↔
      FirstOffence (contextOf rule labels pc) rule.shape.slots tokens fault := by
  rw [outcome_parse_of_fits labels pc hshape hlength]
  exact outcome_readAll_eq_error_iff {}

/-- The operands of a rule have no other faults than those of operands. -/
theorem concernsOperands_of_outcome_parse {labels : LabelTable} {pc : Int} {fault : LineFault}
    (h : (parse rule tokens labels pc).outcome = .error fault) :
    fault.concernsOperands = true := by
  by_cases hfits : rule.shape ≠ .unsupported ∧ tokens.length = rule.shape.arity
  · obtain ⟨-, slot, token, -, -, -, hoffends⟩ :=
      (outcome_parse_eq_error_iff hfits.1 hfits.2).mp h
    exact hoffends.concernsOperands
  · obtain ⟨misfit, expected, hmisfit⟩ := exists_outcome_parse_of_misfit
      ((not_and_or.mp hfits).imp_left not_not.mp)
    obtain rfl := Except.error.inj (h.symm.trans (hmisfit labels pc))
    rfl

end Operands

/-! ### Instructions -/

namespace RuleTable

variable {t : RuleTable} {code : Text} {pc : Int} {labels : LabelTable}

theorem outcome_wordOf_of_none (h : t.find? (codeParts code).1 = none) :
    (t.wordOf code pc labels).outcome = .error
      (.unknownMnemonic (codeParts code).1 (closeMatches (codeParts code).1 t.mnemonics)) := by
  simp only [wordOf, h]
  rfl

theorem outcome_wordOf_of_some {rule : Rule} (h : t.find? (codeParts code).1 = some rule) :
    (t.wordOf code pc labels).outcome =
      (Operands.parse rule (Token.split (codeParts code).2) labels pc).outcome.map rule.encode := by
  simp only [wordOf, h, bind_pure_comp, Attempt.outcome_map]

/-- The fault of an instruction with a rule is that of its operands. -/
theorem outcome_wordOf_eq_error_iff {rule : Rule} (h : t.find? (codeParts code).1 = some rule)
    {fault : LineFault} :
    (t.wordOf code pc labels).outcome = .error fault ↔
      (Operands.parse rule (Token.split (codeParts code).2) labels pc).outcome = .error fault := by
  rw [outcome_wordOf_of_some h]
  cases (Operands.parse rule (Token.split (codeParts code).2) labels pc).outcome <;>
    simp [Except.map]

/-- **Which instructions are accepted.**  An instruction has a word, or one of the four kinds of
faults that the checks of an instruction have.  Its mnemonic is unknown if and only if the table
has no rule for it.  If there is one, the operands have to be as many as its shape has; then the
leftmost that offends its slot decides the fault, and if there is none, the word is that of the
rule with the values of the operands and zero for all else.  No word is lost to a negative shift. -/
theorem word_or_first_offence {grid : List (List Json.Value)} {t : RuleTable}
    {notices : List Notice} (hgrid : (ofGrid grid).Gives t notices) (code : Text) (pc : Int)
    (labels : LabelTable) :
    let name := (codeParts code).1
    let tokens := Token.split (codeParts code).2
    let outcome := (t.wordOf code pc labels).outcome
    ((∃ word, outcome = .ok word) ∨
      ∃ fault, outcome = .error fault ∧ ∀ message hint, fault ≠ .other message hint) ∧
    ((∃ unknown similar, outcome = .error (.unknownMnemonic unknown similar)) ↔
      t.find? name = none) ∧
    ∀ rule, t.find? name = some rule →
      (rule.shape = .unsupported ∨ tokens.length ≠ rule.shape.arity →
        ∃ misfit expected, outcome = .error (.badOperands rule.mnemonic misfit expected)) ∧
      (rule.shape ≠ .unsupported → tokens.length = rule.shape.arity →
        let ctx := Operands.contextOf rule labels pc
        (∀ fault, outcome = .error fault ↔
          Operands.FirstOffence ctx rule.shape.slots tokens fault) ∧
        ((∀ x ∈ rule.shape.slots.zip tokens, ∀ fault, ¬ x.1.Offends ctx x.2 fault) →
          ∃ v, Operands.ReadAs labels pc rule.shape tokens v ∧ outcome = .ok (rule.encode v) ∧
            rule.packChecked v = .ok (rule.pack v))) := by
  intro name tokens outcome
  refine ⟨?_, ?_, ?_⟩
  · cases hrule : t.find? name with
    | none => exact .inr ⟨_, outcome_wordOf_of_none hrule, fun _ _ => LineFault.noConfusion⟩
    | some rule =>
      cases houtcome : outcome with
      | ok word => exact .inl ⟨word, rfl⟩
      | error fault =>
        have hparse := (outcome_wordOf_eq_error_iff hrule).mp houtcome
        refine .inr ⟨fault, rfl, ?_⟩
        rintro message hint rfl
        exact Bool.false_ne_true (Operands.concernsOperands_of_outcome_parse hparse)
  · cases hrule : t.find? name with
    | none => exact iff_of_true ⟨_, _, outcome_wordOf_of_none hrule⟩ rfl
    | some rule =>
      refine iff_of_false ?_ (by simp)
      rintro ⟨unknown, similar, h⟩
      have hparse := (outcome_wordOf_eq_error_iff hrule).mp h
      exact Bool.false_ne_true (Operands.concernsOperands_of_outcome_parse hparse)
  · intro rule hrule
    refine ⟨fun hmisfit => ?_, fun hshape hlength => ⟨fun fault => ?_, fun hfits => ?_⟩⟩
    · obtain ⟨misfit, expected, h⟩ := Operands.exists_outcome_parse_of_misfit hmisfit
      exact ⟨misfit, expected, (outcome_wordOf_eq_error_iff hrule).mpr (h labels pc)⟩
    · rw [outcome_wordOf_eq_error_iff hrule]
      exact Operands.outcome_parse_eq_error_iff hshape hlength
    · -- A fault would be that of an operand, and they all fit.
      cases hparse : (Operands.parse rule tokens labels pc).outcome with
      | error fault =>
        obtain ⟨before, slot, token, after, hsplit, -, hoffends⟩ :=
          (Operands.outcome_parse_eq_error_iff hshape hlength).mp hparse
        exact absurd hoffends (hfits (slot, token) (by rw [hsplit]; simp) fault)
      | ok v =>
        obtain ⟨row, -, ns, hrow⟩ := exists_row_of_find? hgrid hrule
        refine ⟨v, Operands.outcome_parse_eq_ok_iff.mp hparse, ?_, Rule.packChecked_eq_pack hrow v⟩
        change (t.wordOf code pc labels).outcome = _
        rw [outcome_wordOf_of_some hrule, hparse]
        rfl

/-- A load whose operands both offend, and one whose operands fit. -/
theorem word_or_first_offence_of_load :
    let grid := [[], ["ld", "rd, [rs]", "0", "1", "1", "1", "1", "x", "x", "x", "rd[3:0]", "", "",
      "", "rs[3:0]"].map fun s : String => Json.Value.text s]
    let rule : Rule := ⟨"LD", "rd, [rs]", .registerIndirect,
      [⟨15, 1, .fixed 0⟩, ⟨14, 1, .fixed 1⟩, ⟨13, 1, .fixed 1⟩, ⟨12, 1, .fixed 1⟩,
       ⟨11, 1, .fixed 1⟩, ⟨10, 1, .ignored⟩, ⟨9, 1, .ignored⟩, ⟨8, 1, .ignored⟩,
       ⟨4, 4, .slice "rd" 3 0⟩, ⟨0, 4, .slice "rs" 3 0⟩]⟩
    let t : RuleTable := ⟨[rule]⟩
    (ofGrid grid).Gives t [.rulesRead 1] ∧
      (t.wordOf "ld R16, r2" 0 {}).outcome = .error (.invalidRegister "R16") ∧
      ∃ v, Operands.ReadAs {} 0 .registerIndirect (["r1", "[ R07 ]"].map ofString) v ∧
        (t.wordOf "ld r1, [ R07 ]" 0 {}).outcome = .ok (rule.encode v) := by
  intro grid rule t
  have hgrid : (ofGrid grid).Gives t [.rulesRead 1] := by decide +kernel
  refine ⟨hgrid, ?_, ?_⟩
  · have hrule : t.find? (codeParts "ld R16, r2").1 = some rule := by decide +kernel
    have htokens : Token.split (codeParts "ld R16, r2").2 = ["R16", "r2"].map ofString := by
      decide +kernel
    obtain ⟨-, -, h⟩ := word_or_first_offence hgrid "ld R16, r2" 0 {}
    obtain ⟨hfault, -⟩ := (h rule hrule).2 (by decide) (by rw [htokens]; rfl)
    have hname : trim (ofString "R16") = "R16" := by decide +kernel
    have hnone : Token.registerNumber? (trim (ofString "R16")) = none := by decide +kernel
    -- The second operand has no brackets, but the first is looked at before it.
    rw [hfault, htokens, ← hname]
    refine Operands.firstOffence_cons_iff.mpr (.inl (.register fun n hn => ?_))
    exact nomatch hnone.symm.trans (Token.registerNumber?_trim_eq_some_iff.mpr hn)
  · have hrule : t.find? (codeParts "ld r1, [ R07 ]").1 = some rule := by decide +kernel
    have htokens : Token.split (codeParts "ld r1, [ R07 ]").2 = ["r1", "[ R07 ]"].map ofString := by
      decide +kernel
    obtain ⟨-, -, h⟩ := word_or_first_offence hgrid "ld r1, [ R07 ]" 0 {}
    obtain ⟨hfault, hword⟩ := (h rule hrule).2 (by decide) (by rw [htokens]; rfl)
    have hfirst : (Slot.register .rd).reading (Operands.contextOf rule {} 0) "r1" = .ok 1 := by
      decide +kernel
    have hsecond :
        (Slot.indirect .rs).reading (Operands.contextOf rule {} 0) "[ R07 ]" = .ok 7 := by
      decide +kernel
    rw [htokens] at hword
    obtain ⟨v, hv, hvalue, -⟩ := hword <| by
      intro x hx fault
      rw [← Slot.reading_eq_error_iff]
      rcases List.mem_cons.mp hx with rfl | hx
      · exact fun h => nomatch h.symm.trans hfirst
      · rw [List.mem_singleton.mp hx]
        exact fun h => nomatch h.symm.trans hsecond
    exact ⟨v, hv, hvalue⟩

/-- A register with a line feed in it is no register, but in brackets it is refused as if it had
none. -/
theorem brackets_hidden_by_line_feed :
    let grid := [[], ["LD", "rd, [rs]"].map fun s : String => Json.Value.text s]
    let t : RuleTable := ⟨[⟨"LD", "rd, [rs]", .registerIndirect,
      (List.range 16).reverse.map fun i => ⟨i, 1, .ignored⟩⟩]⟩
    let code : Text := "LD r1, [r\n1]"
    (ofGrid grid).Gives t [.rulesRead 1] ∧
      Token.split (codeParts code).2 = ["r1", "[r\n1]"].map ofString ∧
      Token.IsRegister "r1" 1 ∧ Token.Encloses "[r\n1]" "r\n1" ∧
      (∀ n, ¬ Token.IsRegister "r\n1" n) ∧
      (t.wordOf code 0 {}).outcome =
        .error (.badOperands "LD" (.notIndirect "[r\n1]") (some "rd, [rs]")) := by
  intro grid t code
  refine ⟨by decide +kernel, by decide +kernel, ?_, by decide +kernel, ?_, by decide +kernel⟩
  · exact Token.registerNumber?_trim_eq_some_iff.mp (by decide +kernel)
  · intro n hn
    have hnone : Token.registerNumber? (trim (ofString "r\n1")) = none := by decide +kernel
    exact nomatch hnone.symm.trans (Token.registerNumber?_trim_eq_some_iff.mpr hn)

end RuleTable

end GridAsm
