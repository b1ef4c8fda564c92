import GridAsm.Proofs.Acceptance
import GridAsm.Proofs.Literal
import GridAsm.Proofs.Locality
import GridAsm.Proofs.SourceLine

/-!
# The case of letters does not matter

`Text.small` makes the ASCII letters of a text small.  Two sources differ in the case of letters only
if they are the same after it.  So it is enough to see what becomes of a text that was made small:

* a property of code points that the 26 pairs of letters agree on does not see the change
  (`apply_smallLetter`);
* cuts are made at code points that are no letters, so they cut the same pieces, made small
  (`parse_small`, `split_small`);
* names are compared by their capitals, and registers, literals and conditions are read in either
  case (`upper_small`, `registerNumber?_small`, `Literal.parse?_small`), so a token is read as before,
  or refused with a fault of the same kind (`reading_small`).
-/

namespace GridAsm

open Text

namespace Text

/-! ### Letters -/

/-- A code point, made small if it is an ASCII letter. -/
def smallLetter : CodePoint → CodePoint
  | .char c => .char c.toLower
  | .lone offset => .lone offset

/-- A text with its ASCII letters made small. -/
def small (t : Text) : Text :=
  t.map smallLetter

/-- What the 26 letters agree on in both cases does not depend on the case. -/
theorem apply_smallLetter {α : Type} (f : CodePoint → α)
    (h : ∀ i < 26, f (.char (Char.ofNat (97 + i))) = f (.char (Char.ofNat (65 + i))))
    (p : CodePoint) : f (smallLetter p) = f p := by
  cases p with
  | lone offset => rfl
  | char c =>
    show f (.char c.toLower) = f (.char c)
    have hnum := toNat_toLower c
    split_ifs at hnum with hcapital
    · have hletter := h (c.toNat - 65) (by omega)
      have hsmall : 97 + (c.toNat - 65) = c.toLower.toNat := by omega
      have hlarge : 65 + (c.toNat - 65) = c.toNat := by omega
      rwa [hsmall, hlarge, Char.ofNat_toNat, Char.ofNat_toNat] at hletter
    · rw [Char.toNat_inj.mp hnum]

theorem iff_smallLetter (P : CodePoint → Prop) [DecidablePred P]
    (h : ∀ i < 26,
      decide (P (.char (Char.ofNat (97 + i)))) = decide (P (.char (Char.ofNat (65 + i)))))
    (p : CodePoint) : P (smallLetter p) ↔ P p :=
  decide_eq_decide.mp (apply_smallLetter (fun p => decide (P p)) h p)

theorem isBlank_smallLetter (p : CodePoint) : isBlank (smallLetter p) = isBlank p :=
  apply_smallLetter isBlank (by decide) p

theorem isWordChar_smallLetter (p : CodePoint) : isWordChar (smallLetter p) = isWordChar p :=
  apply_smallLetter isWordChar (by decide) p

theorem upperPoint_smallLetter (p : CodePoint) : upperPoint (smallLetter p) = upperPoint p :=
  apply_smallLetter upperPoint (by decide) p

theorem digitValue?_smallLetter (p : CodePoint) : digitValue? (smallLetter p) = digitValue? p :=
  apply_smallLetter digitValue? (by decide) p

theorem hexValue?_smallLetter (p : CodePoint) : hexValue? (smallLetter p) = hexValue? p :=
  apply_smallLetter hexValue? (by decide) p

theorem startsLabel_smallLetter (p : CodePoint) :
    SourceLine.startsLabel (smallLetter p) = SourceLine.startsLabel p :=
  apply_smallLetter SourceLine.startsLabel (by decide) p

/-- A code point that is no letter has no other case. -/
theorem smallLetter_eq_iff {c : Char} (hc : c.isAlpha = false) {p : CodePoint} :
    smallLetter p = .char c ↔ p = .char c := by
  have hletters : ∀ i < 26, (Char.ofNat (97 + i)).isAlpha = true ∧
      (Char.ofNat (65 + i)).isAlpha = true := by decide
  have hne : ∀ d : Char, d.isAlpha = true → ¬ CodePoint.char d = .char c := by
    intro d hd heq
    rw [CodePoint.char.inj heq, hc] at hd
    exact Bool.noConfusion hd
  apply iff_smallLetter (· = .char c)
  intro i hi
  obtain ⟨hsmall, hcapital⟩ := hletters i hi
  rw [decide_eq_false (hne _ hsmall), decide_eq_false (hne _ hcapital)]

/-! ### Texts -/

@[simp] theorem small_cons (p : CodePoint) (t : Text) : small (p :: t) = smallLetter p :: small t :=
  rfl

theorem small_reverse (t : Text) : small t.reverse = (small t).reverse :=
  List.map_reverse

theorem length_small (t : Text) : (small t).length = t.length :=
  List.length_map ..

theorem mem_small_iff {c : Char} (hc : c.isAlpha = false) {t : Text} :
    .char c ∈ small t ↔ .char c ∈ t := by
  unfold small
  simp only [List.mem_map, smallLetter_eq_iff hc, exists_eq_right]

theorem head?_small_eq_iff {c : Char} (hc : c.isAlpha = false) {t : Text} :
    (small t).head? = some (.char c) ↔ t.head? = some (.char c) := by
  cases t with
  | nil => exact Iff.rfl
  | cons p rest => simp only [small_cons, List.head?_cons, Option.some.injEq, smallLetter_eq_iff hc]

theorem small_eq_nil_iff {t : Text} : small t = [] ↔ t = [] :=
  List.map_eq_nil_iff

/-- A run of code points with a property that does not see the case. -/
theorem takeWhile_small {f : CodePoint → Bool} (hf : ∀ p, f (smallLetter p) = f p) (t : Text) :
    (small t).takeWhile f = small (t.takeWhile f) := by
  have hcomp : f ∘ smallLetter = f := funext hf
  rw [small, List.takeWhile_map, hcomp]
  rfl

theorem dropWhile_small {f : CodePoint → Bool} (hf : ∀ p, f (smallLetter p) = f p) (t : Text) :
    (small t).dropWhile f = small (t.dropWhile f) := by
  have hcomp : f ∘ smallLetter = f := funext hf
  rw [small, List.dropWhile_map, hcomp]
  rfl

theorem filter_ne_small {c : Char} (hc : c.isAlpha = false) (t : Text) :
    (small t).filter (· ≠ .char c) = small (t.filter (· ≠ .char c)) := by
  unfold small
  rw [List.filter_map]
  congr 1
  apply List.filter_congr
  intro p _
  exact decide_eq_decide.mpr (not_congr (smallLetter_eq_iff hc))

theorem trimStart_small (t : Text) : trimStart (small t) = small (trimStart t) :=
  dropWhile_small isBlank_smallLetter t

theorem trim_small (t : Text) : trim (small t) = small (trim t) := by
  unfold trim trimEnd
  rw [trimStart_small, ← small_reverse, dropWhile_small isBlank_smallLetter, small_reverse]

theorem upper_small (t : Text) : upper (small t) = upper t := by
  unfold upper small
  rw [List.flatMap_map]
  simp only [upperPoint_smallLetter]

theorem before_small {sep : Char} (hsep : sep.isAlpha = false) (t : Text) :
    before sep (small t) = small (before sep t) := by
  apply takeWhile_small
  intro p
  exact decide_eq_decide.mpr (not_congr (smallLetter_eq_iff hsep))

theorem firstWord_small (t : Text) :
    firstWord (small t) = (small (firstWord t).1, small (firstWord t).2) := by
  have hf : ∀ p, (!isBlank (smallLetter p)) = !isBlank p := by
    intro p
    rw [isBlank_smallLetter]
  unfold firstWord
  rw [takeWhile_small hf, dropWhile_small hf, trimStart_small]

theorem splitAt_small {sep : Char} (hsep : sep.isAlpha = false) (t : Text) :
    splitAt sep (small t) = (splitAt sep t).map small := by
  induction t with
  | nil => rfl
  | cons p rest ih =>
    rw [small_cons, splitAt, splitAt, ih]
    by_cases hp : p = .char sep
    · rw [if_pos hp, if_pos ((smallLetter_eq_iff hsep).mpr hp)]
      rfl
    · rw [if_neg hp, if_neg fun h => hp ((smallLetter_eq_iff hsep).mp h)]
      cases splitAt sep rest <;> rfl

theorem dropReturn_small (line : Text) : dropReturn (small line) = small (dropReturn line) := by
  cases line with
  | nil => rfl
  | cons p rest =>
    by_cases hp : p = .char '\r'
    · rw [hp]
      rfl
    · have hp' : smallLetter p ≠ .char '\r' := fun h => hp ((smallLetter_eq_iff (by decide)).mp h)
      unfold dropReturn
      rw [small_cons]
      split
      · rename_i h
        exact absurd (List.cons.inj h).1 hp'
      split
      · rename_i h
        exact absurd (List.cons.inj h).1 hp
      rfl

theorem linesFrom_small (line t : Text) :
    linesFrom (small line) (small t) = (linesFrom line t).map small := by
  induction t generalizing line with
  | nil =>
    show [(small line).reverse] = [small line.reverse]
    rw [small_reverse]
  | cons p rest ih =>
    rw [small_cons, linesFrom, linesFrom]
    by_cases hp : p = .char '\n'
    · rw [if_pos hp, if_pos ((smallLetter_eq_iff (by decide)).mpr hp), dropReturn_small,
        ← small_reverse, List.map_cons]
      congr 1
      exact ih []
    · rw [if_neg hp, if_neg fun h => hp ((smallLetter_eq_iff (by decide)).mp h)]
      exact ih (p :: line)

theorem lines_small (t : Text) : lines (small t) = (lines t).map small :=
  linesFrom_small [] t

theorem numeral?_small (base : Nat) {value? : CodePoint → Option Nat}
    (h : ∀ p, value? (smallLetter p) = value? p) (t : Text) :
    numeral? base value? (small t) = numeral? base value? t := by
  have hcomp : value? ∘ smallLetter = value? := funext h
  unfold numeral? small
  rw [List.isEmpty_map, List.mapM_map, hcomp]

end Text

/-! ### Lines -/

namespace SourceLine

theorem hasInnerLineEnd_small (t : Text) : hasInnerLineEnd (small t) = hasInnerLineEnd t := by
  have hlast : (small t).dropLast = small t.dropLast := List.map_dropLast.symm
  rw [hasInnerLineEnd, hasInnerLineEnd, hlast, Bool.eq_iff_iff, List.contains_iff_mem,
    List.contains_iff_mem]
  exact mem_small_iff (by decide)

theorem label?_small (t : Text) :
    label? (small t) = (label? t).map fun (label, body) => (small label, small body) := by
  cases t with
  | nil => rfl
  | cons c rest =>
    have hgap : trimStart ((small rest).dropWhile isWordChar) =
        small (trimStart (rest.dropWhile isWordChar)) := by
      rw [dropWhile_small isWordChar_smallLetter, trimStart_small]
    rw [small_cons]
    by_cases hc : startsLabel c = true
    · by_cases hcolon : (trimStart (rest.dropWhile isWordChar)).head? = some (.char ':')
      · obtain ⟨after, hafter⟩ := List.head?_eq_some_iff.mp hcolon
        have hafter' : trimStart ((small rest).dropWhile isWordChar) =
            .char ':' :: small after := by
          rw [hgap, hafter]
          rfl
        rw [label?_of_colon hc hafter,
          label?_of_colon ((startsLabel_smallLetter c).trans hc) hafter', trimStart_small,
          hasInnerLineEnd_small, takeWhile_small isWordChar_smallLetter]
        split_ifs <;> rfl
      · have hcolon' := (not_congr (head?_small_eq_iff (by decide))).mpr hcolon
        rw [← hgap] at hcolon'
        rw [label?_of_no_colon c hcolon, label?_of_no_colon _ hcolon']
        rfl
    · rw [Bool.not_eq_true] at hc
      rw [label?_of_not_startsLabel hc,
        label?_of_not_startsLabel ((startsLabel_smallLetter c).trans hc)]
      rfl

theorem parse_small (line : Text) :
    parse (small line) = ⟨(parse line).label.map small, small (parse line).code⟩ := by
  unfold parse withoutComment ofText
  rw [before_small (by decide), trim_small, label?_small]
  cases label? (trim (before ';' line)) with
  | none => rfl
  | some parts =>
    show SourceLine.mk (some (small parts.1)) (trim (small parts.2)) = _
    rw [trim_small]
    rfl

theorem labelName_small (line : Text) : (parse (small line)).labelName = (parse line).labelName := by
  rw [labelName, parse_small, labelName]
  cases (parse line).label with
  | none => rfl
  | some label => exact congrArg some (upper_small label)

end SourceLine

theorem takesAddress_small (line : Text) : takesAddress (small line) = takesAddress line := by
  rw [Bool.eq_iff_iff, ← not_iff_not, Bool.not_eq_true, Bool.not_eq_true, takesAddress_eq_false_iff,
    takesAddress_eq_false_iff, SourceLine.parse_small]
  exact small_eq_nil_iff

theorem outline_small (line : Text) : outline (small line) = outline line := by
  rw [outline, SourceLine.labelName_small, takesAddress_small]
  rfl

theorem codeParts_small (code : Text) :
    codeParts (small code) = ((codeParts code).1, small (codeParts code).2) := by
  simp only [codeParts, trim_small, firstWord_small, upper_small]

/-! ### Tokens -/

namespace Literal

theorem splitSign_small (t : Text) :
    splitSign (small t) = ((splitSign t).1, small (splitSign t).2) := by
  cases t with
  | nil => rfl
  | cons p rest =>
    by_cases hplus : p = .char '+'
    · rw [hplus]
      rfl
    by_cases hminus : p = .char '-'
    · rw [hminus]
      rfl
    have hplus' := (not_congr (smallLetter_eq_iff (by decide))).mpr hplus
    have hminus' := (not_congr (smallLetter_eq_iff (by decide))).mpr hminus
    rw [small_cons, splitSign_of_no_sign hplus' hminus', splitSign_of_no_sign hplus hminus]
    rfl

theorem binaryValue?_smallLetter (p : CodePoint) : binaryValue? (smallLetter p) = binaryValue? p :=
  apply_smallLetter binaryValue? (by decide) p

theorem magnitude?_of_no_base {t : Text} (hdecimal : numeral? 10 digitValue? t = none)
    (hbase : ∀ x digits, t ≠ .char '0' :: x :: digits) : magnitude? t = none := by
  simp only [magnitude?, hdecimal]

/-- The letter after a leading zero gives the base, in either case. -/
theorem magnitude?_small (t : Text) : magnitude? (small t) = magnitude? t := by
  have hdecimal := numeral?_small 10 digitValue?_smallLetter t
  cases hvalue : numeral? 10 digitValue? t with
  | some n => simp only [magnitude?, hdecimal, hvalue, length_small]
  | none =>
    rw [hvalue] at hdecimal
    by_cases hbase : ∃ x digits, t = .char '0' :: x :: digits
    · obtain ⟨x, digits, rfl⟩ := hbase
      have hx := iff_smallLetter (fun p => p = .char 'x' ∨ p = .char 'X') (by decide) x
      have hb := iff_smallLetter (fun p => p = .char 'b' ∨ p = .char 'B') (by decide) x
      have hfilter := @filter_ne_small '_' (by decide) digits
      have hzero : small (.char '0' :: x :: digits) = .char '0' :: smallLetter x :: small digits :=
        rfl
      rw [hzero] at hdecimal ⊢
      simp only [magnitude?, hdecimal, hvalue, hx, hb, numeral?_small 16 hexValue?_smallLetter,
        hfilter, numeral?_small 2 binaryValue?_smallLetter]
    · have hbase' : ∀ x digits, small t ≠ .char '0' :: x :: digits := by
        intro x digits h
        obtain ⟨p, rest, rfl, hp, hrest⟩ := List.map_eq_cons_iff.mp h
        obtain ⟨y, digits', rfl, -, -⟩ := List.map_eq_cons_iff.mp hrest
        exact hbase ⟨y, digits', by rw [(smallLetter_eq_iff (by decide)).mp hp]⟩
      rw [magnitude?_of_no_base hdecimal hbase', magnitude?_of_no_base hvalue (by simpa using hbase)]

theorem parse?_small (token : Text) : parse? (small token) = parse? token := by
  simp only [parse?, trim_small, splitSign_small, magnitude?_small]

end Literal

namespace Token

theorem split_small (text : Text) : split (small text) = (split text).map small := by
  unfold split
  rw [trim_small]
  cases trim text with
  | nil => rfl
  | cons p rest =>
    show (splitAt ',' (small (p :: rest))).map trim = ((splitAt ',' (p :: rest)).map trim).map small
    rw [splitAt_small (by decide), List.map_map, List.map_map]
    exact List.map_congr_left fun piece _ => trim_small piece

theorem registerNumber?_small (t : Text) : registerNumber? (small t) = registerNumber? t := by
  cases t with
  | nil => rfl
  | cons r digits =>
    have hr := iff_smallLetter (fun p => p = .char 'r' ∨ p = .char 'R') (by decide) r
    simp only [small_cons, registerNumber?, hr, length_small,
      numeral?_small 10 digitValue?_smallLetter]

theorem insideBrackets?_small (t : Text) :
    insideBrackets? (small t) = (insideBrackets? t).map small := by
  cases t with
  | nil => rfl
  | cons p rest =>
    by_cases hp : p = .char '['
    · have hlast : (small rest).getLast? = some (.char ']') ↔ rest.getLast? = some (.char ']') := by
        rw [List.getLast?_eq_head?_reverse, ← small_reverse, head?_small_eq_iff (by decide),
          List.getLast?_eq_head?_reverse]
      have hinit : (small rest).dropLast = small rest.dropLast := List.map_dropLast.symm
      have hfeed : (small (trim rest.dropLast)).contains (.char '\n') =
          (trim rest.dropLast).contains (.char '\n') := by
        rw [Bool.eq_iff_iff, List.contains_iff_mem, List.contains_iff_mem]
        exact mem_small_iff (by decide)
      have hopen : smallLetter (.char '[') = .char '[' := rfl
      rw [hp, small_cons, hopen]
      simp only [insideBrackets?, hlast, hinit, trim_small, hfeed]
      split_ifs <;> rfl
    · have hp' := (not_congr (smallLetter_eq_iff (by decide))).mpr hp
      unfold insideBrackets?
      split
      · rename_i h
        exact absurd (List.cons.inj h).1 hp'
      split
      · rename_i h
        exact absurd (List.cons.inj h).1 hp
      rfl

theorem labelKey_small (t : Text) : labelKey (small t) = labelKey t := by
  have hf : ∀ p, decide (smallLetter p = .char ':') = decide (p = .char ':') := fun p =>
    decide_eq_decide.mpr (smallLetter_eq_iff (by decide))
  unfold labelKey
  rw [← small_reverse, dropWhile_small hf, ← small_reverse, upper_small]

end Token

/-! ### Faults -/

/-- What a fault is about, without the texts that it quotes. -/
inductive LineFault.Kind where
  | unknownMnemonic
  | badOperands
  | invalidRegister
  | unresolvedSymbol
  | other
  deriving DecidableEq, Repr

/-- The kind of a fault. -/
def LineFault.kind : LineFault → Kind
  | .unknownMnemonic .. => .unknownMnemonic
  | .badOperands .. => .badOperands
  | .invalidRegister .. => .invalidRegister
  | .unresolvedSymbol .. => .unresolvedSymbol
  | .other .. => .other

/-- Two results are the same value, or faults of the same kind. -/
inductive Alike {α : Type} : Except LineFault α → Except LineFault α → Prop
  | ok (a : α) : Alike (.ok a) (.ok a)
  | error {fault fault' : LineFault} (h : fault.kind = fault'.kind) :
      Alike (.error fault) (.error fault')

namespace Alike

variable {α β : Type} {x y z : Except LineFault α}

theorem refl (x : Except LineFault α) : Alike x x := by
  cases x with
  | ok a => exact .ok a
  | error fault => exact .error rfl

theorem symm (h : Alike x y) : Alike y x := by
  cases h with
  | ok a => exact .ok a
  | error hkind => exact .error hkind.symm

theorem trans (h : Alike x y) (h' : Alike y z) : Alike x z := by
  cases h with
  | ok a => exact h'
  | error hkind =>
    cases h' with
    | error hkind' => exact .error (hkind.trans hkind')

theorem map (h : Alike x y) (f : α → β) : Alike (x.map f) (y.map f) := by
  cases h with
  | ok a => exact .ok (f a)
  | error hkind => exact .error hkind

theorem bind (h : Alike x y) {f g : α → Except LineFault β} (hfg : ∀ a, Alike (f a) (g a)) :
    Alike (x >>= f) (y >>= g) := by
  cases h with
  | ok a => exact hfg a
  | error hkind => exact .error hkind

theorem isOk_eq (h : Alike x y) : x.isOk = y.isOk := by
  cases h <;> rfl

theorem toOption_eq (h : Alike x y) : x.toOption = y.toOption := by
  cases h <;> rfl

theorem map_kind_fault?_eq {x y : Attempt LineFault α} (h : Alike x.outcome y.outcome) :
    x.fault?.map LineFault.kind = y.fault?.map LineFault.kind := by
  unfold Attempt.fault?
  generalize x.outcome = u at h ⊢
  generalize y.outcome = v at h ⊢
  cases h with
  | ok a => rfl
  | error hkind => exact congrArg some hkind

end Alike

namespace Token

theorem register_small (token : Text) : Alike (register (small token)) (register token) := by
  simp only [register, trim_small, registerNumber?_small]
  cases registerNumber? (trim token) with
  | some n => exact .ok n
  | none => exact .error rfl

theorem indirect_small (mnemonic expected token : Text) :
    Alike (indirect mnemonic expected (small token)) (indirect mnemonic expected token) := by
  simp only [indirect, trim_small, insideBrackets?_small]
  cases insideBrackets? (trim token) with
  | some inner => exact register_small inner
  | none => exact .error rfl

theorem value_small (labels : LabelTable) (token : Text) :
    Alike (value labels (small token)) (value labels token) := by
  simp only [value, trim_small, Literal.parse?_small, labelKey_small]
  cases Literal.parse? (trim token) with
  | some n => exact .ok n
  | none =>
    cases labels.find? (labelKey (trim token)) with
    | some address => exact .ok address
    | none => exact .error rfl

theorem displacement_small (labels : LabelTable) (pc : Int) (token : Text) :
    Alike (displacement labels pc (small token)) (displacement labels pc token) := by
  unfold displacement
  rw [Literal.parse?_small]
  cases Literal.parse? token with
  | some n => exact .ok n
  | none => exact (value_small labels token).map _

theorem value_condition_small (token : Text) :
    (condition (small token)).value = (condition token).value := by
  simp only [condition, trim_small, upper_small]
  cases conditionCode? (upper (trim token)) <;> rfl

end Token

/-- A token is read as before in either case, or refused for the same kind of fault. -/
theorem Slot.reading_small (ctx : Operands.Context) (slot : Slot) (token : Text) :
    Alike (slot.reading ctx (small token)) (slot.reading ctx token) := by
  cases slot with
  | register role => exact (Token.register_small token).map _
  | indirect role => exact (Token.indirect_small ..).map _
  | immediate | target => exact Token.value_small ctx.labels token
  | condition =>
    show Alike (.ok (((Token.condition (small token)).value : Nat) : Int)) _
    rw [Token.value_condition_small]
    exact .ok _
  | displacement => exact Token.displacement_small ctx.labels ctx.pc token

namespace Operands

theorem outcome_readAll_small (ctx : Context) (v : Operands) (slots : List Slot)
    (tokens : List Text) :
    Alike (readAll ctx v slots (tokens.map small)).outcome
      (readAll ctx v slots tokens).outcome := by
  induction slots generalizing v tokens with
  | nil => exact .refl _
  | cons slot slots ih =>
    cases tokens with
    | nil => exact .refl _
    | cons token tokens =>
      rw [List.map_cons, outcome_readAll_cons, outcome_readAll_cons]
      exact (slot.reading_small ctx token).bind fun n => ih (slot.store v n) tokens

theorem outcome_parse_small (rule : Rule) (tokens : List Text) (labels : LabelTable) (pc : Int) :
    Alike (parse rule (tokens.map small) labels pc).outcome
      (parse rule tokens labels pc).outcome := by
  unfold parse
  rw [List.length_map]
  split_ifs
  · exact .refl _
  · exact .refl _
  · exact outcome_readAll_small ..

end Operands

namespace RuleTable

variable (t : RuleTable)

theorem outcome_wordOf_small (code : Text) (pc : Int) (labels : LabelTable) :
    Alike (t.wordOf (small code) pc labels).outcome (t.wordOf code pc labels).outcome := by
  have hmnemonic : (codeParts (small code)).1 = (codeParts code).1 := by rw [codeParts_small]
  cases hrule : t.find? (codeParts code).1 with
  | none =>
    rw [outcome_wordOf_of_none hrule, outcome_wordOf_of_none (by rw [hmnemonic, hrule]), hmnemonic]
    exact .refl _
  | some rule =>
    rw [outcome_wordOf_of_some hrule, outcome_wordOf_of_some (by rw [hmnemonic, hrule]),
      codeParts_small, Token.split_small]
    exact (Operands.outcome_parse_small ..).map _

end RuleTable

/-! ### Programs -/

/-- Two lines have the same result but for the texts that a fault quotes. -/
structure Line.SameUpToCase (line line' : Line) : Prop where
  status_eq : line.status = line'.status
  pc_eq : line.pc = line'.pc
  mnemonic_eq : line.mnemonic = line'.mnemonic
  word_eq : line.word = line'.word
  kind_eq : line.error.map (·.fault.kind) = line'.error.map (·.fault.kind)
  hex_eq : line.hex = line'.hex
  binary_eq : line.binary = line'.binary
  segmented_eq : line.segmented = line'.segmented

/-- The forms of a word are those of the same word. -/
theorem Line.SameUpToCase.of_word {line line' : Line} (hstatus : line.status = line'.status)
    (hpc : line.pc = line'.pc) (hmnemonic : line.mnemonic = line'.mnemonic)
    (hword : line.word = line'.word)
    (hkind : line.error.map (·.fault.kind) = line'.error.map (·.fault.kind)) :
    line.SameUpToCase line' where
  status_eq := hstatus
  pc_eq := hpc
  mnemonic_eq := hmnemonic
  word_eq := hword
  kind_eq := hkind
  hex_eq := by rw [hex, hword, hex]
  binary_eq := by rw [binary, hword, binary]
  segmented_eq := by rw [segmented, hword, hmnemonic, segmented]

namespace RuleTable

variable (t : RuleTable) (filename : Text)

theorem sameUpToCase_lineOf (labels : LabelTable) (number pc : Nat) {text text' : Text}
    (h : small text = small text') :
    (t.lineOf labels filename number text pc).value.SameUpToCase
      (t.lineOf labels filename number text' pc).value := by
  have htakes : takesAddress text = takesAddress text' := by
    rw [← takesAddress_small, h, takesAddress_small]
  have hparse := SourceLine.parse_small text
  rw [h, SourceLine.parse_small, SourceLine.mk.injEq] at hparse
  obtain ⟨hlabel, hcode⟩ := hparse
  have hsome := congrArg Option.isSome hlabel
  rw [Option.isSome_map, Option.isSome_map] at hsome
  have hmnemonic : (codeParts (SourceLine.parse text).code).1 =
      (codeParts (SourceLine.parse text').code).1 := by
    have hparts := codeParts_small (SourceLine.parse text).code
    rw [← hcode, codeParts_small] at hparts
    exact (congrArg Prod.fst hparts).symm
  have hword : Alike (t.wordOf (SourceLine.parse text).code pc labels).outcome
      (t.wordOf (SourceLine.parse text').code pc labels).outcome := by
    have hsmall := t.outcome_wordOf_small (SourceLine.parse text).code pc labels
    rw [← hcode] at hsmall
    exact hsmall.symm.trans (t.outcome_wordOf_small ..)
  apply Line.SameUpToCase.of_word
  · rw [status_value_lineOf, status_value_lineOf, htakes, hword.isOk_eq, hsome]
  · rw [pc_value_lineOf, pc_value_lineOf, htakes]
  · rw [mnemonic_value_lineOf, mnemonic_value_lineOf, htakes, hmnemonic]
  · rw [word_value_lineOf, word_value_lineOf, htakes, hword.toOption_eq]
  · have hkind := hword.map_kind_fault?_eq
    rw [error_value_lineOf, error_value_lineOf, htakes]
    split_ifs
    · rw [Option.map_map, Option.map_map]
      exact hkind
    · rfl

/-- **The case of letters does not matter.**  Two sources that differ in the case of ASCII letters
only have the same labels, and line by line the same status, address, mnemonic and word, in all its
forms, or a fault of the same kind. -/
theorem letter_case_is_ignored {source source' : Text} (h : small source = small source') :
    let program := (t.assemble source filename).value
    let program' := (t.assemble source' filename).value
    program.labels = program'.labels ∧
      List.Forall₂ Line.SameUpToCase program.lines program'.lines := by
  apply forall₂_lines_assemble
  have hlines : (sourceLines source).map small = (sourceLines source').map small := by
    unfold sourceLines
    rw [← lines_small, h, lines_small]
  rw [← List.forall₂_eq_eq_eq, List.forall₂_map_left_iff, List.forall₂_map_right_iff] at hlines
  refine hlines.imp fun text text' htext => ⟨?_, fun labels number pc => ?_⟩
  · rw [← outline_small, htext, outline_small]
  · exact t.sameUpToCase_lineOf filename labels number pc htext

/-- Labels, numbers, a condition, an unknown mnemonic and an unknown name in other letters. -/
theorem letter_case_is_ignored_in_jumps :
    let t : RuleTable := ⟨[⟨"JMP", "P", .absolute, [⟨0, 16, .immediate "P"⟩]⟩,
      ⟨"B", "C, O", .conditional, [⟨0, 16, .immediate "O"⟩]⟩]⟩
    let source : Text := "Top: jmp 0xAb ; Go\nb eq, tOP:\njmp 0B1_0\nfoo\nJmp Up"
    let source' : Text := "TOP: JMP 0XaB ; gO\nB Eq, Top:\nJmp 0b1_0\nFOO\njmp uP"
    let program := (t.assemble source "<input>").value
    let program' := (t.assemble source' "<input>").value
    small source = small source' ∧
      program'.lines.map Line.word = [some 171, some 32766, some 2, none, none] ∧
      program.labels = program'.labels ∧
      List.Forall₂ Line.SameUpToCase program.lines program'.lines := by
  intro t source source' program program'
  have hsource : small source = small source' := by decide +kernel
  exact ⟨hsource, by decide +kernel, letter_case_is_ignored t "<input>" hsource⟩

end RuleTable

end GridAsm
