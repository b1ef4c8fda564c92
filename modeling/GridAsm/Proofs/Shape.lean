import GridAsm.Proofs.Squeeze
import Mathlib.Logic.Relation

/-!
# Operand shapes are told apart

A rule's operand text has one of seven shapes, or none (`Shape.Fits`).  Five shapes are given by
words and marks that follow each other with any blanks between them, the other two by keywords.
`Shape.classify` does not look for the five one by one: it squeezes the text and compares what is
left (`spells_squeeze_iff`).

A shape that fits is the answer (`classify_of_fits`), so no two shapes fit one text, and the order
in which they are tried is free.
-/

namespace GridAsm

open Text

namespace Shape

/-! ### Spelled shapes -/

/-- A text spells words and marks, in letters of any case and with any blanks between them. -/
def SpellsSpaced (words : List String) (t : Text) : Prop :=
  ∃ ws, List.Forall₂ (fun word w => spells word w = true) words ws ∧ Spaced ws t

theorem isMark_of_spells {word : String} {w : Text} (h : spells word w = true)
    (hword : IsMark (ofString word)) : IsMark w := by
  refine ⟨?_, fun p hp => ?_⟩
  · have hlength := congrArg List.length (spells_iff.mp h)
    rw [List.length_map, List.length_map] at hlength
    rw [hlength]
    exact hword.1
  · obtain ⟨q, hq, hfold⟩ := exists_of_mem_of_spells h hp
    rw [← isPunctuation_foldLetter, hfold, isPunctuation_foldLetter]
    exact hword.2 q hq

theorem isPlain_of_spells {word : String} {w : Text} (h : spells word w = true)
    (hword : IsPlain (ofString word)) : IsPlain w := by
  intro p hp
  obtain ⟨q, hq, hfold⟩ := exists_of_mem_of_spells h hp
  rw [← isPunctuation_foldLetter, ← isBlank_foldLetter, hfold, isPunctuation_foldLetter,
    isBlank_foldLetter]
  exact hword q hq

section

variable {words : List String} {ws : List Text}
  (h : List.Forall₂ (fun word w => spells word w = true) words ws)

include h

theorem mark_or_plain_of_spells (hwords : ∀ w ∈ words.map ofString, IsMark w ∨ IsPlain w) :
    ∀ w ∈ ws, IsMark w ∨ IsPlain w := by
  induction h with
  | nil => simp
  | cons hw _ ih =>
    rw [List.map_cons, List.forall_mem_cons] at hwords
    rw [List.forall_mem_cons]
    exact ⟨hwords.1.imp (isMark_of_spells hw) (isPlain_of_spells hw), ih hwords.2⟩

theorem isChain_of_spells
    (hwords : (words.map ofString).IsChain fun w w' => IsMark w ∨ IsMark w') :
    ws.IsChain fun w w' => IsMark w ∨ IsMark w' := by
  induction h with
  | nil => exact .nil
  | cons hw hrest ih =>
    cases hrest with
    | nil => exact .singleton _
    | cons hw' _ =>
      rw [List.map_cons, List.map_cons, List.isChain_cons_cons] at hwords
      rw [List.isChain_cons_cons]
      exact ⟨hwords.1.imp (isMark_of_spells hw) (isMark_of_spells hw'), ih hwords.2⟩

/-- What spells words and marks is made of words and marks. -/
theorem alternates_of_spells (hwords : Alternates (words.map ofString)) : Alternates ws where
  ne_nil := by
    rintro rfl
    cases h
    exact hwords.ne_nil rfl
  mark_or_plain := mark_or_plain_of_spells h hwords.mark_or_plain
  isChain := isChain_of_spells h hwords.isChain

theorem map_flatten_of_spells :
    ws.flatten.map foldLetter = (words.map ofString).flatten.map foldLetter := by
  induction h with
  | nil => rfl
  | cons hw _ ih =>
    rw [List.flatten_cons, List.map_append, spells_iff.mp hw, ih, List.map_cons, List.flatten_cons,
      List.map_append]

end

theorem exists_flatten_of_map {words : List String} {u : Text}
    (h : u.map foldLetter = (words.map ofString).flatten.map foldLetter) :
    ∃ ws, List.Forall₂ (fun word w => spells word w = true) words ws ∧ u = ws.flatten := by
  induction words generalizing u with
  | nil => exact ⟨[], .nil, List.map_eq_nil_iff.mp h⟩
  | cons word words ih =>
    rw [List.map_cons, List.flatten_cons, List.map_append, List.map_eq_append_iff] at h
    obtain ⟨w, u, rfl, hw, hu⟩ := h
    obtain ⟨ws, hws, rfl⟩ := ih hu
    exact ⟨w :: ws, .cons (spells_iff.mpr hw) hws, rfl⟩

/-- Squeezing finds the texts that spell words and marks. -/
theorem spells_squeeze_iff {spelled : String} {words : List String}
    (hwords : Alternates (words.map ofString))
    (hspelled : ofString spelled = (words.map ofString).flatten) {t : Text} (ht : Trimmed t) :
    spells spelled (squeeze t) = true ↔ SpellsSpaced words t := by
  rw [spells_iff, hspelled]
  constructor
  · intro h
    obtain ⟨ws, hws, hsqueeze⟩ := exists_flatten_of_map h
    exact ⟨ws, hws, spaced_of_squeeze (alternates_of_spells hws hwords) ht hsqueeze⟩
  · rintro ⟨ws, hws, hspaced⟩
    rw [squeeze_of_spaced (alternates_of_spells hws hwords) hspaced]
    exact map_flatten_of_spells hws

/-- A text that spells words and marks has their keywords only. -/
theorem hasWord_of_spellsSpaced (keyword : String) {words : List String}
    (hwords : Alternates (words.map ofString)) {t : Text} (h : SpellsSpaced words t) :
    hasWord keyword t = hasWord keyword (words.map ofString).flatten := by
  obtain ⟨ws, hws, hspaced⟩ := h
  rw [hasWord_of_spaced keyword (alternates_of_spells hws hwords) hspaced,
    ← hasWord_map isWordChar_foldLetter foldLetter_foldLetter, map_flatten_of_spells hws,
    hasWord_map isWordChar_foldLetter foldLetter_foldLetter]

/-! ### The seven shapes -/

/-- The words and marks of the shapes that are spelled out. -/
def words : Shape → List String
  | .threeRegisters => ["rd", ",", "rs", ",", "rt"]
  | .twoRegisters => ["rd", ",", "rs"]
  | .registerImmediate => ["rd", ",", "Y"]
  | .registerIndirect => ["rd", ",", "[", "rs", "]"]
  | .indirectRegister => ["[", "rs", "]", ",", "rt"]
  | .absolute | .conditional | .unsupported => []

/-- A text has one of the keywords for a condition. -/
def NamesCondition (t : Text) : Prop :=
  HasKeyword "cond" t ∨ HasKeyword "bcond" t

/-- An operand text has a shape. -/
def Fits (s : Shape) (operands : Text) : Prop :=
  match s with
  | .absolute => HasKeyword "P" (trim operands) ∧ ¬ NamesCondition (trim operands)
  | .conditional => NamesCondition (trim operands) ∧ HasKeyword "O" (trim operands)
  | .unsupported => False
  | spelled => SpellsSpaced spelled.words (trim operands)

theorem hasCondition_iff {t : Text} : hasCondition t = true ↔ NamesCondition t := by
  unfold hasCondition
  rw [Bool.or_eq_true, hasWord_iff (by decide) (by decide), hasWord_iff (by decide) (by decide)]
  rfl

/-- The spelled shapes are those words and marks without blanks, and have no keywords. -/
theorem spelledShapes_spec :
    ∀ entry ∈ spelledShapes,
      Alternates (entry.2.words.map ofString) ∧
      ofString entry.1 = (entry.2.words.map ofString).flatten ∧
      hasCondition (entry.2.words.map ofString).flatten = false ∧
      hasWord "P" (entry.2.words.map ofString).flatten = false := by
  decide

theorem spelledShapes_distinct :
    ∀ entry ∈ spelledShapes, ∀ entry' ∈ spelledShapes,
      (ofString entry.1).map foldLetter = (ofString entry'.1).map foldLetter →
      entry.2 = entry'.2 := by
  decide

theorem fits_iff_spellsSpaced {spelled : String} {s : Shape} (h : (spelled, s) ∈ spelledShapes)
    {operands : Text} : Fits s operands ↔ SpellsSpaced s.words (trim operands) := by
  simp only [spelledShapes, List.mem_cons, Prod.mk.injEq, List.not_mem_nil, or_false] at h
  rcases h with ⟨-, rfl⟩ | ⟨-, rfl⟩ | ⟨-, rfl⟩ | ⟨-, rfl⟩ | ⟨-, rfl⟩ <;> rfl

theorem fits_iff_spells {spelled : String} {s : Shape} (h : (spelled, s) ∈ spelledShapes)
    {operands : Text} : Fits s operands ↔ spells spelled (squeeze (trim operands)) = true := by
  obtain ⟨hwords, hspelled, -, -⟩ := spelledShapes_spec _ h
  rw [fits_iff_spellsSpaced h, spells_squeeze_iff hwords hspelled (trimmed_trim operands)]

theorem fits_absolute_iff {operands : Text} :
    Fits .absolute operands ↔
      hasWord "P" (trim operands) = true ∧ ¬ hasCondition (trim operands) = true := by
  rw [hasWord_iff (by decide) (by decide), hasCondition_iff]
  rfl

theorem fits_conditional_iff {operands : Text} :
    Fits .conditional operands ↔
      hasCondition (trim operands) = true ∧ hasWord "O" (trim operands) = true := by
  rw [hasWord_iff (by decide) (by decide), hasCondition_iff]
  rfl

instance (s : Shape) (operands : Text) : Decidable (Fits s operands) :=
  match s with
  | .threeRegisters =>
    decidable_of_iff (spells "rd,rs,rt" (squeeze (trim operands)) = true)
      (fits_iff_spells (by decide)).symm
  | .twoRegisters =>
    decidable_of_iff (spells "rd,rs" (squeeze (trim operands)) = true)
      (fits_iff_spells (by decide)).symm
  | .registerImmediate =>
    decidable_of_iff (spells "rd,Y" (squeeze (trim operands)) = true)
      (fits_iff_spells (by decide)).symm
  | .registerIndirect =>
    decidable_of_iff (spells "rd,[rs]" (squeeze (trim operands)) = true)
      (fits_iff_spells (by decide)).symm
  | .indirectRegister =>
    decidable_of_iff (spells "[rs],rt" (squeeze (trim operands)) = true)
      (fits_iff_spells (by decide)).symm
  | .absolute => decidable_of_iff _ fits_absolute_iff.symm
  | .conditional => decidable_of_iff _ fits_conditional_iff.symm
  | .unsupported => .isFalse id

/-! ### Classification -/

/-- The spelled shape, or else the shape by keywords. -/
theorem classify_eq (operands : Text) :
    classify operands =
      ((spelledShapes.find? fun entry =>
          spells entry.1 (squeeze (trim operands))).map Prod.snd).getD
        (if hasCondition (trim operands) then
          if hasWord "O" (trim operands) then .conditional else .unsupported
        else if hasWord "P" (trim operands) then .absolute
        else .unsupported) := by
  unfold classify
  dsimp only
  split
  case h_1 spelled s hfind =>
    have hfind' : (spelledShapes.find? fun entry => spells entry.1 (squeeze (trim operands))) =
        some (spelled, s) := hfind
    rw [hfind']
    rfl
  case h_2 hfind =>
    have hfind' : (spelledShapes.find? fun entry => spells entry.1 (squeeze (trim operands))) =
        none := hfind
    rw [hfind']
    rfl

theorem classify_of_not_spelled {operands : Text}
    (h : ∀ entry ∈ spelledShapes, ¬ spells entry.1 (squeeze (trim operands)) = true) :
    classify operands =
      if hasCondition (trim operands) then
        if hasWord "O" (trim operands) then .conditional else .unsupported
      else if hasWord "P" (trim operands) then .absolute
      else .unsupported := by
  rw [classify_eq, List.find?_eq_none.mpr h]
  rfl

theorem classify_of_spelled {spelled : String} {s : Shape} (h : (spelled, s) ∈ spelledShapes)
    {operands : Text} (hspells : spells spelled (squeeze (trim operands)) = true) :
    classify operands = s := by
  have hsome : (spelledShapes.find? fun entry =>
      spells entry.1 (squeeze (trim operands))).isSome = true :=
    List.find?_isSome.mpr ⟨_, h, hspells⟩
  obtain ⟨entry, hfind⟩ := Option.isSome_iff_exists.mp hsome
  have hentry := List.find?_some hfind
  rw [classify_eq, hfind]
  exact spelledShapes_distinct entry (List.mem_of_find?_eq_some hfind) _ h
    ((spells_iff.mp hentry).symm.trans (spells_iff.mp hspells))

/-- A text with one of the keywords spells no other shape. -/
theorem not_spelled_of_keyword {operands : Text}
    (h : hasCondition (trim operands) = true ∨ hasWord "P" (trim operands) = true) :
    ∀ entry ∈ spelledShapes, ¬ spells entry.1 (squeeze (trim operands)) = true := by
  intro entry hentry hspells
  obtain ⟨hwords, hspelled, hcondition, hword⟩ := spelledShapes_spec entry hentry
  have hspaced := (spells_squeeze_iff hwords hspelled (trimmed_trim operands)).mp hspells
  have hkeyword : ∀ keyword, hasWord keyword (trim operands) =
      hasWord keyword (entry.2.words.map ofString).flatten :=
    fun keyword => hasWord_of_spellsSpaced keyword hwords hspaced
  unfold hasCondition at h hcondition
  rw [hkeyword, hkeyword, hkeyword, hcondition, hword] at h
  exact h.elim Bool.false_ne_true Bool.false_ne_true

theorem classify_of_fits {s : Shape} {operands : Text} (h : Fits s operands) :
    classify operands = s := by
  have hspelled : ∀ spelled, (spelled, s) ∈ spelledShapes → classify operands = s :=
    fun spelled hmem => classify_of_spelled hmem ((fits_iff_spells hmem).mp h)
  cases s with
  | threeRegisters => exact hspelled "rd,rs,rt" (by decide)
  | twoRegisters => exact hspelled "rd,rs" (by decide)
  | registerImmediate => exact hspelled "rd,Y" (by decide)
  | registerIndirect => exact hspelled "rd,[rs]" (by decide)
  | indirectRegister => exact hspelled "[rs],rt" (by decide)
  | absolute =>
    obtain ⟨hword, hcondition⟩ := fits_absolute_iff.mp h
    rw [classify_of_not_spelled (not_spelled_of_keyword (.inr hword)), if_neg hcondition,
      if_pos hword]
  | conditional =>
    obtain ⟨hcondition, hword⟩ := fits_conditional_iff.mp h
    rw [classify_of_not_spelled (not_spelled_of_keyword (.inl hcondition)), if_pos hcondition,
      if_pos hword]
  | unsupported => exact h.elim

theorem fits_classify {operands : Text} (h : classify operands ≠ .unsupported) :
    Fits (classify operands) operands := by
  by_cases hspelled : ∃ entry ∈ spelledShapes, spells entry.1 (squeeze (trim operands)) = true
  · obtain ⟨⟨spelled, s⟩, hmem, hspells⟩ := hspelled
    rw [classify_of_spelled hmem hspells]
    exact (fits_iff_spells hmem).mpr hspells
  · have hclassify := classify_of_not_spelled fun entry hmem hspells =>
      hspelled ⟨entry, hmem, hspells⟩
    split_ifs at hclassify with hcondition hword hword
    · rw [hclassify]
      exact fits_conditional_iff.mpr ⟨hcondition, hword⟩
    · exact absurd hclassify h
    · rw [hclassify]
      exact fits_absolute_iff.mpr ⟨hword, hcondition⟩
    · exact absurd hclassify h

/-- The shapes that instructions can have. -/
def supported : List Shape :=
  [.threeRegisters, .twoRegisters, .registerImmediate, .registerIndirect, .indirectRegister,
   .absolute, .conditional]

theorem mem_supported {s : Shape} : s ≠ .unsupported → s ∈ supported := by
  cases s <;> decide

/-- Whatever the order in which the shapes are tried, the first that fits is the answer. -/
theorem find?_fits {order : List Shape} (horder : order.Perm supported) (operands : Text) :
    (order.find? (Fits · operands)).getD .unsupported = classify operands := by
  cases hfind : order.find? (Fits · operands) with
  | some s =>
    have hs : Fits s operands := of_decide_eq_true (List.find?_some (p := (Fits · operands)) hfind)
    exact (classify_of_fits hs).symm
  | none =>
    by_contra hne
    have hmem : classify operands ∈ order := horder.mem_iff.mpr (mem_supported (Ne.symm hne))
    have hfits : ¬ decide (Fits (classify operands) operands) = true :=
      List.find?_eq_none.mp hfind _ hmem
    exact hfits (decide_eq_true (fits_classify (Ne.symm hne)))

/-! ### Case and blanks -/

theorem classify_congr {t t' : Text}
    (hspells : ∀ spelled, spells spelled (squeeze (trim t')) = spells spelled (squeeze (trim t)))
    (hword : ∀ keyword, hasWord keyword t' = hasWord keyword t) : classify t' = classify t := by
  have htrim : ∀ keyword, hasWord keyword (trim t') = hasWord keyword (trim t) := by
    intro keyword
    rw [hasWord_congr (wordRuns_trim t'), hasWord_congr (wordRuns_trim t), hword]
  unfold classify hasCondition
  simp only [hspells, htrim]

theorem classify_small (t : Text) : classify (small t) = classify t := by
  apply classify_congr
  · intro spelled
    rw [trim_small, squeeze_small]
    exact spells_map foldLetter_smallLetter spelled _
  · exact fun keyword => hasWord_map isWordChar_smallLetter foldLetter_smallLetter keyword t

end Shape

namespace Text

/-- Blanks were put in at an end of a text or next to a mark. -/
def BlanksInserted (t t' : Text) : Prop :=
  ∃ a b c, t = a ++ c ∧ t' = a ++ (b ++ c) ∧ allBlank b = true ∧
    ((a = [] ∨ Shape.EndsMarked a) ∨ (c = [] ∨ Shape.StartsMarked c))

end Text

namespace Shape

theorem classify_of_blanksInserted {t t' : Text} (h : BlanksInserted t t') :
    classify t' = classify t := by
  obtain ⟨a, b, c, rfl, rfl, hb, hborder⟩ := h
  apply classify_congr
  · intro spelled
    rw [squeeze_trim_insert hb hborder]
  · refine hasWord_congr (wordRuns_insert (isWordChar_of_allBlank hb) (hborder.imp ?_ ?_))
    · rintro (rfl | h)
      · exact endsApart_nil
      · exact h.endsApart
    · rintro (rfl | h)
      · exact startsApart_nil
      · exact h.startsApart

/-- **Operand shapes are told apart.**  At most one shape fits an operand text, so the answer does
not depend on the order in which the shapes are tried, and a text is unsupported just if none fits.
Neither the case of letters nor blanks at the ends and next to marks change the answer. -/
theorem classify_unambiguous (operands : Text) :
    (∀ s s', Fits s operands → Fits s' operands → s = s') ∧
    (∀ order : List Shape, order.Perm supported →
      (order.find? (Fits · operands)).getD .unsupported = classify operands) ∧
    (classify operands = .unsupported ↔ ∀ s, ¬ Fits s operands) ∧
    (∀ operands', small operands' = small operands → classify operands' = classify operands) ∧
    ∀ operands', Relation.EqvGen BlanksInserted operands operands' →
      classify operands' = classify operands := by
  refine ⟨fun s s' hs hs' => ?_, fun order horder => find?_fits horder operands, ⟨?_, ?_⟩, ?_, ?_⟩
  · rw [← classify_of_fits hs, ← classify_of_fits hs']
  · intro h s hs
    rw [classify_of_fits hs] at h
    rw [h] at hs
    exact hs
  · intro h
    by_contra hne
    exact h _ (fits_classify hne)
  · intro operands' h
    rw [← classify_small operands', h, classify_small]
  · intro operands' h
    induction h with
    | rel t t' h => exact classify_of_blanksInserted h
    | refl t => rfl
    | symm t t' _ ih => exact ih.symm
    | trans t t' t'' _ _ ih ih' => exact ih'.trans ih

/-- A text with the keywords of both kinds is a conditional branch. -/
theorem classify_unambiguous_of_three_keywords :
    Fits .conditional "bcond ,P+O" ∧ (∀ s, Fits s "bcond ,P+O" → s = .conditional) ∧
    supported.reverse.Perm supported ∧
    (supported.reverse.find? (Fits · "bcond ,P+O")).getD .unsupported = .conditional ∧
    small "BCOND ,p+o" = small "bcond ,P+O" ∧ classify "BCOND ,p+o" = .conditional ∧
    BlanksInserted "bcond,P+O" "bcond ,P+O" ∧ classify "bcond,P+O" = .conditional := by
  have hfits : Fits .conditional "bcond ,P+O" := by decide
  have hanswer : classify "bcond ,P+O" = .conditional := by decide
  have hsmall : small "BCOND ,p+o" = small "bcond ,P+O" := by decide
  have hblanks : BlanksInserted "bcond,P+O" "bcond ,P+O" :=
    ⟨"bcond", " ", ",P+O", by decide, by decide, by decide,
      .inr (.inr ⟨.char ',', "P+O", by decide, by decide⟩)⟩
  obtain ⟨hunique, horder, -, hcase, hspace⟩ := classify_unambiguous "bcond ,P+O"
  refine ⟨hfits, fun s hs => hunique s _ hs hfits, supported.reverse_perm, ?_, hsmall, ?_, hblanks,
    ?_⟩
  · rw [horder _ supported.reverse_perm, hanswer]
  · rw [hcase _ hsmall, hanswer]
  · rw [hspace _ (.symm _ _ (.rel _ _ hblanks)), hanswer]

end Shape

end GridAsm
