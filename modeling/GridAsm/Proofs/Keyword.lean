import GridAsm.Proofs.LetterCase
import GridAsm.Shape

/-!
# Words and keywords

`Text.wordRuns` lists the words of a text, which are its longest runs of word characters.  A text
that is cut next to a code point that is no word character has the words of its two parts
(`wordRuns_append`), so blanks may be put in at such a place (`wordRuns_insert`).

A text has a keyword where the keyword is spelled, in letters of any case, and no word character
stands right before or right after it (`Text.HasKeyword`).  `Shape.hasWord` finds exactly those
(`hasWord_iff`).
-/

namespace GridAsm

namespace Text

/-! ### Words -/

theorem wordRunsFrom_nil {run : Text} (h : run ≠ []) : wordRunsFrom run [] = [run.reverse] := by
  cases run with
  | nil => exact absurd rfl h
  | cons p run => rfl

theorem wordRunsFrom_cons_of_isWordChar {p : CodePoint} (h : isWordChar p = true)
    (run rest : Text) : wordRunsFrom run (p :: rest) = wordRunsFrom (p :: run) rest :=
  if_pos h

theorem wordRunsFrom_cons_of_not_isWordChar {p : CodePoint} (h : isWordChar p = false)
    (run rest : Text) :
    wordRunsFrom run (p :: rest) = wordRunsFrom run [] ++ wordRunsFrom [] rest := by
  have hne : ¬ isWordChar p = true := Bool.eq_false_iff.mp h
  cases run with
  | nil => exact if_neg hne
  | cons q run => exact if_neg hne

/-- A code point that is no word character ends a run, and the rest is read as a text of its own. -/
theorem wordRunsFrom_append_cons {p : CodePoint} (h : isWordChar p = false) (run a rest : Text) :
    wordRunsFrom run (a ++ p :: rest) = wordRunsFrom run a ++ wordRunsFrom [] rest := by
  induction a generalizing run with
  | nil => exact wordRunsFrom_cons_of_not_isWordChar h run rest
  | cons q a ih =>
    rw [List.cons_append]
    cases hq : isWordChar q with
    | true =>
      rw [wordRunsFrom_cons_of_isWordChar hq, ih, wordRunsFrom_cons_of_isWordChar hq]
    | false =>
      rw [wordRunsFrom_cons_of_not_isWordChar hq, ih, ← List.append_assoc,
        ← wordRunsFrom_cons_of_not_isWordChar hq]

theorem wordRuns_append_cons {p : CodePoint} (h : isWordChar p = false) (a rest : Text) :
    wordRuns (a ++ p :: rest) = wordRuns a ++ wordRuns rest :=
  wordRunsFrom_append_cons h [] a rest

theorem wordRuns_of_forall_not {b : Text} (h : ∀ p ∈ b, isWordChar p = false) :
    wordRuns b = [] := by
  induction b with
  | nil => rfl
  | cons p b ih =>
    rw [List.forall_mem_cons] at h
    exact (wordRuns_append_cons h.1 [] b).trans (ih h.2)

/-- Word characters alone are one word. -/
theorem wordRunsFrom_of_forall (run : Text) {w : Text} (h : ∀ p ∈ w, isWordChar p = true) :
    wordRunsFrom run w = wordRunsFrom (w.reverse ++ run) [] := by
  induction w generalizing run with
  | nil => rfl
  | cons p w ih =>
    rw [List.forall_mem_cons] at h
    rw [wordRunsFrom_cons_of_isWordChar h.1, ih _ h.2, List.reverse_cons, List.append_assoc]
    rfl

theorem wordRuns_of_forall {w : Text} (hne : w ≠ []) (h : ∀ p ∈ w, isWordChar p = true) :
    wordRuns w = [w] := by
  have hrun : wordRuns w = wordRunsFrom w.reverse [] := by
    rw [← List.append_nil w.reverse]
    exact wordRunsFrom_of_forall [] h
  rw [hrun, wordRunsFrom_nil (List.reverse_ne_nil_iff.mpr hne), List.reverse_reverse]

/-! ### Borders of words -/

/-- A text does not end in a word. -/
def EndsApart (t : Text) : Prop :=
  ∀ p, t.getLast? = some p → isWordChar p = false

/-- A text does not start with a word. -/
def StartsApart (t : Text) : Prop :=
  ∀ p, t.head? = some p → isWordChar p = false

theorem endsApart_nil : EndsApart [] := by
  intro p h
  cases h

theorem startsApart_nil : StartsApart [] := by
  intro p h
  cases h

/-- No word goes across a border, so the words are those of the two sides. -/
theorem wordRuns_append {a c : Text} (h : EndsApart a ∨ StartsApart c) :
    wordRuns (a ++ c) = wordRuns a ++ wordRuns c := by
  rcases h with hlast | hhead
  · rcases List.eq_nil_or_concat a with rfl | ⟨a, p, rfl⟩
    · rfl
    · have hp : isWordChar p = false := hlast p (by simp)
      have hend : wordRuns (a ++ [p]) = wordRuns a := by
        rw [wordRuns_append_cons hp]
        exact List.append_nil _
      rw [List.concat_eq_append, hend, List.append_assoc]
      exact wordRuns_append_cons hp a c
  · cases c with
    | nil =>
      rw [List.append_nil]
      exact (List.append_nil _).symm
    | cons p rest =>
      have hp : isWordChar p = false := hhead p rfl
      rw [wordRuns_append_cons hp]
      exact congrArg _ (wordRuns_append_cons hp [] rest).symm

theorem wordRuns_insert {a b c : Text} (hb : ∀ p ∈ b, isWordChar p = false)
    (h : EndsApart a ∨ StartsApart c) : wordRuns (a ++ (b ++ c)) = wordRuns (a ++ c) := by
  cases b with
  | nil => rfl
  | cons p b =>
    have hleft : StartsApart (p :: b ++ c) := by
      intro q hq
      rw [← Option.some.inj hq]
      exact hb p List.mem_cons_self
    have hright : EndsApart (p :: b) := fun q hq => hb q (List.mem_of_getLast? hq)
    rw [wordRuns_append (.inr hleft), wordRuns_append (.inl hright), wordRuns_of_forall_not hb,
      wordRuns_append h]
    rfl

theorem isWordChar_of_allBlank {b : Text} (hb : allBlank b = true) :
    ∀ p ∈ b, isWordChar p = false :=
  fun p hp => isWordChar_of_isBlank (List.all_eq_true.mp hb p hp)

theorem wordRuns_trim (t : Text) : wordRuns (trim t) = wordRuns t := by
  obtain ⟨b, b', hb, hb', ht⟩ := exists_eq_append_trim t
  have hfirst : wordRuns (b ++ (trim t ++ b')) = wordRuns (trim t ++ b') :=
    wordRuns_insert (a := []) (isWordChar_of_allBlank hb) (.inl endsApart_nil)
  have hlast : wordRuns (trim t ++ (b' ++ [])) = wordRuns (trim t ++ []) :=
    wordRuns_insert (isWordChar_of_allBlank hb') (.inr startsApart_nil)
  rw [← ht] at hfirst
  rw [List.append_nil, List.append_nil] at hlast
  exact (hfirst.trans hlast).symm

/-- A change of code points that keeps word characters keeps the places of words. -/
theorem wordRunsFrom_map {f : CodePoint → CodePoint} (hf : ∀ p, isWordChar (f p) = isWordChar p)
    (run t : Text) :
    wordRunsFrom (run.map f) (t.map f) = (wordRunsFrom run t).map (List.map f) := by
  have hend : ∀ run : Text,
      wordRunsFrom (run.map f) [] = (wordRunsFrom run []).map (List.map f) := by
    intro run
    cases run with
    | nil => rfl
    | cons q run =>
      show [((q :: run).map f).reverse] = [(q :: run).reverse.map f]
      rw [List.map_reverse]
  induction t generalizing run with
  | nil => exact hend run
  | cons p t ih =>
    rw [List.map_cons]
    cases hp : isWordChar p with
    | true =>
      rw [wordRunsFrom_cons_of_isWordChar ((hf p).trans hp), wordRunsFrom_cons_of_isWordChar hp]
      exact ih (p :: run)
    | false =>
      rw [wordRunsFrom_cons_of_not_isWordChar ((hf p).trans hp),
        wordRunsFrom_cons_of_not_isWordChar hp, List.map_append, hend]
      exact congrArg _ (ih [])

theorem wordRuns_map {f : CodePoint → CodePoint} (hf : ∀ p, isWordChar (f p) = isWordChar p)
    (t : Text) : wordRuns (t.map f) = (wordRuns t).map (List.map f) :=
  wordRunsFrom_map hf [] t

/-! ### Where a word stands -/

/-- A text has a part with no word character right before or right after it. -/
def StandsIn (w t : Text) : Prop :=
  ∃ before after, t = before ++ (w ++ after) ∧ EndsApart before ∧ StartsApart after

theorem standsIn_of_mem_wordRunsFrom {run t w : Text} (h : w ∈ wordRunsFrom run t) :
    StandsIn w (run.reverse ++ t) := by
  -- The run read so far is a word only if it ends here.
  have hrun : ∀ {run w : Text} (rest : Text), w ∈ wordRunsFrom run [] → StartsApart rest →
      StandsIn w (run.reverse ++ rest) := by
    intro run w rest hw hrest
    cases run with
    | nil => cases hw
    | cons q run =>
      rw [List.mem_singleton.mp hw]
      exact ⟨[], rest, rfl, endsApart_nil, hrest⟩
  induction t generalizing run with
  | nil => exact hrun [] h startsApart_nil
  | cons p t ih =>
    cases hp : isWordChar p with
    | true =>
      rw [wordRunsFrom_cons_of_isWordChar hp] at h
      have htext : (p :: run).reverse ++ t = run.reverse ++ p :: t := by simp
      rw [← htext]
      exact ih h
    | false =>
      rw [wordRunsFrom_cons_of_not_isWordChar hp, List.mem_append] at h
      rcases h with h | h
      · apply hrun (p :: t) h
        intro q hq
        rwa [← Option.some.inj hq]
      · obtain ⟨before, after, htext, hbefore, hafter⟩ := ih h
        rw [List.reverse_nil, List.nil_append] at htext
        refine ⟨run.reverse ++ p :: before, after, by rw [htext]; simp, fun q hq => ?_, hafter⟩
        rw [List.getLast?_append, List.getLast?_cons, Option.some_or] at hq
        cases hlast : before.getLast? with
        | none =>
          rw [hlast] at hq
          rwa [← Option.some.inj hq]
        | some last =>
          rw [hlast] at hq
          rw [← Option.some.inj hq]
          exact hbefore last hlast

theorem mem_wordRuns_of_standsIn {t w : Text} (hne : w ≠ []) (hw : ∀ p ∈ w, isWordChar p = true)
    (h : StandsIn w t) : w ∈ wordRuns t := by
  obtain ⟨before, after, rfl, hbefore, hafter⟩ := h
  rw [wordRuns_append (.inl hbefore), wordRuns_append (.inr hafter), wordRuns_of_forall hne hw]
  simp

/-! ### Keywords -/

theorem foldLetter_eq (p : CodePoint) :
    foldLetter p = if p = .char 'ſ' then .char 's' else smallLetter p := by
  cases p with
  | lone offset => rfl
  | char c =>
    by_cases hc : c = 'ſ'
    · rw [hc]
      rfl
    · have hp : ¬ CodePoint.char c = .char 'ſ' := fun h => hc (CodePoint.char.inj h)
      rw [if_neg hp]
      exact if_neg hc

theorem foldLetter_smallLetter (p : CodePoint) : foldLetter (smallLetter p) = foldLetter p :=
  apply_smallLetter foldLetter (by decide) p

/-- What depends neither on the case of letters nor on the long s is the same of a folded letter. -/
theorem apply_foldLetter {α : Type} (f : CodePoint → α) (hs : f (.char 's') = f (.char 'ſ'))
    (hsmall : ∀ p, f (smallLetter p) = f p) (p : CodePoint) : f (foldLetter p) = f p := by
  rw [foldLetter_eq]
  split_ifs with hp
  · rw [hp, hs]
  · exact hsmall p

theorem isWordChar_foldLetter (p : CodePoint) : isWordChar (foldLetter p) = isWordChar p :=
  apply_foldLetter isWordChar (by decide) isWordChar_smallLetter p

theorem isBlank_foldLetter (p : CodePoint) : isBlank (foldLetter p) = isBlank p :=
  apply_foldLetter isBlank (by decide) isBlank_smallLetter p

theorem foldLetter_foldLetter (p : CodePoint) : foldLetter (foldLetter p) = foldLetter p :=
  apply_foldLetter foldLetter (by decide) foldLetter_smallLetter p

/-- A change of code points that keeps folded letters does not change what is spelled. -/
theorem spells_map {f : CodePoint → CodePoint} (hf : ∀ p, foldLetter (f p) = foldLetter p)
    (keyword : String) (t : Text) : spells keyword (t.map f) = spells keyword t := by
  have hfold : (t.map f).map foldLetter = t.map foldLetter := by
    rw [List.map_map]
    exact List.map_congr_left fun p _ => hf p
  exact congrArg (fun u => decide (u = (ofString keyword).map foldLetter)) hfold

/-- A keyword is spelled in a text, with no word character right before or right after it. -/
def HasKeyword (keyword : String) (t : Text) : Prop :=
  ∃ w, spells keyword w = true ∧ StandsIn w t

end Text

namespace Shape

open Text

theorem hasWord_map {f : CodePoint → CodePoint} (hword : ∀ p, isWordChar (f p) = isWordChar p)
    (hfold : ∀ p, foldLetter (f p) = foldLetter p) (keyword : String) (t : Text) :
    hasWord keyword (t.map f) = hasWord keyword t := by
  unfold hasWord
  rw [wordRuns_map hword, List.any_map]
  exact congrArg _ (funext fun w => spells_map hfold keyword w)

theorem hasWord_congr {t t' : Text} (h : wordRuns t = wordRuns t') (keyword : String) :
    hasWord keyword t = hasWord keyword t' :=
  congrArg (List.any · (spells keyword)) h

/-- The search among the words finds the keywords that stand in the text. -/
theorem hasWord_iff {keyword : String} (hne : ofString keyword ≠ [])
    (hword : ∀ p ∈ ofString keyword, isWordChar p = true) {t : Text} :
    hasWord keyword t = true ↔ HasKeyword keyword t := by
  unfold hasWord
  rw [List.any_eq_true]
  constructor
  · rintro ⟨w, hw, hspells⟩
    exact ⟨w, hspells, standsIn_of_mem_wordRunsFrom hw⟩
  · rintro ⟨w, hspells, hstands⟩
    refine ⟨w, mem_wordRuns_of_standsIn ?_ (fun p hp => ?_) hstands, hspells⟩
    · rintro rfl
      exact hne (List.map_eq_nil_iff.mp (spells_iff.mp hspells).symm)
    · obtain ⟨q, hq, hfold⟩ := exists_of_mem_of_spells hspells hp
      rw [← isWordChar_foldLetter, hfold, isWordChar_foldLetter]
      exact hword q hq

end Shape

end GridAsm
