import GridAsm.Proofs.Text
import GridAsm.SourceLine

/-!
# Labels and codes as written

A label is a letter or an underscore and word characters after it, and it stands before a colon
(`label?_append`, `exists_eq_append_of_label?`).  A code is a word and, after blanks, the text of the
operands (`IsCode`).  Whether a code would be read as a label is decided by its word and by the first
character of its operands (`label?_eq_none_iff_of_isCode`); how many blanks stand between them does
not matter.
-/

namespace GridAsm

open Text

namespace SourceLine

/-! ### Labels -/

theorem label?_of_colon {c : CodePoint} {rest after : Text} (hc : startsLabel c = true)
    (h : trimStart (rest.dropWhile isWordChar) = .char ':' :: after) :
    label? (c :: rest) =
      if hasInnerLineEnd (trimStart after) then none
      else some (c :: rest.takeWhile isWordChar, trimStart after) := by
  simp only [label?, hc, if_true, h]

theorem label?_of_no_colon (c : CodePoint) {rest : Text}
    (h : (trimStart (rest.dropWhile isWordChar)).head? ≠ some (.char ':')) :
    label? (c :: rest) = none := by
  simp only [label?]
  split_ifs
  · split
    · rename_i after hafter
      rw [hafter] at h
      exact absurd rfl h
    · rfl
  · rfl

theorem label?_of_not_startsLabel {c : CodePoint} (hc : startsLabel c = false) (rest : Text) :
    label? (c :: rest) = none := by
  simp [label?, hc]

/-- A text that may be a label. -/
def IsLabel (label : Text) : Prop :=
  ∃ c word, label = c :: word ∧ startsLabel c = true ∧ ∀ p ∈ word, isWordChar p = true

theorem hasInnerLineEnd_eq_false {t : Text} (h : CodePoint.char '\n' ∉ t) :
    hasInnerLineEnd t = false := by
  rw [hasInnerLineEnd, ← Bool.not_eq_true, List.contains_iff_mem]
  exact fun hmem => h (List.dropLast_subset t hmem)

/-- A label before a colon is read, with any blanks around the colon. -/
theorem label?_append {label gap gap' body : Text} (hlabel : IsLabel label)
    (hgap : allBlank gap = true) (hgap' : allBlank gap' = true)
    (hbody : ∀ p, body.head? = some p → isBlank p = false) (hfeed : CodePoint.char '\n' ∉ body) :
    label? (label ++ (gap ++ .char ':' :: (gap' ++ body))) = some (label, body) := by
  obtain ⟨c, word, rfl, hc, hword⟩ := hlabel
  have hstop : ∀ p, (gap ++ CodePoint.char ':' :: (gap' ++ body)).head? = some p →
      isWordChar p = false := by
    intro p hp
    cases gap with
    | nil =>
      obtain rfl := Option.some.inj hp
      decide
    | cons q rest =>
      obtain rfl := Option.some.inj hp
      exact isWordChar_of_isBlank (List.all_eq_true.mp hgap q (List.mem_cons_self ..))
  obtain ⟨htake, hdrop⟩ := takeWhile_append_of_boundary hword hstop
  have hcolon : trimStart ((word ++ (gap ++ .char ':' :: (gap' ++ body))).dropWhile isWordChar) =
      .char ':' :: (gap' ++ body) := by
    rw [hdrop]
    exact trimStart_append hgap fun p hp => by obtain rfl := Option.some.inj hp; decide
  rw [List.cons_append, label?_of_colon hc hcolon, htake, trimStart_append hgap' hbody,
    hasInnerLineEnd_eq_false hfeed]
  rfl

/-- What was read as a label is one, and the rest stands after its colon. -/
theorem exists_eq_append_of_label? {text label body : Text} (h : label? text = some (label, body)) :
    IsLabel label ∧ ∃ gap gap', text = label ++ (gap ++ .char ':' :: (gap' ++ body)) := by
  cases text with
  | nil => exact nomatch h
  | cons c rest =>
    by_cases hc : startsLabel c = true
    · by_cases hcolon : (trimStart (rest.dropWhile isWordChar)).head? = some (.char ':')
      · obtain ⟨after, hafter⟩ := List.head?_eq_some_iff.mp hcolon
        rw [label?_of_colon hc hafter] at h
        split_ifs at h
        obtain ⟨rfl, rfl⟩ := Prod.mk.inj (Option.some.inj h)
        refine ⟨⟨c, _, rfl, hc, fun p hp => List.mem_takeWhile_imp hp⟩, ?_⟩
        obtain ⟨gap, -, hgap⟩ := exists_eq_append_trimStart (rest.dropWhile isWordChar)
        obtain ⟨gap', -, hgap'⟩ := exists_eq_append_trimStart after
        refine ⟨gap, gap', ?_⟩
        rw [← hgap', ← hafter, ← hgap, List.cons_append, List.takeWhile_append_dropWhile]
      · rw [label?_of_no_colon c hcolon] at h
        exact nomatch h
    · rw [label?_of_not_startsLabel (by simpa using hc)] at h
      exact nomatch h

theorem label?_cons_eq_none_iff {c : CodePoint} {rest : Text} (h : CodePoint.char '\n' ∉ rest) :
    label? (c :: rest) = none ↔
      startsLabel c = false ∨
        (trimStart (rest.dropWhile isWordChar)).head? ≠ some (.char ':') := by
  constructor
  · intro hnone
    by_contra hread
    rw [not_or, Bool.not_eq_false, not_not] at hread
    obtain ⟨hc, hcolon⟩ := hread
    obtain ⟨after, hafter⟩ := List.head?_eq_some_iff.mp hcolon
    have hfeed : CodePoint.char '\n' ∉ trimStart after := by
      intro hmem
      have hcons : CodePoint.char '\n' ∈ trimStart (rest.dropWhile isWordChar) := by
        rw [hafter]
        exact List.mem_cons_of_mem _ ((List.dropWhile_suffix isBlank).subset hmem)
      exact h ((List.dropWhile_suffix isWordChar).subset ((List.dropWhile_suffix isBlank).subset hcons))
    rw [label?_of_colon hc hafter, hasInnerLineEnd_eq_false hfeed] at hnone
    exact nomatch hnone
  · rintro (hc | hcolon)
    · exact label?_of_not_startsLabel hc rest
    · exact label?_of_no_colon c hcolon

/-- The label and the code of a line are parts of it, without its comment. -/
theorem parse_cases (line : Text) :
    (label? (withoutComment line) = none ∧ parse line = ⟨none, withoutComment line⟩) ∨
      ∃ label gap gap' body, IsLabel label ∧ parse line = ⟨some label, trim body⟩ ∧
        withoutComment line = label ++ (gap ++ .char ':' :: (gap' ++ body)) := by
  unfold parse ofText
  cases h : label? (withoutComment line) with
  | none => exact .inl ⟨rfl, rfl⟩
  | some parts =>
    obtain ⟨hlabel, gap, gap', htext⟩ := exists_eq_append_of_label? h
    exact .inr ⟨_, gap, gap', _, hlabel, rfl, htext⟩

theorem isLabel_of_parse {line label : Text} (h : (parse line).label = some label) :
    IsLabel label := by
  rcases parse_cases line with ⟨-, hparse⟩ | ⟨label', gap, gap', body, hlabel, hparse, -⟩
  · rw [hparse] at h
    exact nomatch h
  · rw [hparse] at h
    obtain rfl := Option.some.inj h
    exact hlabel

end SourceLine

/-! ### Codes -/

/-- A text that is one word. -/
def IsWord (t : Text) : Prop :=
  t ≠ [] ∧ ∀ p ∈ t, isBlank p = false

/-- A code is a word and the text of its operands, with blanks between them if there are any. -/
inductive IsCode (word operands : Text) : Text → Prop
  | bare (h : operands = []) : IsCode word operands word
  | spaced {gap : Text} (hne : gap ≠ []) (hgap : allBlank gap = true) (h : operands ≠ []) :
      IsCode word operands (word ++ (gap ++ operands))

theorem IsWord.trimmed {t : Text} (h : IsWord t) : Trimmed t :=
  ⟨fun p hp => h.2 p (List.mem_of_head? hp), fun p hp => h.2 p (List.mem_of_getLast? hp)⟩

theorem IsWord.head_not_blank {word : Text} (h : IsWord word) {rest : Text} :
    ∀ p, (word ++ rest).head? = some p → isBlank p = false := by
  intro p hp
  rw [List.head?_append_of_ne_nil _ h.1] at hp
  exact h.2 p (List.mem_of_head? hp)

namespace IsCode

variable {word operands code : Text}

theorem trimmed (hword : IsWord word) (hoperands : Trimmed operands)
    (h : IsCode word operands code) : Trimmed code := by
  cases h with
  | bare => exact hword.trimmed
  | spaced _ _ hne =>
    refine ⟨hword.head_not_blank, fun p hp => ?_⟩
    rw [List.getLast?_append_of_ne_nil _ (by simp [hne]), List.getLast?_append_of_ne_nil _ hne] at hp
    exact hoperands.2 p hp

theorem mem_of_mem_operands (h : IsCode word operands code) {p : CodePoint} (hp : p ∈ operands) :
    p ∈ code := by
  cases h with
  | bare hnil =>
    rw [hnil] at hp
    exact nomatch hp
  | spaced => simp [hp]

/-- A code is read as the word and the operands that it is made of. -/
theorem firstWord_eq (hword : IsWord word) (hoperands : Trimmed operands)
    (h : IsCode word operands code) : firstWord code = (word, operands) := by
  have hrun : ∀ p ∈ word, (!isBlank p) = true := by
    intro p hp
    rw [hword.2 p hp]
    rfl
  cases h with
  | bare hnil =>
    obtain ⟨htake, hdrop⟩ := @takeWhile_append_of_boundary _ _ [] hrun nofun
    rw [List.append_nil] at htake hdrop
    rw [firstWord, htake, hdrop, hnil]
    rfl
  | @spaced gap hne hgap _ =>
    have hstop : ∀ p, (gap ++ operands).head? = some p → (!isBlank p) = false := by
      intro p hp
      rw [List.head?_append_of_ne_nil _ hne] at hp
      rw [List.all_eq_true.mp hgap p (List.mem_of_head? hp)]
      rfl
    obtain ⟨htake, hdrop⟩ := takeWhile_append_of_boundary hrun hstop
    rw [firstWord, htake, hdrop, trimStart_append hgap hoperands.1]

theorem codeParts_eq (hword : IsWord word) (hoperands : Trimmed operands)
    (h : IsCode word operands code) : codeParts code = (upper word, operands) := by
  rw [codeParts, (h.trimmed hword hoperands).trim_eq, h.firstWord_eq hword hoperands]
  simp only [hoperands.trim_eq]

end IsCode

/-- A word, a blank and anything after it, without the blanks around it all, is a code. -/
theorem isCode_trim_append {word : Text} (hword : IsWord word) {q : CodePoint}
    (hq : isBlank q = true) (rest : Text) :
    IsCode word (trim rest) (trim (word ++ q :: rest)) := by
  obtain ⟨b, b', hb, hb', hrest⟩ := exists_eq_append_trim rest
  have hblanks : allBlank (q :: b) = true := by
    rw [allBlank, List.all_cons, hq]
    exact hb
  by_cases hnil : trim rest = []
  · have hcode : trim (word ++ q :: rest) = word := by
      rw [hnil, List.nil_append] at hrest
      rw [hrest]
      exact trim_append (b := []) rfl hword.trimmed (allBlank_append.mpr ⟨hblanks, hb'⟩)
    rw [hcode]
    exact .bare hnil
  · have hspaced : IsCode word (trim rest) (word ++ ((q :: b) ++ trim rest)) :=
      .spaced (by simp) hblanks hnil
    have hcode : trim (word ++ q :: rest) = word ++ ((q :: b) ++ trim rest) := by
      have h := trim_append (b := []) rfl (hspaced.trimmed hword (trimmed_trim rest)) hb'
      rw [← h]
      conv_lhs => rw [hrest]
      simp
    rw [hcode]
    exact hspaced

/-- Every code is its first word and the text of its operands. -/
theorem isCode_of_trimmed {code : Text} (hcode : Trimmed code) (hne : code ≠ []) :
    IsWord (firstWord code).1 ∧ IsCode (firstWord code).1 (codeParts code).2 code := by
  have hword : IsWord (firstWord code).1 := by
    constructor
    · cases code with
      | nil => exact absurd rfl hne
      | cons p rest => simp [firstWord, hcode.1 p rfl]
    · intro p hp
      simpa using List.mem_takeWhile_imp hp
  have hsplit : (firstWord code).1 ++ code.dropWhile (!isBlank ·) = code :=
    List.takeWhile_append_dropWhile
  -- What follows the word is nothing, or a blank and the operands among blanks.
  obtain ⟨operands, hoperands, hshape⟩ : ∃ operands, Trimmed operands ∧
      IsCode (firstWord code).1 operands code := by
    cases hrest : code.dropWhile (!isBlank ·) with
    | nil =>
      rw [hrest, List.append_nil] at hsplit
      refine ⟨[], ⟨nofun, nofun⟩, ?_⟩
      nth_rewrite 2 [← hsplit]
      exact .bare rfl
    | cons q rest =>
      have hq : isBlank q = true := by
        have hhead := List.head?_dropWhile_not (!isBlank ·) code
        rw [hrest] at hhead
        simpa using hhead
      have htrim := isCode_trim_append hword hq rest
      rw [← hrest, hsplit, hcode.trim_eq] at htrim
      exact ⟨trim rest, trimmed_trim rest, htrim⟩
  rw [hshape.codeParts_eq hword hoperands]
  exact ⟨hword, hshape⟩

namespace SourceLine

/-- The first character after the name at the start of a word, or after the blanks that follow. -/
theorem head?_after_name {word : Text} (hword : ∀ p ∈ word, isBlank p = false) {rest : Text}
    (hrest : ∀ p, rest.head? = some p → isBlank p = true) :
    (trimStart ((word ++ rest).dropWhile isWordChar)).head? =
      (word.dropWhile isWordChar).head?.or (trimStart rest).head? := by
  rw [List.dropWhile_append]
  cases hname : word.dropWhile isWordChar with
  | nil =>
    have hkeep : rest.dropWhile isWordChar = rest := by
      cases rest with
      | nil => rfl
      | cons p tail => simp [isWordChar_of_isBlank (hrest p rfl)]
    show (trimStart (rest.dropWhile isWordChar)).head? = _
    rw [hkeep]
    rfl
  | cons q tail =>
    have hq : isBlank q = false :=
      hword q ((List.dropWhile_suffix isWordChar).subset (by rw [hname]; simp))
    simp [trimStart, hq]

/-- Whether a code is read as a label does not depend on the blanks after its first word. -/
theorem label?_eq_none_iff_of_isCode {c : CodePoint} {word operands code : Text}
    (hword : IsWord (c :: word)) (hoperands : Trimmed operands)
    (h : IsCode (c :: word) operands code) (hfeed : CodePoint.char '\n' ∉ code) :
    label? code = none ↔
      startsLabel c = false ∨
        (word.dropWhile isWordChar).head?.or operands.head? ≠ some (.char ':') := by
  have hnoblank : ∀ p ∈ word, isBlank p = false := fun p hp => hword.2 p (List.mem_cons_of_mem _ hp)
  cases h with
  | bare hnil =>
    have hhead := @head?_after_name word hnoblank [] nofun
    rw [List.append_nil] at hhead
    rw [label?_cons_eq_none_iff fun hmem => hfeed (List.mem_cons_of_mem _ hmem), hhead, hnil]
    rfl
  | @spaced gap hne hgap _ =>
    have hblank : ∀ p, (gap ++ operands).head? = some p → isBlank p = true := by
      intro p hp
      rw [List.head?_append_of_ne_nil _ hne] at hp
      exact List.all_eq_true.mp hgap p (List.mem_of_head? hp)
    have hhead := head?_after_name hnoblank hblank
    rw [trimStart_append hgap hoperands.1] at hhead
    rw [List.cons_append] at hfeed ⊢
    rw [label?_cons_eq_none_iff fun hmem => hfeed (List.mem_cons_of_mem _ hmem), hhead]

end SourceLine

end GridAsm
