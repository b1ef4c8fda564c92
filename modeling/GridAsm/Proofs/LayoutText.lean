import GridAsm.Proofs.Literal
import GridAsm.Proofs.Rule

/-!
# The text of a layout

The text of a field is a cell again, but for the count after a run: it denotes what the field holds
(`Layout.denotes_text`).  Since a cell denotes one thing only, the text up to the count gives the
content, and the count gives the width of a run.  The width of a slice follows from its numbers and
the bits that are left, and all other fields have one bit.  So a field is known by its highest bit
and its text (`Field.eq_of_text_eq`), and from the highest bit of the word down this holds of all
fields of a row.

The numbers in the fields of a row were read from digits within the limit, so that none of them is
too long to be written (`Layout.natAbs_lt_of_fieldAt`).
-/

namespace GridAsm

open Text

/-! ### Numbers as text -/

namespace Text

theorem ofString_decimal (n : Nat) :
    ofString (decimal n) = ofChars (Nat.toDigits 10 n) := by
  change ofString (String.ofList (Nat.toDigits 10 n)) = _
  simp [ofString]

theorem numeral?_decimal (n : Nat) : numeral? 10 digitValue? (decimal n) = some n := by
  rw [ofString_decimal, numeral?_eq_some_iff digitValue?_eq_some_iff]
  exact Literal.isNumeral_decimal n

theorem isDigits_decimal (n : Nat) : IsDigits (decimal n) := by
  obtain ⟨ds, hne, hds, hn⟩ := Literal.isNumeral_decimal n
  rw [ofString_decimal]
  exact ⟨hne, IsNumeral.forall_mem ⟨ds, hne, hds, hn⟩ IsDecimalDigit.isDigit⟩

end Text

/-! ### Texts that are cells -/

namespace Layout

/-- The marks that end a field's text and the symbol of a run. -/
def isMark (p : CodePoint) : Bool :=
  p = .char ' ' ∨ p = .char '*'

theorem isMark_of_isDigit {p : CodePoint} (h : isDigit p = true) : isMark p = false := by
  rw [isMark, decide_eq_false_iff_not]
  rintro (rfl | rfl) <;> exact absurd h (by decide)

/-- The texts that spell a register. -/
def registerSpellings : List Text :=
  ['r', 'R'].flatMap fun first =>
    ['d', 'D', 's', 'S', 'ſ', 't', 'T'].map fun second => [.char first, .char second]

theorem mem_registerSpellings {name : Text} (h : registerNames.any (spells · name) = true) :
    name ∈ registerSpellings := by
  obtain ⟨first, rest, rfl, hfirst⟩ := exists_cons_of_registerName h
  obtain ⟨p, rfl⟩ : ∃ p, rest = [p] := by
    rw [← List.length_eq_one_iff]
    simpa using length_of_registerName h
  have hsecond : foldLetter p = .char 'd' ∨ foldLetter p = .char 's' ∨
      foldLetter p = .char 't' := by
    obtain ⟨keyword, hmem, hspells⟩ := List.any_eq_true.mp h
    have hletters := congrArg List.getLast? (spells_iff.mp hspells)
    simp only [List.map_cons, List.map_nil] at hletters
    simp only [registerNames, List.mem_cons, List.not_mem_nil, or_false] at hmem
    rcases hmem with rfl | rfl | rfl
    · exact .inl (Option.some.inj hletters)
    · exact .inr (.inl (Option.some.inj hletters))
    · exact .inr (.inr (Option.some.inj hletters))
  -- Which of the names it is does not matter here, so the long s may stand for any second letter.
  have hcases : p ∈ ['d', 'D', 's', 'S', 'ſ', 't', 'T'].map CodePoint.char := by
    rcases hsecond with hd | hs | ht
    · rcases cases_of_foldLetter_eq 'd' 'D' (by decide) hd with rfl | rfl | rfl <;> decide
    · rcases cases_of_foldLetter_eq 's' 'S' (by decide) hs with rfl | rfl | rfl <;> decide
    · rcases cases_of_foldLetter_eq 't' 'T' (by decide) ht with rfl | rfl | rfl <;> decide
  obtain ⟨second, hmem, rfl⟩ := List.mem_map.mp hcases
  refine List.mem_flatMap.mpr ⟨first, by simpa using hfirst, ?_⟩
  exact List.mem_map.mpr ⟨second, hmem, rfl⟩

/-- A register in small letters is one again, and stays as it is. -/
theorem lower_registerName {name : Text} (h : registerNames.any (spells · name) = true) :
    registerNames.any (spells · (lower name)) = true ∧ lower (lower name) = lower name ∧
      ∀ p ∈ lower name, isMark p = false := by
  have hall : ∀ name ∈ registerSpellings, registerNames.any (spells · (lower name)) = true ∧
      lower (lower name) = lower name ∧ ∀ p ∈ lower name, isMark p = false := by decide +kernel
  exact hall name (mem_registerSpellings h)

/-- The text of one bit of what a cell denotes is a cell that denotes the same. -/
theorem denotes_text {cell : Text} {content : Content} (h : Denotes cell content) :
    Denotes (content.text 1) content := by
  cases h with
  | blank | cross | other => exact .cross (by decide +kernel)
  | zero => exact .zero
  | one => exact .one
  | slice h =>
    -- The text has no blanks between its parts, and the name is small already.
    obtain ⟨name, -, -, -, -, -, hname, rfl, -⟩ := h
    obtain ⟨hlower, hsame, -⟩ := lower_registerName hname
    refine .slice ⟨lower name, [], [], [], [], [], hlower, hsame.symm, isDigits_decimal _,
      isDigits_decimal _, by decide, ?_⟩ (numeral?_decimal _) (numeral?_decimal _)
    simp [Content.text]
  | registerBit h =>
    obtain ⟨name, -, -, -, hname, rfl, -⟩ := h
    obtain ⟨hlower, hsame, -⟩ := lower_registerName hname
    refine .registerBit ⟨lower name, [], [], [], hlower, hsame.symm, isDigits_decimal _,
      by decide, ?_⟩ (numeral?_decimal _)
    simp [Content.text]
  | immediate hname => exact .immediate hname (spells_iff.mpr rfl)
  | condition => exact .condition (.inl (by decide +kernel))

/-- The text of one bit has neither blanks nor stars. -/
theorem isMark_of_mem_text {cell : Text} {content : Content} (h : Denotes cell content) :
    ∀ p ∈ content.text 1, isMark p = false := by
  have hdigits : ∀ n : Nat, ∀ p ∈ ofString (decimal n), isMark p = false := fun n p hp =>
    isMark_of_isDigit ((isDigits_decimal n).2 p hp)
  have hbrackets : ∀ s ∈ ["[", ":", "]"], ∀ p ∈ ofString s, isMark p = false := by decide
  cases h with
  | blank | cross | other => decide
  | zero => exact hdigits 0
  | one => exact hdigits 1
  | slice h =>
    obtain ⟨name, -, -, -, -, -, hname, rfl, -⟩ := h
    obtain ⟨-, -, hregister⟩ := lower_registerName hname
    simp only [Content.text, List.forall_mem_append]
    exact ⟨⟨⟨⟨⟨hregister, hbrackets _ (by simp)⟩, hdigits _⟩, hbrackets _ (by simp)⟩, hdigits _⟩,
      hbrackets _ (by simp)⟩
  | registerBit h =>
    obtain ⟨name, -, -, -, hname, rfl, -⟩ := h
    obtain ⟨-, -, hregister⟩ := lower_registerName hname
    simp only [Content.text, List.forall_mem_append]
    exact ⟨⟨⟨hregister, hbrackets _ (by simp)⟩, hdigits _⟩, hbrackets _ (by simp)⟩
  | immediate hname =>
    have hall : ∀ name ∈ ["Y", "P", "O"], ∀ p ∈ ofString name, isMark p = false := by decide
    exact hall _ hname
  | condition => decide

/-- A cell denotes one thing only. -/
theorem eq_of_denotes {cell : Text} {c c' : Content} (h : Denotes cell c) (h' : Denotes cell c') :
    c = c' := by
  rw [denotes_iff_symbol] at h h'
  exact Option.some.inj (h.symm.trans h')

/-! ### Counts -/

/-- The count after the symbol of a run, if it has more than one bit. -/
def runCount (width : Nat) : Text :=
  if 1 < width then .char '*' :: ofString (decimal width) else []

/-- The count in the text of a field. -/
def countText (content : Content) (width : Nat) : Text :=
  match content with
  | .immediate _ | .condition => runCount width
  | _ => []

/-- The text of a field is that of one bit and the count. -/
theorem text_eq_append (content : Content) (width : Nat) :
    content.text width = content.text 1 ++ countText content width := by
  have hrepeated : ∀ symbol : Text,
      Content.repeated symbol width = Content.repeated symbol 1 ++ runCount width := by
    intro symbol
    by_cases h : 1 < width
    · simp [Content.repeated, runCount, h, ofString, ofChars]
    · simp [Content.repeated, runCount, h]
  cases content with
  | immediate name => exact hrepeated name
  | condition => exact hrepeated "COND"
  | _ => exact (List.append_nil _).symm

theorem head?_countText {content : Content} {width : Nat} {p : CodePoint}
    (h : (countText content width).head? = some p) : isMark p = true := by
  cases content with
  | immediate | condition =>
    rw [countText, runCount] at h
    split_ifs at h
    · obtain rfl := Option.some.inj h
      decide
    · exact nomatch h
  | _ => exact nomatch h

/-- The text of a field is cut into the text of one bit and the count. -/
theorem cut_text {cell : Text} {content : Content} (h : Denotes cell content) (width : Nat) :
    (content.text width).takeWhile (! isMark ·) = content.text 1 ∧
      (content.text width).dropWhile (! isMark ·) = countText content width := by
  rw [text_eq_append]
  apply takeWhile_append_of_boundary
  · intro p hp
    rw [isMark_of_mem_text h p hp]
    rfl
  · intro p hp
    rw [head?_countText hp]
    rfl

theorem blank_not_mem_text {cell : Text} {content : Content} (h : Denotes cell content)
    (width : Nat) : .char ' ' ∉ content.text width := by
  have hcount : .char ' ' ∉ countText content width := by
    have hdigits : .char ' ' ∉ ofString (decimal width) := fun hmem =>
      absurd ((isDigits_decimal width).2 _ hmem) (by decide)
    cases content with
    | immediate | condition =>
      rw [countText, runCount]
      split_ifs <;> simp [hdigits]
    | _ => exact List.not_mem_nil
  rw [text_eq_append, List.mem_append]
  rintro (hmem | hmem)
  · exact absurd (isMark_of_mem_text h _ hmem) (by decide)
  · exact hcount hmem

/-- The count gives the width of a run. -/
theorem eq_of_countText_eq {content : Content} (hrun : ∃ c, continues content c = true)
    {width width' : Nat} (hpos : 0 < width) (hpos' : 0 < width')
    (h : countText content width = countText content width') : width = width' := by
  have hcount : runCount width = runCount width' := by
    obtain ⟨c, hc⟩ := hrun
    cases content with
    | immediate | condition => exact h
    | _ => exact nomatch hc
  unfold runCount at hcount
  split_ifs at hcount
  · have hdigits := congrArg (numeral? 10 digitValue?) (List.cons.inj hcount).2
    rw [numeral?_decimal, numeral?_decimal] at hdigits
    exact Option.some.inj hdigits
  · omega

end Layout

/-! ### Fields -/

/-- A field as a row gives it. -/
structure Field.IsLaidOut (f : Field) : Prop where
  /-- The field holds what some cell denotes. -/
  exists_denotes : ∃ cell, Layout.Denotes cell f.content
  /-- The field is not empty. -/
  width_pos : 0 < f.width
  /-- A slice has the bits that it asks for, or all that are left. -/
  width_eq_min : ∀ wanted, Layout.wanted? f.content = some wanted →
    f.width = min wanted (f.lsb + f.width)
  /-- A field that is neither a slice nor a run has one bit. -/
  width_eq_one : Layout.wanted? f.content = none → (∀ c, Layout.continues f.content c = false) →
    f.width = 1

/-- A field is known by its highest bit and its text. -/
theorem Field.eq_of_text_eq {f g : Field} (hf : f.IsLaidOut) (hg : g.IsLaidOut)
    (htop : f.lsb + f.width = g.lsb + g.width) (htext : f.text = g.text) : f = g := by
  obtain ⟨cell, hcell⟩ := hf.exists_denotes
  obtain ⟨cell', hcell'⟩ := hg.exists_denotes
  have hcut := Layout.cut_text hcell f.width
  rw [show f.content.text f.width = g.content.text g.width from htext,
    (Layout.cut_text hcell' g.width).1, (Layout.cut_text hcell' g.width).2] at hcut
  obtain ⟨hsymbol, hcount⟩ := hcut
  -- The text before the count is a cell that denotes both contents.
  have hcontent : f.content = g.content :=
    Layout.eq_of_denotes (Layout.denotes_text hcell) (hsymbol ▸ Layout.denotes_text hcell')
  have hwidth : f.width = g.width := by
    cases hwanted : Layout.wanted? f.content with
    | some wanted =>
      have hmin := hf.width_eq_min wanted hwanted
      have hmin' := hg.width_eq_min wanted (hcontent ▸ hwanted)
      omega
    | none =>
      by_cases hrun : ∃ c, Layout.continues f.content c = true
      · rw [← hcontent] at hcount
        exact Layout.eq_of_countText_eq hrun hf.width_pos hg.width_pos hcount.symm
      · have hsingle : ∀ c, Layout.continues f.content c = false := by simpa using hrun
        rw [hf.width_eq_one hwanted hsingle,
          hg.width_eq_one (hcontent ▸ hwanted) (hcontent ▸ hsingle)]
  have hlsb : f.lsb = g.lsb := by omega
  cases f
  cases g
  simp only at hlsb hwidth hcontent
  rw [hlsb, hwidth, hcontent]

/-- Fields that fill the same bits are known by their texts. -/
theorem Tiles.eq_of_map_text_eq {top : Nat} {fields fields' : List Field} (h : Tiles top fields)
    (h' : Tiles top fields') (hlaid : ∀ f ∈ fields, f.IsLaidOut)
    (hlaid' : ∀ f ∈ fields', f.IsLaidOut)
    (htexts : fields.map Field.text = fields'.map Field.text) : fields = fields' := by
  induction fields generalizing top fields' with
  | nil => exact (List.map_eq_nil_iff.mp htexts.symm).symm
  | cons f rest ih =>
    cases fields' with
    | nil => exact nomatch htexts
    | cons g rest' =>
      obtain ⟨-, htop, hrest⟩ := h
      obtain ⟨-, htop', hrest'⟩ := h'
      rw [List.forall_mem_cons] at hlaid hlaid'
      obtain ⟨htext, hothers⟩ := List.cons.inj htexts
      -- The first fields are equal, so that the others fill the same bits again.
      obtain rfl := Field.eq_of_text_eq hlaid.1 hlaid'.1 (htop.trans htop'.symm) htext
      rw [ih hrest hrest' hlaid.2 hlaid'.2 hothers]

/-! ### Numbers that can be written -/

namespace Layout

/-- A number that was read from digits is not too long to be written. -/
theorem lt_writingLimit_of_number {digits : Text} (hd : IsDigits digits) {n : Nat}
    (h : number digits = .ok n) : n < writingLimit := by
  have hlt := numeral?_lt (numeral?_of_number hd h)
  rw [number] at h
  split_ifs at h with hlimit
  exact lt_writingLimit_of_lt (by omega) hlt

/-- The numbers of a field that was read, its width apart, are not too long to be written. -/
theorem natAbs_lt_of_fieldAt {bit : Nat} {cell : Text} {next : List Text} {f : Field}
    {ns : List Notice} (h : (fieldAt bit cell next).Gives f ns) :
    ∀ n ∈ f.content.writtenNumbers 1, n.natAbs < writingLimit := by
  simp only [fieldAt] at h
  split at h
  case h_2 value hs =>
    obtain ⟨rfl, -⟩ := Attempt.gives_pure.mp h
    have hdenotes : Denotes cell (.fixed value) := by
      rw [denotes_iff_symbol, hs]
      rfl
    have hone : ∀ n : Int, Denotes cell (.fixed n) → n.natAbs < writingLimit := by
      intro n hn
      cases hn <;> exact lt_writingLimit_of_lt (k := 1) (by decide) (by decide)
    simpa [Content.writtenNumbers] using hone value hdenotes
  case h_3 register hi lo hs =>
    obtain ⟨m, n₁, n₂, hm, h₂, -⟩ := Attempt.gives_bind.mp h
    obtain ⟨n, n₃, n₄, hn, h₄, -⟩ := Attempt.gives_bind.mp h₂
    obtain ⟨width, n₅, n₆, -, h₆, -⟩ := Attempt.gives_bind.mp h₄
    obtain ⟨rfl, -⟩ := Attempt.gives_pure.mp h₆
    obtain ⟨_, _, _, _, _, _, _, _, hhi, hlo, -⟩ := isSliceCell_of_symbol hs
    have hm := lt_writingLimit_of_number hhi (Attempt.gives_liftExcept.mp hm).1
    have hn := lt_writingLimit_of_number hlo (Attempt.gives_liftExcept.mp hn).1
    simpa [Content.writtenNumbers] using ⟨hm, hn⟩
  case h_4 register digits hs =>
    obtain ⟨n, n₁, n₂, hn, h₂, -⟩ := Attempt.gives_bind.mp h
    obtain ⟨rfl, -⟩ := Attempt.gives_pure.mp h₂
    obtain ⟨_, _, _, _, _, _, hdigits, -⟩ := isBitCell_of_symbol hs
    have hn := lt_writingLimit_of_number hdigits (Attempt.gives_liftExcept.mp hn).1
    simpa [Content.writtenNumbers] using hn
  -- The other fields write no number but their width.
  all_goals
    obtain ⟨rfl, -⟩ := Attempt.gives_pure.mp h
    exact List.forall_mem_nil _

/-- The text of a field has no other numbers than those of its content and its width. -/
theorem mem_writtenNumbers {content : Content} {width n : Int}
    (h : n ∈ content.writtenNumbers width) : n ∈ content.writtenNumbers 1 ∨ n = width := by
  cases content with
  | immediate | condition =>
    rw [Content.writtenNumbers] at h
    split_ifs at h
    · exact .inr (List.mem_singleton.mp h)
    · exact absurd h List.not_mem_nil
  | _ => exact .inl h

/-! ### Rows -/

section

variable {cells : List Json.Value} {fields : List Field} {notices : List Notice} {f : Field}

theorem isLaidOut_of_ofCells (h : (ofCells cells).Gives fields notices) (hf : f ∈ fields) :
    f.IsLaidOut where
  exists_denotes := ⟨_, (denotes_iff_of_ofCells h hf f.content).mpr rfl⟩
  width_pos := ((tiles_of_ofCells h).bounds hf).1
  width_eq_min := fun _ hwanted => (scans_of_ofCells h).width_eq_min hf hwanted
  width_eq_one := (scans_of_ofCells h).width_eq_one hf

/-- The text of a row's field is not refused. -/
theorem checkedText_of_ofCells (h : (ofCells cells).Gives fields notices) (hf : f ∈ fields) :
    f.content.checkedText f.width = .ok f.text := by
  obtain ⟨next, ns, -, hstep⟩ := (scans_of_ofCells h).exists_fieldAt hf
  have hwidth : f.width < writingLimit := by
    have := ((tiles_of_ofCells h).bounds hf).2
    exact lt_writingLimit_of_lt (k := 2) (by decide) (by omega)
  rw [Content.checkedText, if_neg]
  · rfl
  · rw [List.any_eq_true]
    rintro ⟨n, hn, hlong⟩
    rw [decide_eq_true_eq] at hlong
    rcases mem_writtenNumbers hn with hn | rfl
    · exact absurd (natAbs_lt_of_fieldAt hstep n hn) (by omega)
    · exact absurd hwidth (by omega)

/-- The joined texts of a row's fields are cut at the blanks. -/
theorem splitAt_join_text (h : (ofCells cells).Gives fields notices) :
    splitAt ' ' (join " " (fields.map Field.text)) = fields.map Field.text := by
  apply splitAt_join rfl
  · rw [Ne, List.map_eq_nil_iff]
    rintro rfl
    exact nomatch tiles_of_ofCells h
  · intro text htext
    obtain ⟨f, hf, rfl⟩ := List.mem_map.mp htext
    obtain ⟨cell, hcell⟩ := (isLaidOut_of_ofCells h hf).exists_denotes
    exact blank_not_mem_text hcell f.width

end

end Layout

namespace Rule

/-- **The text of a layout is faithful.**  No field of a row has a number that is too long to be
written, and if the fields of two rows have the same text, they are the same. -/
theorem layoutText_faithful {cells cells' : List Json.Value} {r r' : Rule}
    {notices notices' : List Notice} (h : (Layout.ofCells cells).Gives r.fields notices)
    (h' : (Layout.ofCells cells').Gives r'.fields notices') :
    (∀ f ∈ r.fields, f.content.checkedText f.width = .ok f.text) ∧
      (r.layoutText = r'.layoutText → r.fields = r'.fields) := by
  refine ⟨fun f hf => Layout.checkedText_of_ofCells h hf, fun htext => ?_⟩
  have hsplit := congrArg (splitAt ' ') htext
  rw [layoutText, layoutText, Layout.splitAt_join_text h, Layout.splitAt_join_text h'] at hsplit
  exact (Layout.tiles_of_ofCells h).eq_of_map_text_eq (Layout.tiles_of_ofCells h')
    (fun f hf => Layout.isLaidOut_of_ofCells h hf) (fun f hf => Layout.isLaidOut_of_ofCells h' hf)
    hsplit

/-- Two slices that are cut off at the same bits have different texts. -/
theorem layoutText_faithful_of_clamped_rows :
    let row (last : String) := ["1", "y", "Y", "BCOND", "cond", " ", last].map fun s : String =>
      Json.Value.text s
    let rule (hi : Int) : Rule := ⟨"LD", "rd, Y", .registerImmediate,
      [⟨15, 1, .fixed 1⟩, ⟨13, 2, .immediate "Y"⟩, ⟨11, 2, .condition⟩, ⟨10, 1, .ignored⟩,
       ⟨0, 10, .slice "rt" hi 0⟩]⟩
    (Layout.ofCells (row "RT[11 : 0]")).Gives (rule 11).fields [.sliceClamped "RT[11 : 0]" 9 12] ∧
      (Layout.ofCells (row "rt[012:0]")).Gives (rule 12).fields [.sliceClamped "rt[012:0]" 9 13] ∧
      (rule 11).layoutText = "1 Y*2 COND*2 x rt[11:0]" ∧
      (∀ f ∈ (rule 11).fields, f.content.checkedText f.width = .ok f.text) ∧
      (rule 11).layoutText ≠ (rule 12).layoutText := by
  intro row rule
  have h : (Layout.ofCells (row "RT[11 : 0]")).Gives (rule 11).fields
      [.sliceClamped "RT[11 : 0]" 9 12] := by decide +kernel
  have h' : (Layout.ofCells (row "rt[012:0]")).Gives (rule 12).fields
      [.sliceClamped "rt[012:0]" 9 13] := by decide +kernel
  obtain ⟨hchecked, hfaithful⟩ := layoutText_faithful h h'
  refine ⟨h, h', by decide +kernel, hchecked, fun htext => ?_⟩
  exact absurd (hfaithful htext) (by decide)

end Rule

end GridAsm
