import GridAsm.Shape
import GridAsm.Text.Blank
import GridAsm.Text.Digit
import GridAsm.Text.Lower
import GridAsm.Text.Split
import GridAsm.Text.Upper
import Mathlib.Algebra.Order.Ring.Nat
import Mathlib.Data.List.DropRight
import Mathlib.Data.List.TakeWhile

/-!
# Blanks, digits and letters in texts

A text is the blanks at its start and the rest, and a run of digits ends where something else
begins.  No code point is both a blank and a digit (`isDigit_of_isBlank`), which is what makes
numerals between blanks readable in one way only.

`trim` gives the one text without blanks at its ends that the rest is blanks around (`trim_append`).
It may be done before a text is cut into pieces or after (`map_trim_splitAt_trim`).

A keyword is spelled by texts of its own length only, and an ASCII letter by its two cases only.
-/

namespace GridAsm.Text

/-! ### Runs at the start of a text -/

/-- A run that ends where something else begins is taken whole. -/
theorem takeWhile_append_of_boundary {p : CodePoint → Bool} {run rest : Text}
    (hrun : ∀ x ∈ run, p x = true) (hrest : ∀ x, rest.head? = some x → p x = false) :
    (run ++ rest).takeWhile p = run ∧ (run ++ rest).dropWhile p = rest := by
  have hstop : rest.takeWhile p = [] ∧ rest.dropWhile p = rest := by
    cases rest with
    | nil => simp
    | cons x tail => simp [hrest x rfl]
  rw [List.takeWhile_append_of_pos hrun, List.dropWhile_append_of_pos hrun, hstop.1, hstop.2,
    List.append_nil]
  exact ⟨rfl, rfl⟩

/-- The blanks at the start of a text and the rest. -/
theorem exists_eq_append_trimStart (t : Text) : ∃ b, allBlank b = true ∧ t = b ++ trimStart t := by
  refine ⟨t.takeWhile isBlank, ?_, (List.takeWhile_append_dropWhile).symm⟩
  rw [allBlank, List.all_eq_true]
  intro p hp
  exact List.mem_takeWhile_imp hp

/-- Blanks before something that is no blank are dropped. -/
theorem trimStart_append {b rest : Text} (hb : allBlank b = true)
    (hrest : ∀ p, rest.head? = some p → isBlank p = false) : trimStart (b ++ rest) = rest :=
  (takeWhile_append_of_boundary (List.all_eq_true.mp hb) hrest).2

/-! ### Blanks at both ends -/

/-- A text without blanks at its ends. -/
def Trimmed (t : Text) : Prop :=
  (∀ p, t.head? = some p → isBlank p = false) ∧ ∀ p, t.getLast? = some p → isBlank p = false

theorem allBlank_append {s t : Text} :
    allBlank (s ++ t) = true ↔ allBlank s = true ∧ allBlank t = true := by
  simp [allBlank]

theorem not_mem_of_allBlank {p : CodePoint} (hp : isBlank p = false) {b : Text}
    (hb : allBlank b = true) : p ∉ b := by
  intro hmem
  rw [List.all_eq_true.mp hb p hmem] at hp
  exact Bool.noConfusion hp

theorem trimEnd_append {t b : Text} (ht : ∀ p, t.getLast? = some p → isBlank p = false)
    (hb : allBlank b = true) : trimEnd (t ++ b) = t := by
  have hreverse : allBlank b.reverse = true := by
    rw [allBlank, List.all_reverse]
    exact hb
  have hdrop : trimStart (b.reverse ++ t.reverse) = t.reverse := by
    apply trimStart_append hreverse
    intro p hp
    exact ht p (by rwa [List.head?_reverse] at hp)
  rw [trimEnd, List.reverse_append]
  show (trimStart (b.reverse ++ t.reverse)).reverse = t
  rw [hdrop, List.reverse_reverse]

/-- The blanks around a trimmed text are dropped. -/
theorem trim_append {b t b' : Text} (hb : allBlank b = true) (ht : Trimmed t)
    (hb' : allBlank b' = true) : trim (b ++ (t ++ b')) = t := by
  cases t with
  | nil =>
    have hall : trimStart (b ++ b') = [] :=
      List.dropWhile_eq_nil_iff.mpr (List.all_eq_true.mp (allBlank_append.mpr ⟨hb, hb'⟩))
    rw [List.nil_append, trim, hall]
    rfl
  | cons p rest =>
    have hstart : trimStart (b ++ (p :: rest ++ b')) = p :: rest ++ b' := trimStart_append hb ht.1
    rw [trim, hstart]
    exact trimEnd_append ht.2 hb'

/-- A text is its trimmed form between blanks. -/
theorem exists_eq_append_trim (t : Text) :
    ∃ b b', allBlank b = true ∧ allBlank b' = true ∧ t = b ++ (trim t ++ b') := by
  obtain ⟨b, hb, hstart⟩ := exists_eq_append_trimStart t
  obtain ⟨b', hb', hend⟩ := exists_eq_append_trimStart (trimStart t).reverse
  refine ⟨b, b'.reverse, hb, ?_, ?_⟩
  · rw [allBlank, List.all_reverse]
    exact hb'
  · have htrim : trimStart t = trim t ++ b'.reverse := by
      rw [← List.reverse_reverse (trimStart t), hend, List.reverse_append]
      rfl
    rw [← htrim]
    exact hstart

theorem isBlank_of_head?_trimStart {t : Text} {p : CodePoint} (h : (trimStart t).head? = some p) :
    isBlank p = false := by
  have hhead := List.head?_dropWhile_not isBlank t
  rw [show t.dropWhile isBlank = trimStart t from rfl, h] at hhead
  exact hhead

theorem trimmed_trim (t : Text) : Trimmed (trim t) := by
  constructor
  · intro p hp
    have hprefix : trim t <+: trimStart t := List.rdropWhile_prefix isBlank _
    obtain ⟨b, hb⟩ := hprefix
    apply isBlank_of_head?_trimStart
    rw [← hb, List.head?_append, hp]
    rfl
  · intro p hp
    rw [trim, trimEnd, List.getLast?_reverse] at hp
    exact isBlank_of_head?_trimStart hp

theorem Trimmed.trim_eq {t : Text} (h : Trimmed t) : trim t = t := by
  have hbare := @trim_append [] t [] rfl h rfl
  rwa [List.nil_append, List.append_nil] at hbare

theorem trim_eq_iff_trimmed {t : Text} : trim t = t ↔ Trimmed t :=
  ⟨fun h => h ▸ trimmed_trim t, Trimmed.trim_eq⟩

instance (t : Text) : Decidable (Trimmed t) :=
  decidable_of_iff (trim t = t) trim_eq_iff_trimmed

/-- A text without blanks at its ends stays as it is. -/
theorem trim_trim (t : Text) : trim (trim t) = trim t :=
  (trimmed_trim t).trim_eq

theorem trim_eq_self {t : Text} (h : ∀ p ∈ t, isBlank p = false) : trim t = t :=
  Trimmed.trim_eq ⟨fun p hp => h p (List.mem_of_head? hp), fun p hp => h p (List.mem_of_getLast? hp)⟩

theorem trim_append_blanks {b t b' : Text} (hb : allBlank b = true) (hb' : allBlank b' = true) :
    trim (b ++ (t ++ b')) = trim t := by
  obtain ⟨c, c', hc, hc', ht⟩ := exists_eq_append_trim t
  have houter := trim_append (allBlank_append.mpr ⟨hb, hc⟩) (trimmed_trim t)
    (allBlank_append.mpr ⟨hc', hb'⟩)
  rw [← houter]
  congr 1
  conv_lhs => rw [ht]
  simp

theorem trim_append_left {b : Text} (hb : allBlank b = true) (t : Text) : trim (b ++ t) = trim t := by
  have h := @trim_append_blanks b t [] hb rfl
  rwa [List.append_nil] at h

theorem mem_of_mem_trim {t : Text} {p : CodePoint} (h : p ∈ trim t) : p ∈ t := by
  obtain ⟨b, b', -, -, ht⟩ := exists_eq_append_trim t
  rw [ht]
  simp [h]

theorem isBlank_of_trim_eq_nil {t : Text} (h : trim t = []) {p : CodePoint} (hp : p ∈ t) :
    isBlank p = true := by
  obtain ⟨b, b', hb, hb', ht⟩ := exists_eq_append_trim t
  rw [h, List.nil_append] at ht
  rw [ht] at hp
  exact List.all_eq_true.mp (allBlank_append.mpr ⟨hb, hb'⟩) p hp

theorem trim_eq_nil_iff {t : Text} : trim t = [] ↔ allBlank t = true := by
  constructor
  · intro h
    exact List.all_eq_true.mpr fun p hp => isBlank_of_trim_eq_nil h hp
  · intro h
    have hnil : Trimmed [] := ⟨by simp, by simp⟩
    have htrim := @trim_append t [] [] h hnil rfl
    simpa using htrim

/-- The first code point stays if it is no blank. -/
theorem head?_trim {t : Text} {p : CodePoint} (h : t.head? = some p) (hp : isBlank p = false) :
    (trim t).head? = some p := by
  obtain ⟨b, b', hb, -, ht⟩ := exists_eq_append_trim t
  cases b with
  | nil =>
    have hne : trim t ≠ [] := by
      intro hnil
      rw [isBlank_of_trim_eq_nil hnil (List.mem_of_head? h)] at hp
      exact Bool.noConfusion hp
    rw [ht, List.nil_append, List.head?_append_of_ne_nil _ hne] at h
    exact h
  | cons q b =>
    rw [ht] at h
    obtain rfl := Option.some.inj h
    rw [List.all_eq_true.mp hb q (List.mem_cons_self ..)] at hp
    exact Bool.noConfusion hp

/-! ### Pieces between separators -/

theorem splitAt_eq_splitOn (sep : Char) (t : Text) : splitAt sep t = t.splitOn (.char sep) := by
  induction t with
  | nil => rfl
  | cons p rest ih =>
    rw [splitAt, ih]
    unfold List.splitOn
    rw [List.splitOnP_cons_eq_if_modifyHead]
    by_cases hp : p = .char sep
    · rw [if_pos hp, if_pos (beq_iff_eq.mpr hp)]
    · rw [if_neg hp, if_neg (by simpa using hp)]
      cases h : rest.splitOnP (· == .char sep) with
      | nil => exact absurd h (List.splitOnP_ne_nil _ _)
      | cons piece pieces => rfl

theorem splitAt_of_not_mem {sep : Char} {t : Text} (h : .char sep ∉ t) : splitAt sep t = [t] := by
  rw [splitAt_eq_splitOn, List.splitOn]
  apply List.splitOnP_eq_singleton
  intro p hp
  rw [beq_eq_false_iff_ne]
  exact fun heq => h (heq ▸ hp)

theorem exists_splitAt_eq_cons (sep : Char) (t : Text) :
    ∃ first rest, splitAt sep t = first :: rest := by
  apply List.exists_cons_of_ne_nil
  rw [splitAt_eq_splitOn]
  exact List.splitOnP_ne_nil _ _

/-- What holds no separator is added to the first piece, in front of a text. -/
theorem exists_splitAt_append_left {sep : Char} {b : Text} (hb : .char sep ∉ b) (t : Text) :
    ∃ first rest, splitAt sep t = first :: rest ∧ splitAt sep (b ++ t) = (b ++ first) :: rest := by
  obtain ⟨first, rest, ht⟩ := exists_splitAt_eq_cons sep t
  refine ⟨first, rest, ht, ?_⟩
  induction b with
  | nil => exact ht
  | cons p b ih =>
    rw [List.mem_cons, not_or] at hb
    rw [List.cons_append, splitAt, if_neg (Ne.symm hb.1), ih hb.2]
    rfl

/-- What holds no separator is added to the last piece, behind a text. -/
theorem exists_splitAt_append_right {sep : Char} {b : Text} (hb : .char sep ∉ b) (t : Text) :
    ∃ init last, splitAt sep t = init ++ [last] ∧ splitAt sep (t ++ b) = init ++ [last ++ b] := by
  induction t with
  | nil => exact ⟨[], [], rfl, splitAt_of_not_mem hb⟩
  | cons p t ih =>
    obtain ⟨init, last, ht, htb⟩ := ih
    rw [List.cons_append, splitAt, splitAt, ht, htb]
    split_ifs with hp
    · exact ⟨[] :: init, last, rfl, rfl⟩
    · cases init with
      | nil => exact ⟨[], p :: last, rfl, rfl⟩
      | cons first init => exact ⟨(p :: first) :: init, last, rfl, rfl⟩

/-- The blanks at the ends of a text do not change its pieces but for blanks. -/
theorem map_trim_splitAt_trim {sep : Char} (hsep : isBlank (.char sep) = false) (t : Text) :
    (splitAt sep (trim t)).map trim = (splitAt sep t).map trim := by
  obtain ⟨b, b', hb, hb', ht⟩ := exists_eq_append_trim t
  obtain ⟨first, rest, hleft, hwhole⟩ :=
    exists_splitAt_append_left (not_mem_of_allBlank hsep hb) (trim t ++ b')
  obtain ⟨init, last, hinner, hright⟩ :=
    exists_splitAt_append_right (not_mem_of_allBlank hsep hb') (trim t)
  have hfirst : trim (b ++ first) = trim first := trim_append_left hb first
  have hlast : trim (last ++ b') = trim last := @trim_append_blanks [] last b' rfl hb'
  calc (splitAt sep (trim t)).map trim
      = (splitAt sep (trim t ++ b')).map trim := by
        rw [hinner, hright]
        simp [hlast]
    _ = (splitAt sep (b ++ (trim t ++ b'))).map trim := by
        rw [hleft, hwhole]
        simp [hfirst]
    _ = (splitAt sep t).map trim := by rw [← ht]

/-- The pieces of a text have no separator, and nothing that the text does not have. -/
theorem mem_of_mem_splitAt {sep : Char} {t piece : Text} (h : piece ∈ splitAt sep t)
    {p : CodePoint} (hp : p ∈ piece) : p ≠ .char sep ∧ p ∈ t := by
  induction t generalizing piece with
  | nil =>
    rw [splitAt, List.mem_singleton] at h
    rw [h] at hp
    exact nomatch hp
  | cons q t ih =>
    obtain ⟨first, rest, ht⟩ := exists_splitAt_eq_cons sep t
    rw [splitAt, ht] at h
    rw [ht] at ih
    split_ifs at h with hq
    · rcases List.mem_cons.mp h with rfl | hrest
      · exact nomatch hp
      · exact ⟨(ih hrest hp).1, List.mem_cons_of_mem _ (ih hrest hp).2⟩
    · rcases List.mem_cons.mp h with rfl | hrest
      · rcases List.mem_cons.mp hp with rfl | hfirst
        · exact ⟨hq, List.mem_cons_self ..⟩
        · have hin := ih (List.mem_cons_self ..) hfirst
          exact ⟨hin.1, List.mem_cons_of_mem _ hin.2⟩
      · have hin := ih (List.mem_cons_of_mem _ hrest) hp
        exact ⟨hin.1, List.mem_cons_of_mem _ hin.2⟩

theorem join_singleton (separator : String) (t : Text) : join separator [t] = t := by
  simp [join]

theorem join_cons_cons (separator : String) (t next : Text) (ts : List Text) :
    join separator (t :: next :: ts) = t ++ (ofString separator ++ join separator (next :: ts)) := by
  simp [join, List.intercalate]

theorem join_cons_left (separator : String) (p : CodePoint) (t : Text) (ts : List Text) :
    join separator ((p :: t) :: ts) = p :: join separator (t :: ts) := by
  cases ts with
  | nil => rfl
  | cons next ts => rw [join_cons_cons, join_cons_cons, List.cons_append]

theorem mem_join {separator : String} {ts : List Text} {p : CodePoint}
    (h : p ∈ join separator ts) : p ∈ ofString separator ∨ ∃ t ∈ ts, p ∈ t := by
  induction ts with
  | nil => exact nomatch h
  | cons t ts ih =>
    cases ts with
    | nil =>
      rw [join_singleton] at h
      exact .inr ⟨t, List.mem_cons_self .., h⟩
    | cons next ts =>
      rw [join_cons_cons, List.mem_append, List.mem_append] at h
      rcases h with h | h | h
      · exact .inr ⟨t, List.mem_cons_self .., h⟩
      · exact .inl h
      · rcases ih h with hsep | ⟨u, hu, hp⟩
        · exact .inl hsep
        · exact .inr ⟨u, List.mem_cons_of_mem _ hu, hp⟩

/-- Joined texts are split where they were joined. -/
theorem splitAt_join {sep : Char} {separator : String} (hsep : ofString separator = [.char sep])
    {ts : List Text} (hne : ts ≠ []) (h : ∀ t ∈ ts, .char sep ∉ t) :
    splitAt sep (join separator ts) = ts := by
  rw [splitAt_eq_splitOn, join, hsep]
  exact List.splitOn_intercalate _ h hne

/-! ### Digits -/

/-- A text of digits, one at least. -/
def IsDigits (t : Text) : Prop :=
  t ≠ [] ∧ ∀ p ∈ t, isDigit p = true

theorem IsDigits.exists_cons {t : Text} (h : IsDigits t) :
    ∃ p rest, t = p :: rest ∧ isDigit p = true := by
  obtain ⟨hne, hall⟩ := h
  cases t with
  | nil => exact absurd rfl hne
  | cons p rest => exact ⟨p, rest, rfl, hall p (List.mem_cons_self ..)⟩

/-- The digits at the start of a text, if there are any. -/
theorem isDigits_takeWhile {t : Text} (h : (t.takeWhile isDigit).isEmpty = false) :
    IsDigits (t.takeWhile isDigit) :=
  ⟨by simpa using h, fun _ hp => List.mem_takeWhile_imp hp⟩

/-- A code in an ascending table of ranges lies in one of them. -/
theorem exists_range_of_inRanges {n : Nat} {table : List (Nat × Nat)}
    (h : inRanges n table = true) : ∃ r ∈ table, r.1 ≤ n ∧ n ≤ r.2 := by
  induction table with
  | nil => simp [inRanges] at h
  | cons r rest ih =>
    obtain ⟨lo, hi⟩ := r
    rw [inRanges] at h
    split_ifs at h with hlo
    rcases Bool.or_eq_true_iff.mp h with hhi | hrest
    · exact ⟨(lo, hi), List.mem_cons_self .., by omega, by simpa using hhi⟩
    · obtain ⟨r, hr, hmem⟩ := ih hrest
      exact ⟨r, List.mem_cons_of_mem _ hr, hmem⟩

/-- No blank is a digit. -/
theorem isDigit_of_isBlank {p : CodePoint} (h : isBlank p = true) : isDigit p = false := by
  -- All blanks lie in ten ranges, and no range holds a digit.
  have hranges : ∀ r ∈ blankRanges, ∀ n ∈ List.range' r.1 (r.2 + 1 - r.1),
      (digitAfterZero? n digitZeros).isSome = false := by decide +kernel
  obtain ⟨r, hr, hlo, hhi⟩ := exists_range_of_inRanges h
  exact hranges r hr p.code (by rw [List.mem_range'_1]; omega)

/-- No blank may stand in a name. -/
theorem isWordChar_of_isBlank {p : CodePoint} (h : isBlank p = true) : isWordChar p = false := by
  have hranges : ∀ r ∈ blankRanges, r.2 < 0xD800 ∧ ∀ n ∈ List.range' r.1 (r.2 + 1 - r.1),
      isWordChar (.char (Char.ofNat n)) = false := by decide +kernel
  obtain ⟨r, hr, hlo, hhi⟩ := exists_range_of_inRanges h
  obtain ⟨hsurrogate, hchars⟩ := hranges r hr
  cases p with
  | lone offset =>
    simp only [CodePoint.code] at hhi
    omega
  | char c =>
    have hlo' : r.1 ≤ c.toNat := hlo
    have hhi' : c.toNat ≤ r.2 := hhi
    have hword := hchars c.toNat (by rw [List.mem_range'_1]; omega)
    rwa [Char.ofNat_toNat] at hword

theorem isBlank_of_isDigit {p : CodePoint} (h : isDigit p = true) : isBlank p = false := by
  cases hb : isBlank p with
  | false => rfl
  | true => rw [isDigit_of_isBlank hb] at h; exact absurd h Bool.false_ne_true

/-- Digits have a value. -/
theorem IsDigits.numeral?_isSome {t : Text} (h : IsDigits t) :
    (numeral? 10 digitValue? t).isSome = true := by
  have hmap : ∀ ps : Text, (∀ p ∈ ps, isDigit p = true) → (ps.mapM digitValue?).isSome = true := by
    intro ps hps
    induction ps with
    | nil => rfl
    | cons p rest ih =>
      obtain ⟨d, hd⟩ := Option.isSome_iff_exists.mp (hps p (List.mem_cons_self ..))
      obtain ⟨ds, hds⟩ := Option.isSome_iff_exists.mp
        (ih fun q hq => hps q (List.mem_cons_of_mem _ hq))
      simp [List.mapM_cons, hd, hds]
  rw [numeral?, if_neg (by simpa using h.1), Option.isSome_map]
  exact hmap t h.2

theorem digitAfterZero?_lt {n d : Nat} {zeros : List Nat} (h : digitAfterZero? n zeros = some d) :
    d < 10 := by
  induction zeros with
  | nil => exact nomatch h
  | cons z rest ih =>
    rw [digitAfterZero?] at h
    split_ifs at h with hbelow hdigit
    · obtain rfl := Option.some.inj h
      omega
    · exact ih h

/-- The value of digits lies below the power of the base that their number gives. -/
theorem positional_lt {base : Nat} {digits : List Nat} (h : ∀ d ∈ digits, d < base) :
    positional base digits < base ^ digits.length := by
  have hfrom : ∀ acc, digits.foldl (fun acc d => acc * base + d) acc <
      (acc + 1) * base ^ digits.length := by
    induction digits with
    | nil => simp
    | cons d rest ih =>
      intro acc
      have hd : d < base := h d (List.mem_cons_self ..)
      have hstep : acc * base + d + 1 ≤ (acc + 1) * base := by
        rw [Nat.add_one_mul]
        omega
      calc (d :: rest).foldl (fun acc d => acc * base + d) acc
          < (acc * base + d + 1) * base ^ rest.length :=
            ih (fun e he => h e (List.mem_cons_of_mem _ he)) _
        _ ≤ (acc + 1) * base * base ^ rest.length := Nat.mul_le_mul_right _ hstep
        _ = (acc + 1) * base ^ (d :: rest).length := by
            rw [List.length_cons, Nat.pow_succ', Nat.mul_assoc]
  simpa [positional] using hfrom 0

/-- A decimal number has no more digits than it was written with. -/
theorem numeral?_lt {t : Text} {n : Nat} (h : numeral? 10 digitValue? t = some n) :
    n < 10 ^ t.length := by
  have hmap : ∀ (ps : Text) (ds : List Nat), ps.mapM digitValue? = some ds →
      ds.length = ps.length ∧ ∀ d ∈ ds, d < 10 := by
    intro ps
    induction ps with
    | nil => simp
    | cons p rest ih =>
      intro ds hds
      rw [List.mapM_cons] at hds
      obtain ⟨d, hd, hrest⟩ := Option.bind_eq_some_iff.mp hds
      obtain ⟨tail, htail, hcons⟩ := Option.bind_eq_some_iff.mp hrest
      obtain rfl := Option.some.inj hcons
      obtain ⟨hlength, hall⟩ := ih tail htail
      refine ⟨by rw [List.length_cons, List.length_cons, hlength], ?_⟩
      rw [List.forall_mem_cons]
      exact ⟨digitAfterZero?_lt hd, hall⟩
  rw [numeral?] at h
  split_ifs at h
  obtain ⟨ds, hds, rfl⟩ := Option.map_eq_some_iff.mp h
  obtain ⟨hlength, hall⟩ := hmap t ds hds
  rw [← hlength]
  exact positional_lt hall

/-- A number of no more digits than the limit can be written. -/
theorem lt_writingLimit_of_lt {n k : Nat} (hk : k ≤ digitLimit) (hn : n < 10 ^ k) :
    n < writingLimit := by
  -- The limit is kept as a variable, so that the power is never computed.
  unfold writingLimit
  generalize digitLimit = limit at hk ⊢
  exact hn.trans_le (Nat.pow_le_pow_right (by decide) hk)

/-! ### Keywords -/

theorem spells_iff {keyword : String} {t : Text} :
    spells keyword t = true ↔ t.map foldLetter = (ofString keyword).map foldLetter := by
  simp [spells]

theorem exists_of_mem_of_spells {keyword : String} {w : Text} (h : spells keyword w = true)
    {p : CodePoint} (hp : p ∈ w) : ∃ q ∈ ofString keyword, foldLetter p = foldLetter q := by
  have hmem : foldLetter p ∈ (ofString keyword).map foldLetter := by
    rw [← spells_iff.mp h]
    exact List.mem_map_of_mem hp
  obtain ⟨q, hq, hfold⟩ := List.mem_map.mp hmem
  exact ⟨q, hq, hfold.symm⟩

/-- A text that spells a keyword is as long. -/
theorem length_of_spells {keyword : String} {t : Text} (h : spells keyword t = true) :
    t.length = keyword.length := by
  have := congrArg List.length (spells_iff.mp h)
  simpa using this

/-- The number of a letter after it was made small. -/
theorem toNat_toLower (c : Char) :
    c.toLower.toNat = if 65 ≤ c.toNat ∧ c.toNat ≤ 90 then c.toNat + 32 else c.toNat := by
  unfold Char.toLower
  split_ifs with h h' h'
  · show (c.val + 32).toNat = _
    rw [UInt32.toNat_add]
    have hle : c.val.toNat ≤ 90 := h'.2
    show (c.val.toNat + 32) % 4294967296 = c.val.toNat + 32
    omega
  · exact absurd ⟨h.1, h.2⟩ h'
  · exact absurd ⟨h'.1, h'.2⟩ h
  · rfl

/-- A letter is folded from its two cases only, or from the long s. -/
theorem cases_of_foldLetter_eq (small capital : Char) (hcase : capital.toNat + 32 = small.toNat)
    {p : CodePoint} (h : foldLetter p = .char small) :
    p = .char small ∨ p = .char capital ∨ p = .char 'ſ' := by
  cases p with
  | lone offset => exact nomatch h
  | char c =>
    simp only [foldLetter, CodePoint.char.injEq] at h ⊢
    split_ifs at h with hlong
    · exact .inr (.inr hlong)
    · have hlower := CodePoint.char.inj h
      have hnum := toNat_toLower c
      rw [hlower] at hnum
      split_ifs at hnum with hc
      · exact .inr (.inl (Char.toNat_inj.mp (by omega)))
      · exact .inl (Char.toNat_inj.mp hnum.symm)

/-- A letter other than s is folded from its two cases only. -/
theorem eq_or_eq_of_foldLetter_eq (small capital : Char)
    (hcase : capital.toNat + 32 = small.toNat ∧ small ≠ 's') {p : CodePoint}
    (h : foldLetter p = .char small) : p = .char small ∨ p = .char capital := by
  rcases cases_of_foldLetter_eq small capital hcase.1 h with hsmall | hcapital | rfl
  · exact .inl hsmall
  · exact .inr hcapital
  · exact absurd (CodePoint.char.inj h).symm hcase.2

/-- A text that spells a keyword starts with the keyword's first letter, in one of its cases. -/
theorem exists_cons_of_spells (small capital : Char)
    (hcase : capital.toNat + 32 = small.toNat ∧ small ≠ 's') {keyword : String} {t : Text}
    (hhead : (ofString keyword).head?.map foldLetter = some (.char small))
    (h : spells keyword t = true) :
    ∃ c rest, t = .char c :: rest ∧ (c = small ∨ c = capital) := by
  rw [← List.head?_map, ← spells_iff.mp h, List.head?_map] at hhead
  obtain ⟨p, hp, hfold⟩ := Option.map_eq_some_iff.mp hhead
  obtain ⟨rest, rfl⟩ := List.head?_eq_some_iff.mp hp
  rcases eq_or_eq_of_foldLetter_eq small capital hcase hfold with rfl | rfl
  · exact ⟨small, rest, rfl, Or.inl rfl⟩
  · exact ⟨capital, rest, rfl, Or.inr rfl⟩

/-- A keyword of one letter is spelled in two ways. -/
theorem eq_singleton_of_spells (small capital : Char)
    (hcase : capital.toNat + 32 = small.toNat ∧ small ≠ 's') {keyword : String} {t : Text}
    (hhead : (ofString keyword).head?.map foldLetter = some (.char small))
    (hlength : keyword.length = 1) (h : spells keyword t = true) :
    t = [.char small] ∨ t = [.char capital] := by
  obtain ⟨c, rest, rfl, hc⟩ := exists_cons_of_spells small capital hcase hhead h
  have hlen := length_of_spells h
  rw [hlength, List.length_cons] at hlen
  obtain rfl : rest = [] := List.length_eq_zero_iff.mp (by omega)
  rcases hc with rfl | rfl
  · exact Or.inl rfl
  · exact Or.inr rfl

/-- The first letter of a text in small letters, if it is an ASCII letter. -/
theorem head?_lower_cons {c : Char} (h : c.toNat < 0x80) (rest : Text) :
    (lower (.char c :: rest)).head? = some (.char c.toLower) := by
  simp [lower, lowerFrom, lowerPoint, lowerChar, h, ofChars]

end GridAsm.Text
