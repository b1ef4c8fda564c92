import GridAsm.Proofs.Keyword

/-!
# Blanks next to marks

Commas and brackets are marks, and `Shape.squeeze` drops the blanks next to them: in a first pass
those after a mark and in a second one, which reads the text backwards, those before a mark.

* Blanks that were put in next to a mark leave no trace (`squeeze_insert`, `Text.wordRuns_insert`),
  so words and marks with blanks between them (`Text.Spaced`) are squeezed to the words and marks
  (`squeeze_of_spaced`).
* What squeezing drops stood next to a mark, so a text that is squeezed to words and marks is made
  of them, with blanks between them (`spaced_of_squeeze`).
-/

namespace GridAsm

open Text

namespace Text

/-! ### Blanks at one end -/

theorem allBlank_reverse (t : Text) : allBlank t.reverse = allBlank t :=
  List.all_reverse

theorem trimStart_blanks_append {b : Text} (hb : allBlank b = true) (t : Text) :
    trimStart (b ++ t) = trimStart t :=
  List.dropWhile_append_of_pos fun p hp => List.all_eq_true.mp hb p hp

theorem trimStart_append_of_not_allBlank {x : Text} (hx : allBlank x = false) (t : Text) :
    trimStart (x ++ t) = trimStart x ++ t := by
  have hne : ¬ (x.dropWhile isBlank).isEmpty = true := by
    rw [List.isEmpty_iff, List.dropWhile_eq_nil_iff, ← List.all_eq_true]
    exact Bool.eq_false_iff.mp hx
  unfold trimStart
  rw [List.dropWhile_append, if_neg hne]

/-- Trimming does not reach what stands inside. -/
theorem trim_append_append {a c : Text} (ha : allBlank a = false) (hc : allBlank c = false)
    (b : Text) : trim (a ++ (b ++ c)) = trimStart a ++ (b ++ trimEnd c) := by
  have hback : allBlank c.reverse = false := (allBlank_reverse c).trans hc
  show (trimStart (trimStart (a ++ (b ++ c))).reverse).reverse = _
  rw [trimStart_append_of_not_allBlank ha, List.reverse_append, List.reverse_append,
    List.append_assoc, trimStart_append_of_not_allBlank hback]
  simp [trimEnd, trimStart]

/-! ### Spaced texts -/

/-- Texts one after the other, with any blanks between them. -/
inductive Spaced : List Text → Text → Prop where
  | last (w : Text) : Spaced [w] w
  | cons (w : Text) {ws : List Text} {b rest : Text} (hb : allBlank b = true)
      (h : Spaced ws rest) : Spaced (w :: ws) (w ++ (b ++ rest))

theorem spaced_flatten {ws : List Text} (h : ws ≠ []) : Spaced ws ws.flatten := by
  induction ws with
  | nil => exact absurd rfl h
  | cons w ws ih =>
    by_cases hws : ws = []
    · rw [hws, List.flatten_singleton]
      exact .last w
    · exact .cons w (b := []) rfl (ih hws)

namespace Spaced

theorem exists_append {w t : Text} {ws : List Text} (h : Spaced (w :: ws) t) :
    ∃ rest, t = w ++ rest := by
  cases h with
  | last => exact ⟨[], (List.append_nil w).symm⟩
  | cons _ _ _ => exact ⟨_, rfl⟩

theorem concat {ws : List Text} {t b : Text} (h : Spaced ws t) (hb : allBlank b = true)
    (w : Text) : Spaced (ws ++ [w]) (t ++ (b ++ w)) := by
  induction h with
  | last w' => exact .cons w' hb (.last w)
  | cons w' hb' h ih =>
    rw [List.append_assoc, List.append_assoc]
    exact .cons w' hb' ih

theorem reverse {ws : List Text} {t : Text} (h : Spaced ws t) :
    Spaced (ws.map List.reverse).reverse t.reverse := by
  induction h with
  | last w => exact .last w.reverse
  | @cons w ws b rest hb h ih =>
    rw [List.reverse_append, List.reverse_append, List.append_assoc, List.map_cons,
      List.reverse_cons]
    exact ih.concat ((allBlank_reverse b).trans hb) w.reverse

end Spaced

end Text

namespace Shape

/-! ### Marks -/

theorem isPunctuation_smallLetter (p : CodePoint) :
    isPunctuation (smallLetter p) = isPunctuation p :=
  apply_smallLetter isPunctuation (by decide) p

theorem isPunctuation_foldLetter (p : CodePoint) :
    isPunctuation (foldLetter p) = isPunctuation p :=
  apply_foldLetter isPunctuation (by decide) isPunctuation_smallLetter p

theorem cases_of_isPunctuation {p : CodePoint} (h : isPunctuation p = true) :
    p = .char ',' ∨ p = .char '[' ∨ p = .char ']' :=
  of_decide_eq_true h

theorem isBlank_of_isPunctuation {p : CodePoint} (h : isPunctuation p = true) :
    isBlank p = false := by
  rcases cases_of_isPunctuation h with rfl | rfl | rfl <;> decide

theorem isWordChar_of_isPunctuation {p : CodePoint} (h : isPunctuation p = true) :
    isWordChar p = false := by
  rcases cases_of_isPunctuation h with rfl | rfl | rfl <;> decide

theorem isPunctuation_of_isBlank {p : CodePoint} (h : isBlank p = true) :
    isPunctuation p = false := by
  rw [Bool.eq_false_iff]
  intro hp
  rw [isBlank_of_isPunctuation hp] at h
  exact Bool.false_ne_true h

theorem isPunctuation_of_allBlank {b : Text} (hb : allBlank b = true) :
    ∀ p ∈ b, isPunctuation p = false :=
  fun p hp => isPunctuation_of_isBlank (List.all_eq_true.mp hb p hp)

/-- A text ends in a mark. -/
def EndsMarked (t : Text) : Prop :=
  ∃ before p, isPunctuation p = true ∧ t = before ++ [p]

/-- A text starts with a mark. -/
def StartsMarked (t : Text) : Prop :=
  ∃ p after, isPunctuation p = true ∧ t = p :: after

theorem EndsMarked.endsApart {t : Text} (h : EndsMarked t) : EndsApart t := by
  obtain ⟨before, p, hp, rfl⟩ := h
  intro q hq
  rw [List.getLast?_concat] at hq
  rw [← Option.some.inj hq]
  exact isWordChar_of_isPunctuation hp

theorem StartsMarked.startsApart {t : Text} (h : StartsMarked t) : StartsApart t := by
  obtain ⟨p, after, hp, rfl⟩ := h
  intro q hq
  rw [← Option.some.inj hq]
  exact isWordChar_of_isPunctuation hp

/-! ### Squeezing -/

theorem squeezeAfter_mark {p : CodePoint} (h : isPunctuation p = true) (t : Text) :
    squeezeAfter (p :: t) = p :: trimStart (squeezeAfter t) :=
  congrArg (p :: ·) (if_pos h)

theorem squeezeAfter_plain {p : CodePoint} (h : isPunctuation p = false) (t : Text) :
    squeezeAfter (p :: t) = p :: squeezeAfter t :=
  congrArg (p :: ·) (if_neg (Bool.eq_false_iff.mp h))

theorem squeezeAfter_append {b : Text} (hb : ∀ p ∈ b, isPunctuation p = false) (t : Text) :
    squeezeAfter (b ++ t) = b ++ squeezeAfter t := by
  induction b with
  | nil => rfl
  | cons p b ih =>
    rw [List.forall_mem_cons] at hb
    rw [List.cons_append, squeezeAfter_plain hb.1, ih hb.2]
    rfl

theorem trimStart_mark {p : CodePoint} (hp : isPunctuation p = true) (t : Text) :
    trimStart (p :: t) = p :: t := by
  refine trimStart_append (b := []) rfl fun q hq => ?_
  rw [← Option.some.inj hq]
  exact isBlank_of_isPunctuation hp

/-- Blanks after a mark are dropped. -/
theorem squeezeAfter_insert_after {b : Text} (hb : allBlank b = true) {p : CodePoint}
    (hp : isPunctuation p = true) (a t : Text) :
    squeezeAfter (a ++ p :: (b ++ t)) = squeezeAfter (a ++ p :: t) := by
  induction a with
  | nil =>
    rw [List.nil_append, List.nil_append, squeezeAfter_mark hp, squeezeAfter_mark hp,
      squeezeAfter_append (isPunctuation_of_allBlank hb), trimStart_blanks_append hb]
  | cons q a ih =>
    exact congrArg (fun u => q :: if isPunctuation q then trimStart u else u) ih

/-- The first pass keeps the blanks before a mark or drops them. -/
theorem exists_squeezeAfter_insert_before {b : Text} (hb : allBlank b = true) {p : CodePoint}
    (hp : isPunctuation p = true) (a t : Text) :
    ∃ x b', allBlank b' = true ∧
      squeezeAfter (a ++ (b ++ p :: t)) = x ++ (b' ++ squeezeAfter (p :: t)) ∧
      squeezeAfter (a ++ p :: t) = x ++ squeezeAfter (p :: t) := by
  induction a with
  | nil => exact ⟨[], b, hb, squeezeAfter_append (isPunctuation_of_allBlank hb) _, rfl⟩
  | cons q a ih =>
    obtain ⟨x, b', hb', hinsert, hplain⟩ := ih
    cases hq : isPunctuation q with
    | false =>
      refine ⟨q :: x, b', hb', ?_, ?_⟩
      · rw [List.cons_append, squeezeAfter_plain hq, hinsert]
        rfl
      · rw [List.cons_append, squeezeAfter_plain hq, hplain]
        rfl
    | true =>
      rw [List.cons_append, squeezeAfter_mark hq, hinsert, List.cons_append, squeezeAfter_mark hq,
        hplain]
      -- The mark reaches the blanks only if there is nothing but blanks before them.
      cases hx : allBlank x with
      | true =>
        refine ⟨[q], [], rfl, ?_, ?_⟩
        · rw [trimStart_blanks_append hx, trimStart_blanks_append hb', squeezeAfter_mark hp,
            trimStart_mark hp]
          rfl
        · rw [trimStart_blanks_append hx, squeezeAfter_mark hp, trimStart_mark hp]
          rfl
      | false =>
        refine ⟨q :: trimStart x, b', hb', ?_, ?_⟩
        · rw [trimStart_append_of_not_allBlank hx]
          rfl
        · rw [trimStart_append_of_not_allBlank hx]
          rfl

/-- Blanks next to a mark leave no trace. -/
theorem squeeze_insert {a b c : Text} (hb : allBlank b = true)
    (h : EndsMarked a ∨ StartsMarked c) : squeeze (a ++ (b ++ c)) = squeeze (a ++ c) := by
  rcases h with ⟨a, p, hp, rfl⟩ | ⟨p, c, hp, rfl⟩
  · have hafter := squeezeAfter_insert_after hb hp a c
    unfold squeeze
    rw [List.append_assoc, List.append_assoc, List.singleton_append, List.singleton_append, hafter]
  · obtain ⟨x, b', hb', hinsert, hplain⟩ := exists_squeezeAfter_insert_before hb hp a c
    have hback : allBlank b'.reverse = true := (allBlank_reverse b').trans hb'
    -- The second pass meets the mark first and drops what is left of the blanks.
    unfold squeeze
    rw [hinsert, hplain, squeezeAfter_mark hp]
    simp only [List.reverse_append, List.reverse_cons, List.append_assoc, List.cons_append,
      List.nil_append]
    rw [squeezeAfter_insert_after hback hp]

theorem endsMarked_trimStart {t : Text} (h : EndsMarked t) : EndsMarked (trimStart t) := by
  obtain ⟨before, p, hp, rfl⟩ := h
  cases hbefore : allBlank before with
  | true =>
    refine ⟨[], p, hp, ?_⟩
    rw [trimStart_blanks_append hbefore]
    exact trimStart_mark hp []
  | false => exact ⟨trimStart before, p, hp, trimStart_append_of_not_allBlank hbefore [p]⟩

theorem startsMarked_trimEnd {t : Text} (h : StartsMarked t) : StartsMarked (trimEnd t) := by
  obtain ⟨p, after, hp, rfl⟩ := h
  obtain ⟨before, q, hq, hback⟩ := endsMarked_trimStart ⟨after.reverse, p, hp, rfl⟩
  refine ⟨q, before.reverse, hq, ?_⟩
  show (trimStart (p :: after).reverse).reverse = _
  rw [List.reverse_cons, hback, List.reverse_append]
  rfl

theorem squeeze_trim_insert {a b c : Text} (hb : allBlank b = true)
    (h : (a = [] ∨ EndsMarked a) ∨ (c = [] ∨ StartsMarked c)) :
    squeeze (trim (a ++ (b ++ c))) = squeeze (trim (a ++ c)) := by
  cases ha : allBlank a with
  | true => rw [trim_append_left ha, trim_append_left hb, trim_append_left ha]
  | false =>
    cases hc : allBlank c with
    | true =>
      have hright : ∀ {b}, allBlank b = true → trim (a ++ b) = trim a :=
        fun hb => trim_append_blanks (b := []) rfl hb
      rw [hright (allBlank_append.mpr ⟨hb, hc⟩), hright hc]
    | false =>
      have hplain : trim (a ++ c) = trimStart a ++ trimEnd c := trim_append_append ha hc []
      rw [trim_append_append ha hc, hplain]
      apply squeeze_insert hb
      rcases h with (rfl | h) | (rfl | h)
      · exact absurd ha Bool.false_ne_true.symm
      · exact .inl (endsMarked_trimStart h)
      · exact absurd hc Bool.false_ne_true.symm
      · exact .inr (startsMarked_trimEnd h)

theorem squeezeAfter_eq_self {t : Text} (h : ∀ p ∈ t, isBlank p = false) : squeezeAfter t = t := by
  induction t with
  | nil => rfl
  | cons p t ih =>
    rw [List.forall_mem_cons] at h
    cases hp : isPunctuation p with
    | false => rw [squeezeAfter_plain hp, ih h.2]
    | true =>
      have hstart : trimStart t = t :=
        trimStart_append (b := []) rfl fun q hq => h.2 q (List.mem_of_head? hq)
      rw [squeezeAfter_mark hp, ih h.2, hstart]

theorem squeeze_eq_self {t : Text} (h : ∀ p ∈ t, isBlank p = false) : squeeze t = t := by
  have hback : ∀ p ∈ t.reverse, isBlank p = false := fun p hp => h p (List.mem_reverse.mp hp)
  rw [squeeze, squeezeAfter_eq_self h, squeezeAfter_eq_self hback, List.reverse_reverse]

theorem squeezeAfter_map {f : CodePoint → CodePoint} (hblank : ∀ p, isBlank (f p) = isBlank p)
    (hmark : ∀ p, isPunctuation (f p) = isPunctuation p) (t : Text) :
    squeezeAfter (t.map f) = (squeezeAfter t).map f := by
  induction t with
  | nil => rfl
  | cons p t ih =>
    rw [List.map_cons]
    cases hp : isPunctuation p with
    | false =>
      rw [squeezeAfter_plain ((hmark p).trans hp), squeezeAfter_plain hp, ih, List.map_cons]
    | true =>
      have hstart : trimStart ((squeezeAfter t).map f) = (trimStart (squeezeAfter t)).map f := by
        unfold trimStart
        rw [List.dropWhile_map]
        exact congrArg (fun g => ((squeezeAfter t).dropWhile g).map f) (funext hblank)
      rw [squeezeAfter_mark ((hmark p).trans hp), squeezeAfter_mark hp, ih, hstart, List.map_cons]

theorem squeeze_small (t : Text) : squeeze (small t) = small (squeeze t) := by
  unfold squeeze small
  rw [squeezeAfter_map isBlank_smallLetter isPunctuation_smallLetter, ← List.map_reverse,
    squeezeAfter_map isBlank_smallLetter isPunctuation_smallLetter, List.map_reverse]

/-! ### Words and marks -/

/-- A mark alone. -/
def IsMark (w : Text) : Prop :=
  w.length = 1 ∧ ∀ p ∈ w, isPunctuation p = true

/-- A text with no marks and no blanks. -/
def IsPlain (w : Text) : Prop :=
  ∀ p ∈ w, isPunctuation p = false ∧ isBlank p = false

instance (w : Text) : Decidable (IsMark w) :=
  inferInstanceAs (Decidable (_ ∧ _))

instance (w : Text) : Decidable (IsPlain w) :=
  inferInstanceAs (Decidable (∀ p ∈ w, _))

theorem IsMark.exists_eq {w : Text} (h : IsMark w) : ∃ p, isPunctuation p = true ∧ w = [p] := by
  obtain ⟨p, rfl⟩ := List.length_eq_one_iff.mp h.1
  exact ⟨p, h.2 p List.mem_cons_self, rfl⟩

/-- Plain texts and marks, of which no two plain ones follow each other. -/
structure Alternates (ws : List Text) : Prop where
  ne_nil : ws ≠ []
  mark_or_plain : ∀ w ∈ ws, IsMark w ∨ IsPlain w
  isChain : ws.IsChain fun w w' => IsMark w ∨ IsMark w'

instance (ws : List Text) : Decidable (Alternates ws) :=
  decidable_of_iff (ws ≠ [] ∧ (∀ w ∈ ws, IsMark w ∨ IsPlain w) ∧
      ws.IsChain fun w w' => IsMark w ∨ IsMark w')
    ⟨fun h => ⟨h.1, h.2.1, h.2.2⟩, fun h => ⟨h.ne_nil, h.mark_or_plain, h.isChain⟩⟩

/-- What blanks next to marks do not change is the same for a spaced text and for its words and
marks without the blanks. -/
theorem apply_of_spaced {α : Type} {F : Text → α}
    (hF : ∀ {a b c}, allBlank b = true → EndsMarked a ∨ StartsMarked c →
      F (a ++ (b ++ c)) = F (a ++ c))
    {ws : List Text} {t : Text} (h : Spaced ws t)
    (hchain : ws.IsChain fun w w' => IsMark w ∨ IsMark w') (before : Text) :
    F (before ++ t) = F (before ++ ws.flatten) := by
  induction h generalizing before with
  | last w => rw [List.flatten_singleton]
  | @cons w ws b rest hb h ih =>
    have hborder : EndsMarked (before ++ w) ∨ StartsMarked rest := by
      cases hchain with
      | singleton => cases h
      | cons_cons hmark _ =>
        refine hmark.imp (fun hw => ?_) fun hw => ?_
        · obtain ⟨p, hp, rfl⟩ := hw.exists_eq
          exact ⟨before, p, hp, rfl⟩
        · obtain ⟨p, hp, rfl⟩ := hw.exists_eq
          obtain ⟨after, rfl⟩ := h.exists_append
          exact ⟨p, after, hp, rfl⟩
    calc F (before ++ (w ++ (b ++ rest))) = F ((before ++ w) ++ (b ++ rest)) := by
          rw [List.append_assoc]
      _ = F ((before ++ w) ++ rest) := hF hb hborder
      _ = F ((before ++ w) ++ ws.flatten) := ih hchain.tail _
      _ = F (before ++ (w :: ws).flatten) := by rw [List.append_assoc, List.flatten_cons]

theorem squeeze_of_spaced {ws : List Text} (hws : Alternates ws) {t : Text} (h : Spaced ws t) :
    squeeze t = ws.flatten := by
  have hblank : ∀ p ∈ ws.flatten, isBlank p = false := by
    intro p hp
    obtain ⟨w, hw, hp⟩ := List.mem_flatten.mp hp
    rcases hws.mark_or_plain w hw with hmark | hplain
    · exact isBlank_of_isPunctuation (hmark.2 p hp)
    · exact (hplain p hp).2
  calc squeeze t = squeeze ws.flatten := apply_of_spaced squeeze_insert h hws.isChain []
    _ = ws.flatten := squeeze_eq_self hblank

theorem hasWord_of_spaced (keyword : String) {ws : List Text} (hws : Alternates ws) {t : Text}
    (h : Spaced ws t) : hasWord keyword t = hasWord keyword ws.flatten := by
  apply hasWord_congr
  refine apply_of_spaced (fun hb hborder => ?_) h hws.isChain []
  exact wordRuns_insert (isWordChar_of_allBlank hb)
    (hborder.imp EndsMarked.endsApart StartsMarked.startsApart)

/-! ### What was squeezed -/

theorem exists_of_squeezeAfter_eq_append {x y : Text} (hx : ∀ p ∈ x, isPunctuation p = false)
    {t : Text} (h : squeezeAfter t = x ++ y) : ∃ t', t = x ++ t' ∧ squeezeAfter t' = y := by
  induction x generalizing t with
  | nil => exact ⟨t, rfl, h⟩
  | cons p x ih =>
    rw [List.forall_mem_cons] at hx
    cases t with
    | nil => cases h
    | cons q t =>
      obtain rfl : q = p := (List.cons.inj h).1
      rw [squeezeAfter_plain hx.1] at h
      obtain ⟨t', rfl, ht'⟩ := ih hx.2 (List.cons.inj h).2
      exact ⟨t', rfl, ht'⟩

/-- After a word or a mark, only blanks were dropped. -/
theorem exists_blanks_of_squeezeAfter {w y t : Text} (hw : IsMark w ∨ IsPlain w)
    (h : squeezeAfter t = w ++ y) :
    ∃ b t', allBlank b = true ∧ t = w ++ (b ++ t') ∧ squeezeAfter t' = y := by
  rcases hw with hmark | hplain
  · obtain ⟨p, hp, rfl⟩ := hmark.exists_eq
    cases t with
    | nil => cases h
    | cons q t =>
      obtain rfl : q = p := (List.cons.inj h).1
      rw [squeezeAfter_mark hp] at h
      obtain ⟨b, hb, hstart⟩ := exists_eq_append_trimStart (squeezeAfter t)
      rw [(List.cons.inj h).2] at hstart
      obtain ⟨t', rfl, ht'⟩ :=
        exists_of_squeezeAfter_eq_append (isPunctuation_of_allBlank hb) hstart
      exact ⟨b, t', hb, rfl, ht'⟩
  · obtain ⟨t', rfl, ht'⟩ := exists_of_squeezeAfter_eq_append (fun p hp => (hplain p hp).1) h
    exact ⟨[], t', rfl, rfl, ht'⟩

theorem eq_nil_of_squeezeAfter {t : Text} (h : squeezeAfter t = []) : t = [] := by
  cases t with
  | nil => rfl
  | cons p t => cases h

/-- A text that is squeezed to a spaced text is one, with more blanks. -/
theorem spaced_of_squeezeAfter {ws : List Text} (hws : ∀ w ∈ ws, IsMark w ∨ IsPlain w) {u : Text}
    (h : Spaced ws u) {t : Text} (ht : squeezeAfter t = u)
    (hlast : ∀ p, t.getLast? = some p → isBlank p = false) : Spaced ws t := by
  induction h generalizing t with
  | last w =>
    rw [← List.append_nil w] at ht
    obtain ⟨b, t', hb, rfl, ht'⟩ :=
      exists_blanks_of_squeezeAfter (hws w List.mem_cons_self) ht
    rw [eq_nil_of_squeezeAfter ht', List.append_nil] at hlast ⊢
    -- The text does not end in a blank, so there are none after its last word or mark.
    rcases List.eq_nil_or_concat b with rfl | ⟨b, p, rfl⟩
    · rw [List.append_nil]
      exact .last w
    · have hp : isBlank p = true := List.all_eq_true.mp hb p (by simp)
      rw [hlast p (by simp)] at hp
      exact absurd hp Bool.false_ne_true
  | @cons w ws b rest hb h ih =>
    rw [List.forall_mem_cons] at hws
    obtain ⟨b', t', hb', rfl, ht'⟩ := exists_blanks_of_squeezeAfter hws.1 ht
    obtain ⟨t'', rfl, ht''⟩ := exists_of_squeezeAfter_eq_append (isPunctuation_of_allBlank hb) ht'
    have hrest : Spaced ws t'' := by
      refine ih hws.2 ht'' fun p hp => hlast p ?_
      rw [List.getLast?_append, List.getLast?_append, List.getLast?_append, hp]
      rfl
    rw [← List.append_assoc b']
    exact .cons w (allBlank_append.mpr ⟨hb', hb⟩) hrest

theorem mark_or_plain_reverse {w : Text} (h : IsMark w ∨ IsPlain w) :
    IsMark w.reverse ∨ IsPlain w.reverse := by
  refine h.imp (fun hmark => ⟨?_, fun p hp => ?_⟩) fun hplain p hp => ?_
  · rw [List.length_reverse]
    exact hmark.1
  · exact hmark.2 p (List.mem_reverse.mp hp)
  · exact hplain p (List.mem_reverse.mp hp)

theorem head?_squeezeAfter (t : Text) : (squeezeAfter t).head? = t.head? := by
  cases t <;> rfl

theorem spaced_of_squeeze {ws : List Text} (hws : Alternates ws) {t : Text} (ht : Trimmed t)
    (h : squeeze t = ws.flatten) : Spaced ws t := by
  -- The second pass squeezes the text read backwards.
  have hpass : squeezeAfter (squeezeAfter t).reverse = (ws.map List.reverse).reverse.flatten := by
    rw [← List.reverse_flatten, ← h]
    exact (List.reverse_reverse _).symm
  have hne : (ws.map List.reverse).reverse ≠ [] := by
    simpa using hws.ne_nil
  have hback : ∀ w ∈ (ws.map List.reverse).reverse, IsMark w ∨ IsPlain w := by
    intro w hw
    obtain ⟨v, hv, rfl⟩ := List.mem_map.mp (List.mem_reverse.mp hw)
    exact mark_or_plain_reverse (hws.mark_or_plain v hv)
  have hfirst : Spaced (ws.map List.reverse).reverse (squeezeAfter t).reverse := by
    refine spaced_of_squeezeAfter hback (spaced_flatten hne) hpass fun p hp => ?_
    rw [List.getLast?_reverse, head?_squeezeAfter] at hp
    exact ht.1 p hp
  have hmiddle : Spaced ws (squeezeAfter t) := by
    simpa [Function.comp_def] using hfirst.reverse
  exact spaced_of_squeezeAfter hws.mark_or_plain hmiddle rfl ht.2

end Shape

end GridAsm
