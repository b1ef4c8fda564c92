import GridAsm.Listing
import GridAsm.Proofs.Locality
import GridAsm.Proofs.Text
import GridAsm.Text.Utf8

/-!
# Line ends

A line may end with a line feed alone or with a carriage return before it.  Where a source already
has such a return, one more of them is left at the end of the line's text, so that the lines of the
two sources are the same only up to the blanks at their ends (`lines_withReturns`).

No result sees these blanks.  Both passes read a line by `SourceLine.parse`, which cuts off the
comment and then trims (`parse_trimEnd`); a diagnostic quotes the trimmed line, and a listing shows
the line without the blanks at its end.  So `Line.shown`, the line as a listing shows it, is the same
in both programs (`map_shown_lines_congr`), and all that is printed or written follows from it.

A file is read with one kind of line end: a carriage return becomes a line feed, together with the
line feed after it if there is one (`withFeeds`).  A text in which every return has its line feed keeps
its lines that way (`ReturnsPaired.lines_withFeeds`), and any other gets more of them
(`length_lines_lt`).
-/

namespace GridAsm

open Text

/-! ### Returns before line feeds -/

namespace Text

/-- The text with a carriage return before every line feed, besides those that are there. -/
def withReturns (t : Text) : Text :=
  t.flatMap fun p => if p = .char '\n' then ['\r', '\n'] else [p]

theorem exists_eq_trimEnd_append (t : Text) : ∃ b, allBlank b = true ∧ t = trimEnd t ++ b := by
  obtain ⟨b, hb, hreverse⟩ := exists_eq_append_trimStart t.reverse
  refine ⟨b.reverse, ?_, ?_⟩
  · rw [allBlank, List.all_reverse]
    exact hb
  · have h := congrArg List.reverse hreverse
    rw [List.reverse_reverse, List.reverse_append] at h
    exact h

theorem getLast?_trimEnd {t : Text} {p : CodePoint} (h : (trimEnd t).getLast? = some p) :
    isBlank p = false := by
  rw [trimEnd, List.getLast?_reverse] at h
  exact isBlank_of_head?_trimStart h

theorem trimEnd_append_blanks {b : Text} (hb : allBlank b = true) (t : Text) :
    trimEnd (t ++ b) = trimEnd t := by
  obtain ⟨b', hb', ht⟩ := exists_eq_trimEnd_append t
  have hlast : ∀ p, (trimEnd t).getLast? = some p → isBlank p = false := fun _ => getLast?_trimEnd
  have h := trimEnd_append hlast (allBlank_append.mpr ⟨hb', hb⟩)
  rw [← List.append_assoc, ← ht] at h
  exact h

@[simp] theorem trimEnd_trimEnd (t : Text) : trimEnd (trimEnd t) = trimEnd t := by
  obtain ⟨b, hb, ht⟩ := exists_eq_trimEnd_append t
  have h := trimEnd_append_blanks hb (trimEnd t)
  rw [← ht] at h
  exact h.symm

@[simp] theorem trim_trimEnd (t : Text) : trim (trimEnd t) = trim t := by
  obtain ⟨b, hb, ht⟩ := exists_eq_trimEnd_append t
  have h := @trim_append_blanks [] (trimEnd t) b rfl hb
  rw [List.nil_append, ← ht] at h
  exact h.symm

/-- A carriage return that a line end takes with it is a blank at the end of the line. -/
theorem trimEnd_reverse_dropReturn (line : Text) :
    trimEnd (dropReturn line).reverse = trimEnd line.reverse := by
  unfold dropReturn
  split
  · rename_i rest
    rw [List.reverse_cons]
    exact (trimEnd_append_blanks (by decide) rest.reverse).symm
  · rfl

theorem linesFrom_withReturns (line t : Text) :
    (linesFrom line (withReturns t)).map trimEnd = (linesFrom line t).map trimEnd := by
  induction t generalizing line with
  | nil => rfl
  | cons p rest ih =>
    by_cases hp : p = .char '\n'
    · -- The return that was put in goes with the line end, and an earlier one stays.
      have hreturns : withReturns (p :: rest) = .char '\r' :: .char '\n' :: withReturns rest := by
        rw [hp]
        rfl
      have hlines : linesFrom line (.char '\r' :: .char '\n' :: withReturns rest) =
          line.reverse :: linesFrom [] (withReturns rest) := rfl
      rw [hreturns, hlines, linesFrom, if_pos hp, List.map_cons, List.map_cons,
        trimEnd_reverse_dropReturn, ih]
    · have hreturns : withReturns (p :: rest) = p :: withReturns rest := by
        show (if p = .char '\n' then _ else _) ++ withReturns rest = _
        rw [if_neg hp]
        rfl
      rw [hreturns, linesFrom, linesFrom, if_neg hp, if_neg hp]
      exact ih (p :: line)

/-- The lines are the same up to the blanks at their ends. -/
theorem lines_withReturns (t : Text) :
    (lines (withReturns t)).map trimEnd = (lines t).map trimEnd :=
  linesFrom_withReturns [] t

-- One more return stays in the second line, and the first one has none.
example : lines (withReturns (ofString "NOP\nJMP 0\r\n")) =
    [ofString "NOP", ofString "JMP 0\r", []] := by decide +kernel

/-! ### One kind of line end -/

/-- The text with a line feed in the place of every carriage return; a line feed right after the
return goes with it. -/
def withFeeds : Text → Text
  | [] => []
  | .char '\r' :: .char '\n' :: rest => '\n' :: withFeeds rest
  | .char '\r' :: rest => '\n' :: withFeeds rest
  | p :: rest => p :: withFeeds rest

theorem withFeeds_cons_of_ne {p : CodePoint} (h : p ≠ .char '\r') (rest : Text) :
    withFeeds (p :: rest) = p :: withFeeds rest :=
  withFeeds.eq_4 p rest (fun _ hp _ => h hp) h

theorem withFeeds_return_cons_of_ne {p : CodePoint} (h : p ≠ .char '\n') (rest : Text) :
    withFeeds (.char '\r' :: p :: rest) = .char '\n' :: withFeeds (p :: rest) :=
  withFeeds.eq_3 (p :: rest) fun _ heq => h (List.cons.inj heq).1

/-- Reading in one pass, with a flag for a return that has just been seen, unifies the line ends. -/
theorem unifyFrom_eq (done t : Text) :
    unifyFrom done false t = done.reverse ++ withFeeds t ∧
      unifyFrom (.char '\n' :: done) true t = done.reverse ++ withFeeds (.char '\r' :: t) := by
  -- The flag is set with the line feed of its return already written.
  induction t generalizing done with
  | nil => exact ⟨(List.append_nil _).symm, List.reverse_cons ..⟩
  | cons p rest ih =>
    by_cases hreturn : p = .char '\r'
    · subst hreturn
      have hfirst : ∀ (done : Text) (after : Bool),
          unifyFrom done after (.char '\r' :: rest) = unifyFrom (.char '\n' :: done) true rest :=
        fun _ _ => rfl
      have hpair : withFeeds (.char '\r' :: .char '\r' :: rest) =
          .char '\n' :: withFeeds (.char '\r' :: rest) :=
        withFeeds_return_cons_of_ne (by decide) rest
      refine ⟨?_, ?_⟩
      · rw [hfirst, (ih done).2]
      · rw [hfirst, (ih (.char '\n' :: done)).2, hpair, List.reverse_cons, List.append_assoc]
        rfl
    · have hplain : withFeeds (p :: rest) = p :: withFeeds rest := withFeeds_cons_of_ne hreturn rest
      have hkept : unifyFrom done false (p :: rest) = unifyFrom (p :: done) false rest := by
        simp [unifyFrom, hreturn]
      refine ⟨?_, ?_⟩
      · rw [hkept, (ih (p :: done)).1, hplain, List.reverse_cons, List.append_assoc]
        rfl
      · by_cases hfeed : p = .char '\n'
        · subst hfeed
          show unifyFrom (.char '\n' :: done) false rest = _
          rw [(ih (.char '\n' :: done)).1, List.reverse_cons, List.append_assoc]
          rfl
        · have hafter : unifyFrom (.char '\n' :: done) true (p :: rest) =
              unifyFrom (p :: .char '\n' :: done) false rest := by
            simp [unifyFrom, hreturn, hfeed]
          rw [hafter, (ih (p :: .char '\n' :: done)).1, withFeeds_return_cons_of_ne hfeed, hplain,
            List.reverse_cons, List.reverse_cons, List.append_assoc, List.append_assoc]
          rfl

theorem unifyLineEnds_eq (t : Text) : unifyLineEnds t = withFeeds t :=
  (unifyFrom_eq [] t).1

theorem withFeeds_of_not_mem {t : Text} (h : CodePoint.char '\r' ∉ t) : withFeeds t = t := by
  induction t with
  | nil => rfl
  | cons p rest ih =>
    rw [List.mem_cons, not_or] at h
    rw [withFeeds_cons_of_ne (Ne.symm h.1), ih h.2]

@[simp] theorem allBlank_withFeeds (t : Text) : allBlank (withFeeds t) = allBlank t := by
  have hreturn : isBlank (.char '\r') = true := by decide
  have hfeed : isBlank (.char '\n') = true := by decide
  unfold allBlank
  fun_induction withFeeds t with
  | case1 => rfl
  | case2 rest ih => simp only [List.all_cons, hreturn, hfeed, ih, Bool.true_and]
  | case3 rest _ ih => simp only [List.all_cons, hreturn, hfeed, ih]
  | case4 p rest _ _ ih => simp only [List.all_cons, ih]

/-- Every carriage return of the text has a line feed right after it. -/
def ReturnsPaired (t : Text) : Prop :=
  ∀ before after, t = before ++ .char '\r' :: after → after.head? = some (.char '\n')

namespace ReturnsPaired

theorem of_cons {p : CodePoint} {rest : Text} (h : ReturnsPaired (p :: rest)) :
    ReturnsPaired rest := by
  rintro before after rfl
  exact h (p :: before) after rfl

theorem cons {p : CodePoint} {rest : Text}
    (hp : p = .char '\r' → rest.head? = some (.char '\n')) (h : ReturnsPaired rest) :
    ReturnsPaired (p :: rest) := by
  intro before after heq
  cases before with
  | nil =>
    obtain ⟨rfl, rfl⟩ := List.cons.inj heq
    exact hp rfl
  | cons q before =>
    obtain ⟨rfl, rfl⟩ := List.cons.inj heq
    exact h before after rfl

/-- Where every return has its line feed, the unified text has the same lines. -/
theorem linesFrom_withFeeds {t : Text} (h : ReturnsPaired t) {line : Text}
    (hline : CodePoint.char '\r' ∉ line) : linesFrom line (withFeeds t) = linesFrom line t := by
  fun_induction withFeeds t generalizing line with
  | case1 => rfl
  | case2 rest ih =>
    have hnone : dropReturn line = line := by
      unfold dropReturn
      split
      · exact absurd List.mem_cons_self hline
      · rfl
    show (dropReturn line).reverse :: linesFrom [] (withFeeds rest) =
      line.reverse :: linesFrom [] rest
    rw [hnone, ih h.of_cons.of_cons List.not_mem_nil]
  | case3 rest hfeed ih =>
    obtain ⟨after, hafter⟩ := List.head?_eq_some_iff.mp (h [] rest rfl)
    exact (hfeed after hafter).elim
  | case4 p rest _ hp ih =>
    by_cases hfeed : p = .char '\n'
    · rw [linesFrom, linesFrom, if_pos hfeed, if_pos hfeed, ih h.of_cons List.not_mem_nil]
    · rw [linesFrom, linesFrom, if_neg hfeed, if_neg hfeed]
      apply ih h.of_cons
      rw [List.mem_cons, not_or]
      exact ⟨fun heq => hp heq.symm, hline⟩

theorem lines_withFeeds {t : Text} (h : ReturnsPaired t) : lines (withFeeds t) = lines t :=
  h.linesFrom_withFeeds List.not_mem_nil

end ReturnsPaired

/-! ### How many lines there are -/

theorem length_linesFrom (line t : Text) :
    (linesFrom line t).length = t.count (.char '\n') + 1 := by
  induction t generalizing line with
  | nil => rfl
  | cons p rest ih =>
    by_cases hp : p = .char '\n'
    · rw [linesFrom, if_pos hp, List.length_cons, ih, hp, List.count_cons_self]
    · rw [linesFrom, if_neg hp, ih, List.count_cons_of_ne hp]

theorem length_lines (t : Text) : (lines t).length = t.count (.char '\n') + 1 :=
  length_linesFrom [] t

theorem count_le_count_withFeeds (t : Text) :
    t.count (.char '\n') ≤ (withFeeds t).count (.char '\n') := by
  have hne : CodePoint.char '\r' ≠ .char '\n' := by decide
  fun_induction withFeeds t with
  | case1 => exact Nat.le_refl _
  | case2 rest ih =>
    rw [List.count_cons_of_ne hne, List.count_cons_self, List.count_cons_self]
    omega
  | case3 rest _ ih =>
    rw [List.count_cons_of_ne hne, List.count_cons_self]
    omega
  | case4 p rest _ _ ih =>
    rw [List.count_cons, List.count_cons]
    omega

/-- A return without a line feed makes one line more. -/
theorem count_lt_count_withFeeds {t : Text} (h : ¬ ReturnsPaired t) :
    t.count (.char '\n') < (withFeeds t).count (.char '\n') := by
  have hne : CodePoint.char '\r' ≠ .char '\n' := by decide
  fun_induction withFeeds t with
  | case1 => exact absurd (fun before after heq => by simp at heq) h
  | case2 rest ih =>
    have hrest : ¬ ReturnsPaired rest := fun hpaired =>
      h (.cons (fun _ => rfl) (.cons (fun heq => by cases heq) hpaired))
    have := ih hrest
    rw [List.count_cons_of_ne hne, List.count_cons_self, List.count_cons_self]
    omega
  | case3 rest _ ih =>
    have := count_le_count_withFeeds rest
    rw [List.count_cons_of_ne hne, List.count_cons_self]
    omega
  | case4 p rest _ hp ih =>
    have hrest : ¬ ReturnsPaired rest := fun hpaired => h (.cons (fun heq => (hp heq).elim) hpaired)
    have := ih hrest
    rw [List.count_cons, List.count_cons]
    omega

theorem length_lines_lt {t : Text} (h : ¬ ReturnsPaired t) :
    (lines t).length < (lines (withFeeds t)).length := by
  rw [length_lines, length_lines]
  exact Nat.succ_lt_succ (count_lt_count_withFeeds h)

theorem returnsPaired_iff {t : Text} :
    ReturnsPaired t ↔ (lines (withFeeds t)).length = (lines t).length := by
  constructor
  · intro h
    rw [h.lines_withFeeds]
  · intro h
    by_contra halone
    exact (length_lines_lt halone).ne h.symm

instance (t : Text) : Decidable (ReturnsPaired t) :=
  decidable_of_iff _ returnsPaired_iff.symm

end Text

/-! ### Blanks at the end of a line -/

namespace SourceLine

theorem withoutComment_trimEnd (line : Text) :
    withoutComment (trimEnd line) = withoutComment line := by
  obtain ⟨b, hb, hline⟩ := exists_eq_trimEnd_append line
  unfold withoutComment before
  conv_rhs => rw [hline]
  rw [List.takeWhile_append]
  split
  · -- There is no comment before the blanks, and none of them starts one.
    rename_i hall
    have hwhole := (List.takeWhile_prefix _).eq_of_length hall
    have hblanks : b.takeWhile (fun p => decide (p ≠ .char ';')) = b := by
      apply List.takeWhile_eq_self_iff.mpr
      intro p hp
      refine decide_eq_true fun heq => ?_
      have hblank := List.all_eq_true.mp hb p hp
      rw [heq] at hblank
      exact absurd hblank (by decide)
    have htrim := @trim_append_blanks [] (trimEnd line) b rfl hb
    rw [hwhole, hblanks]
    exact htrim.symm
  · rfl

theorem parse_trimEnd (line : Text) : parse (trimEnd line) = parse line := by
  unfold parse
  rw [withoutComment_trimEnd]

theorem parse_congr {line line' : Text} (h : trimEnd line = trimEnd line') :
    parse line = parse line' := by
  rw [← parse_trimEnd line, h, parse_trimEnd]

end SourceLine

/-- The line as a listing shows it: without the blanks at its end. -/
def Line.shown (l : Line) : Line :=
  { l with text := trimEnd l.text }

@[simp] theorem Listing.lineRow_shown (l : Line) : lineRow l.shown = lineRow l := by
  show row _ _ _ _ _ _ _ (trimEnd (trimEnd l.text)) = _
  rw [trimEnd_trimEnd]
  rfl

namespace RuleTable

variable (t : RuleTable) (filename : Text)

theorem shown_lineOf (labels : LabelTable) (number pc : Nat) {text text' : Text}
    (h : trimEnd text = trimEnd text') :
    (t.lineOf labels filename number text pc).value.shown =
      (t.lineOf labels filename number text' pc).value.shown := by
  have hparse := SourceLine.parse_congr h
  have hquote : trim text = trim text' := by rw [← trim_trimEnd text, h, trim_trimEnd]
  have htakes : takesAddress text = takesAddress text' := by
    unfold takesAddress
    rw [hparse]
  cases hcode : takesAddress text' with
  | false =>
    rw [hcode] at htakes
    rw [value_lineOf_of_not_takesAddress t labels filename htakes,
      value_lineOf_of_not_takesAddress t labels filename hcode, hparse]
    unfold Line.shown
    rw [h]
  | true =>
    rw [hcode] at htakes
    rw [value_lineOf_of_takesAddress t labels filename htakes,
      value_lineOf_of_takesAddress t labels filename hcode, value_resultOf, value_resultOf, hparse,
      hquote]
    unfold Line.shown
    rw [h]

/-- Sources whose lines are the same up to the blanks at their ends have the same labels, and
listings show their lines alike. -/
theorem map_shown_lines_congr {source source' : Text}
    (h : (sourceLines source).map trimEnd = (sourceLines source').map trimEnd) :
    let program := (t.assemble source filename).value
    let program' := (t.assemble source' filename).value
    program.labels = program'.labels ∧
      program.lines.map Line.shown = program'.lines.map Line.shown := by
  intro program program'
  rw [← List.forall₂_eq_eq_eq, List.forall₂_map_left_iff, List.forall₂_map_right_iff] at h ⊢
  apply forall₂_lines_assemble
  refine h.imp fun text text' htext => ⟨?_, ?_⟩
  · unfold outline takesAddress
    rw [SourceLine.parse_congr htext]
  · intro labels number pc
    exact shown_lineOf t filename labels number pc htext

end RuleTable

/-! ### What is made of the lines -/

namespace Program

variable {program program' : Program}
  (h : program.lines.map Line.shown = program'.lines.map Line.shown)

include h

theorem words_congr : program.words = program'.words := by
  have hwords := congrArg (List.filterMap Line.word) h
  rw [List.filterMap_map, List.filterMap_map] at hwords
  exact hwords

theorem errors_congr : program.errors = program'.errors := by
  have herrors := congrArg (List.filterMap Line.error) h
  rw [List.filterMap_map, List.filterMap_map] at herrors
  exact herrors

theorem listing_congr : Listing.render program = Listing.render program' := by
  have hrows : program.lines.map Listing.lineRow = program'.lines.map Listing.lineRow := by
    have hshown := congrArg (List.map Listing.lineRow) h
    rw [List.map_map, List.map_map] at hshown
    have hcomp : Listing.lineRow ∘ Line.shown = Listing.lineRow := funext Listing.lineRow_shown
    rwa [hcomp] at hshown
  unfold Listing.render Listing.rows Listing.summary
  rw [hrows, words_congr h, errors_congr h]

end Program

/-- **Line ends do not matter.**  A carriage return before every line feed of a source, whatever
stands there already, changes neither the listing nor the labels, the words and the artifact. -/
theorem RuleTable.line_ends_are_ignored (t : RuleTable) (source filename : Text) :
    let program := (t.assemble source filename).value
    let program' := (t.assemble (withReturns source) filename).value
    Listing.render program = Listing.render program' ∧ program.labels = program'.labels ∧
      program.words = program'.words ∧ program.artifact = program'.artifact := by
  intro program program'
  obtain ⟨hlabels, hshown⟩ :=
    t.map_shown_lines_congr filename (lines_withReturns source).symm
  have hwords : program.words = program'.words := Program.words_congr hshown
  refine ⟨Program.listing_congr hshown, hlabels, hwords, ?_⟩
  unfold Program.artifact Program.hexWords
  rw [hwords]

end GridAsm
