import GridAsm.Proofs.Nesting
import GridAsm.Proofs.Text
import Mathlib.Algebra.Order.Ring.Nat
import Mathlib.Data.List.TakeWhile

/-!
# The limits of the reader of JSON

The reader goes through a text from left to right and takes one piece of it after the other.  The
pieces close what they open, so that the levels that are left to the reader are those that are left
to the scan of `nesting`.  Besides a text that is no JSON it stops for two reasons, and both can be
seen in the text: a run of too many digits, and brackets too deep inside each other (`parse_stops`).
The other way round, a text is not read to its end if its brackets lie too deep or if its value has
a whole number that is too long (`parse_eq_ok`).

`Follows` says this of one reading.  The functions that read a value, the items of a list and the
members of a record call each other, so they are shown to keep it together (`followed`).
-/

namespace GridAsm.Json

open Text

/-- A run of so many digits stands in a text. -/
def HasDigits (n : Nat) (t : Text) : Prop :=
  ∃ digits, digits <:+: t ∧ digits.length = n ∧ ∀ d ∈ digits, isAsciiDigit d = true

/-- What a text has for the reader to stop at it: nothing more for a text that is no JSON, or too
many digits, or brackets too deep inside each other. -/
def Stop.IsIn (limits : Limits) (t : Text) : Stop → Prop
  | .syntaxAt _ _ => True
  | .tooManyDigits n => limits.digits < n ∧ HasDigits n t
  | .tooDeep _ => Exceeds limits.levels t

/-- The whole number stands in a value: it is the value or stands in an item or a member of it. -/
inductive Whole (n : Int) : Value → Prop where
  | self : Whole n (.int n)
  | item {items : List Value} {v : Value} (hitem : v ∈ items) (h : Whole n v) : Whole n (.list items)
  | member {members : List (Text × Value)} {name : Text} {v : Value}
    (hmember : (name, v) ∈ members) (h : Whole n v) : Whole n (.record members)

/-- The whole numbers in the value have at most so many digits. -/
def Value.Within (digits : Nat) (v : Value) : Prop :=
  ∀ n, Whole n v → n.natAbs < 10 ^ digits

/-- The value is read from the piece: both keep to the limits. -/
def Taken (limits : Limits) (v : Value) (piece : Text) : Prop :=
  (∃ k ≤ limits.levels, Nested k piece) ∧ v.Within limits.digits

/-- The value is read from the piece, the last code point of which closes it. -/
def TakenClosed (limits : Limits) (v : Value) (piece : Text) : Prop :=
  ∃ inner close, piece = inner ++ [close] ∧ Closes close ∧
    (∃ k ≤ limits.levels, Nested k inner) ∧ v.Within limits.digits

/-- A reading that starts with the text `t` takes a piece of it, for which `taken` says what is read
from it, or stops at something in the text. -/
def Follows {α : Type} (limits : Limits) (taken : α → Text → Prop) (t : Text) : Read α → Prop
  | .ok (a, after) => ∃ piece, t = piece ++ after.rest ∧ taken a piece
  | .error stop => stop.IsIn limits t

section

variable {limits : Limits} {s t : Text} {k : Nat} {piece : Text}

theorem HasDigits.of_suffix {n : Nat} (h : HasDigits n s) (hst : s <:+ t) : HasDigits n t := by
  obtain ⟨digits, hinfix, hlength, hdigits⟩ := h
  exact ⟨digits, hinfix.trans hst.isInfix, hlength, hdigits⟩

theorem Stop.IsIn.append {stop : Stop} (h : stop.IsIn limits s) (hpiece : Nested k piece) :
    stop.IsIn limits (piece ++ s) := by
  cases stop with
  | syntaxAt problem offset => trivial
  | tooManyDigits n => exact ⟨h.1, h.2.of_suffix (List.suffix_append ..)⟩
  | tooDeep container => exact Exceeds.of_nested h hpiece

end

/-! ### Whole numbers in values -/

section

variable {digits : Nat}

theorem within_of_not_whole {v : Value} (h : ∀ n, ¬ Whole n v) : v.Within digits :=
  fun n hn => absurd hn (h n)

theorem within_list {items : List Value} (h : ∀ v ∈ items, v.Within digits) :
    (Value.list items).Within digits := by
  intro n hn
  cases hn with
  | item hitem hwhole => exact h _ hitem n hwhole

theorem within_record {members : List (Text × Value)}
    (h : ∀ member ∈ members, member.2.Within digits) : (Value.record members).Within digits := by
  intro n hn
  cases hn with
  | member hmember hwhole => exact h _ hmember n hwhole

theorem within_putMember {name : Text} {v : Value} {members : List (Text × Value)}
    (hv : v.Within digits) (h : ∀ member ∈ members, member.2.Within digits) :
    ∀ member ∈ putMember name v members, member.2.Within digits := by
  induction members with
  | nil =>
    rw [putMember, List.forall_mem_singleton]
    exact hv
  | cons member rest ih =>
    obtain ⟨n, w⟩ := member
    rw [List.forall_mem_cons] at h
    rw [putMember]
    split_ifs
    · exact List.forall_mem_cons.mpr ⟨hv, h.2⟩
    · exact List.forall_mem_cons.mpr ⟨h.1, ih h.2⟩

end

/-! ### Places -/

/-- Between the two places are only code points that are neither quotes nor brackets. -/
def Cursor.Passes (here after : Cursor) : Prop :=
  ∃ piece, here.rest = piece ++ after.rest ∧ ∀ p ∈ piece, Plain p

section

variable {here there after : Cursor}

theorem Cursor.Passes.trans (h : here.Passes there) (h' : there.Passes after) :
    here.Passes after := by
  obtain ⟨piece, hrest, hpiece⟩ := h
  obtain ⟨piece', hrest', hpiece'⟩ := h'
  refine ⟨piece ++ piece', ?_, List.forall_mem_append.mpr ⟨hpiece, hpiece'⟩⟩
  rw [hrest, hrest', List.append_assoc]

theorem passes_advance {n : Nat} (h : ∀ p ∈ here.rest.take n, Plain p) :
    here.Passes (here.advance n) :=
  ⟨here.rest.take n, (List.take_append_drop n here.rest).symm, h⟩

theorem plain_of_isSpace {p : CodePoint} (h : isSpace p = true) : Plain p := by
  refine ⟨?_, ?_, ?_⟩
  · rintro rfl
    exact absurd h (by decide)
  · rintro (rfl | rfl) <;> exact absurd h (by decide)
  · rintro (rfl | rfl) <;> exact absurd h (by decide)

theorem exists_skipSpace (offset : Nat) (t : Text) :
    ∃ blanks, t = blanks ++ (skipSpace offset t).rest ∧ ∀ p ∈ blanks, Plain p := by
  induction t generalizing offset with
  | nil => exact ⟨[], rfl, List.forall_mem_nil _⟩
  | cons p rest ih =>
    unfold skipSpace
    split
    · rename_i hp
      obtain ⟨blanks, hrest, hblanks⟩ := ih (offset + 1)
      refine ⟨p :: blanks, ?_, List.forall_mem_cons.mpr ⟨plain_of_isSpace hp, hblanks⟩⟩
      rw [List.cons_append, ← hrest]
    · exact ⟨[], rfl, List.forall_mem_nil _⟩

theorem passes_skip (here : Cursor) : here.Passes here.skip :=
  exists_skipSpace here.offset here.rest

end

/-! ### Strings -/

theorem hexValue?_of_hexQuad? {a b c d : CodePoint} {n : Nat} (h : hexQuad? a b c d = some n) :
    ∀ p ∈ [a, b, c, d], hexValue? p ≠ none := by
  intro p hp hnone
  have hmap : List.mapM hexValue? [a, b, c, d] = none := by
    simp only [List.mem_cons, List.not_mem_nil, or_false] at hp
    rcases hp with rfl | rfl | rfl | rfl <;> simp [List.mapM_cons, hnone]
  have hquad : hexQuad? a b c d = (List.mapM hexValue? [a, b, c, d]).map (positional 16) := rfl
  rw [hquad, hmap] at h
  cases h

theorem endsEscape_unicode {a b c d : CodePoint} {n : Nat} (h : hexQuad? a b c d = some n) :
    EndsEscape [.char 'u', a, b, c, d] := by
  intro depth deepest
  have hstep : ∀ p ∈ [a, b, c, d],
      (⟨.quoted, depth, deepest⟩ : Scan).step p = ⟨.quoted, depth, deepest⟩ := by
    intro p hp
    have hvalue := hexValue?_of_hexQuad? h p hp
    unfold Scan.step
    dsimp only
    rw [if_neg, if_neg]
    · rintro rfl
      exact hvalue rfl
    · rintro rfl
      exact hvalue rfl
  simp only [List.forall_mem_cons] at hstep
  obtain ⟨ha, hb, hc, hd, -⟩ := hstep
  show Scan.step (Scan.step (Scan.step (Scan.step ⟨.quoted, depth, deepest⟩ a) b) c) d = _
  rw [ha, hb, hc, hd]

/-- The code points that belong to an escape end it. -/
theorem endsEscape_of_readEscape {t : Text} {e : CodePoint} {taken : Nat}
    (h : readEscape t = .ok (e, taken)) : EndsEscape (t.take taken) := by
  unfold readEscape at h
  split at h
  · cases h
  · split at h
    · cases h
    · rename_i high hhigh
      split at h
      · split at h
        · cases h
        · rename_i low hlow
          split at h
          · cases h
            intro depth deepest
            show Scan.run ⟨.escaped, depth, deepest⟩ ([_, _, _, _, _] ++ .char '\\' :: _) = _
            rw [Scan.run_append, endsEscape_unicode hhigh]
            exact endsEscape_unicode hlow depth deepest
          · cases h
            exact endsEscape_unicode hhigh
      · cases h
        exact endsEscape_unicode hhigh
  · cases h
  · split at h
    · cases h
      intro depth deepest
      rfl
    · cases h

/-- A reading of a string takes it to its closing quote, or finds that the text is no JSON. -/
def FollowsString (t : Text) : Read Text → Prop
  | .ok (_, after) => ∃ piece, t = piece ++ after.rest ∧ EndsString piece
  | .error stop => ∃ problem offset, stop = .syntaxAt problem offset

theorem FollowsString.append {piece t : Text} {r : Read Text} (h : FollowsString t r)
    (hpiece : ∀ body, EndsString body → EndsString (piece ++ body)) :
    FollowsString (piece ++ t) r := by
  cases r with
  | ok found =>
    obtain ⟨body, ht, hbody⟩ := h
    refine ⟨piece ++ body, ?_, hpiece body hbody⟩
    rw [ht, List.append_assoc]
  | error stop => exact h

theorem followsString_readString (start : Nat) (done : Text) (offset skip : Nat) (t : Text) :
    FollowsString (t.drop skip) (readString start done offset skip t) := by
  induction t generalizing done offset skip with
  | nil => exact ⟨_, _, rfl⟩
  | cons p rest ih =>
    unfold readString
    split_ifs with hskip hquote hslash hcontrol
    · obtain ⟨n, rfl⟩ : ∃ n, skip = n + 1 := ⟨skip - 1, by omega⟩
      exact ih done (offset + 1) n
    all_goals
      obtain rfl : skip = 0 := Nat.eq_zero_of_not_pos hskip
      rw [List.drop_zero]
    · exact ⟨[p], rfl, hquote ▸ endsString_quote⟩
    · split
      · rename_i e taken hescape
        have hends := endsEscape_of_readEscape hescape
        have hcut : p :: rest = p :: rest.take taken ++ rest.drop taken := by
          rw [List.cons_append, List.take_append_drop]
        rw [hcut, hslash]
        exact (ih (e :: done) (offset + 1) taken).append fun body hbody => hends.endsString hbody
      · exact ⟨_, _, rfl⟩
      · exact ⟨_, _, rfl⟩
    · exact ⟨_, _, rfl⟩
    · show FollowsString ([p] ++ rest.drop 0) _
      exact (ih (p :: done) (offset + 1) 0).append fun body hbody => hbody.cons hquote hslash

/-- A string as a value, with its opening quote. -/
theorem follows_readString (limits : Limits) (start : Nat) (done : Text) (offset : Nat)
    (t : Text) :
    Follows limits (fun _ piece => Nested 0 piece) (.char '"' :: t)
      (readString start done offset 0 t) := by
  have h := followsString_readString start done offset 0 t
  rw [List.drop_zero] at h
  cases hread : readString start done offset 0 t with
  | ok found =>
    rw [hread] at h
    obtain ⟨piece, ht, hpiece⟩ := h
    exact ⟨.char '"' :: piece, by rw [ht]; rfl, hpiece.nested⟩
  | error stop =>
    rw [hread] at h
    obtain ⟨problem, at', rfl⟩ := h
    trivial

/-! ### Words and numbers -/

theorem Cursor.Passes.follows {limits : Limits} {here after : Cursor} {v : Value}
    (h : here.Passes after) (hv : v.Within limits.digits) :
    Follows limits (Taken limits) here.rest (.ok (v, after)) := by
  obtain ⟨piece, hrest, hpiece⟩ := h
  exact ⟨piece, hrest, ⟨0, Nat.zero_le _, nested_of_plain hpiece⟩, hv⟩

theorem follows_namedValue {limits : Limits} {here : Cursor} {found : Value × Cursor}
    (h : namedValue? here = some found) :
    Follows limits (Taken limits) here.rest (.ok found) := by
  have hwords : ∀ entry ∈ namedValues, ∀ p ∈ entry.1, Plain p := by decide
  have hvalues : ∀ entry ∈ namedValues, entry.2.Within limits.digits := by
    simp only [namedValues, List.forall_mem_cons]
    refine ⟨?_, ?_, ?_, ?_, ?_, ?_, List.forall_mem_nil _⟩
    all_goals exact within_of_not_whole fun n hn => by cases hn
  obtain ⟨⟨word, v⟩, hfind, rfl⟩ := Option.map_eq_some_iff.mp h
  have hmem := List.mem_of_find?_eq_some hfind
  have hword : word.isPrefixOf here.rest = true := by simpa using List.find?_some hfind
  have htake := List.prefix_iff_eq_take.mp (List.isPrefixOf_iff_prefix.mp hword)
  have hpasses : here.Passes (here.advance word.length) := by
    apply passes_advance
    rw [← htake]
    exact hwords _ hmem
  exact hpasses.follows (hvalues _ hmem)

theorem plain_of_isAsciiDigit {p : CodePoint} (h : isAsciiDigit p = true) : Plain p := by
  refine ⟨?_, ?_, ?_⟩
  · rintro rfl
    exact absurd h (by decide)
  · rintro (rfl | rfl) <;> exact absurd h (by decide)
  · rintro (rfl | rfl) <;> exact absurd h (by decide)

/-- The digits at the start of a text. -/
theorem plain_of_mem_takeWhile {t : Text} {p : CodePoint} (h : p ∈ t.takeWhile isAsciiDigit) :
    Plain p :=
  plain_of_isAsciiDigit (List.mem_takeWhile_imp h)

theorem take_length_takeWhile (t : Text) :
    t.take (t.takeWhile isAsciiDigit).length = t.takeWhile isAsciiDigit :=
  (List.prefix_iff_eq_take.mp (List.takeWhile_prefix _)).symm

/-- The digits of a whole number stand at the start of the text. -/
theorem wholeDigits_spec (t : Text) :
    t.take (wholeDigits t).length = wholeDigits t ∧ ∀ p ∈ wholeDigits t, isAsciiDigit p = true := by
  unfold wholeDigits
  split
  · exact ⟨rfl, by decide⟩
  · exact ⟨take_length_takeWhile t, fun p hp => List.mem_takeWhile_imp hp⟩

theorem plain_take_fraction {t : Text} (h : (fractionDigits t).isEmpty = false) :
    ∀ p ∈ t.take (1 + (fractionDigits t).length), Plain p := by
  unfold fractionDigits at h ⊢
  split
  · rename_i rest
    rw [Nat.add_comm, List.take_succ_cons, take_length_takeWhile, List.forall_mem_cons]
    exact ⟨by decide, fun p hp => plain_of_mem_takeWhile hp⟩
  · rename_i hpoint
    split at h
    · exact absurd rfl (hpoint _)
    · cases h

theorem plain_take_exponent {t : Text} {e : Int} {n : Nat} (h : exponentPart? t = some (e, n)) :
    ∀ p ∈ t.take n, Plain p := by
  unfold exponentPart? at h
  split at h
  · rename_i x rest
    split at h
    · rename_i hx
      have hplain : Plain x := by
        rcases Bool.or_eq_true_iff.mp hx with hx | hx <;> rw [beq_iff_eq.mp hx] <;> decide
      split at h
      rename_i negative signLength digits hparts
      obtain ⟨m, -, hm⟩ := Option.map_eq_some_iff.mp h
      cases hm
      rw [Nat.add_assoc, Nat.add_comm 1, List.take_succ_cons, List.forall_mem_cons]
      refine ⟨hplain, ?_⟩
      split at hparts
      all_goals
        cases hparts
      · rw [Nat.add_comm 1, List.take_succ_cons, take_length_takeWhile, List.forall_mem_cons]
        exact ⟨by decide, fun p hp => plain_of_mem_takeWhile hp⟩
      · rw [Nat.add_comm 1, List.take_succ_cons, take_length_takeWhile, List.forall_mem_cons]
        exact ⟨by decide, fun p hp => plain_of_mem_takeWhile hp⟩
      · rw [Nat.zero_add, take_length_takeWhile]
        exact fun p hp => plain_of_mem_takeWhile hp
    · cases h
  · cases h

/-- Digits give a number of no more digits. -/
theorem getD_numeral?_lt (digits : Text) :
    (numeral? 10 digitValue? digits).getD 0 < 10 ^ digits.length := by
  cases h : numeral? 10 digitValue? digits with
  | none => exact Nat.pow_pos (by decide)
  | some n => exact numeral?_lt h

theorem follows_readNumber (limits : Limits) (here : Cursor) :
    Follows limits (Taken limits) here.rest (readNumber limits.digits here) := by
  have hreal : ∀ x, (Value.real x).Within limits.digits := fun x =>
    within_of_not_whole fun n hn => by cases hn
  unfold readNumber
  extract_lets negative body whole after fraction after' digits
  have hbody : here.Passes body := by
    show here.Passes (if negative then here.advance 1 else here)
    split_ifs with hnegative
    · apply passes_advance
      obtain ⟨rest, hrest⟩ : ∃ rest, here.rest = .char '-' :: rest := by
        exact List.head?_eq_some_iff.mp (beq_iff_eq.mp hnegative)
      rw [hrest, List.take_succ_cons, List.take_zero, List.forall_mem_singleton]
      decide
    · exact ⟨[], rfl, List.forall_mem_nil _⟩
  obtain ⟨htake, hdigits⟩ := wholeDigits_spec body.rest
  have hwhole : here.Passes after := by
    apply hbody.trans
    apply passes_advance
    rw [htake]
    exact fun p hp => plain_of_isAsciiDigit (hdigits p hp)
  have hfraction : here.Passes after' := by
    apply hwhole.trans
    show after.Passes (if fraction.isEmpty then after else after.advance (1 + fraction.length))
    split_ifs with hempty
    · exact ⟨[], rfl, List.forall_mem_nil _⟩
    · exact passes_advance (plain_take_fraction (Bool.eq_false_iff.mpr hempty))
  split
  · trivial
  split
  · rename_i e n hexponent
    exact (hfraction.trans (passes_advance (plain_take_exponent hexponent))).follows (hreal _)
  split
  · exact hfraction.follows (hreal _)
  split
  · rename_i hlimit
    refine ⟨hlimit, whole, ?_, rfl, hdigits⟩
    obtain ⟨piece, hrest, -⟩ := hbody
    rw [hrest]
    exact List.IsInfix.trans (List.prefix_iff_eq_take.mpr htake.symm).isInfix
      (List.suffix_append ..).isInfix
  · rename_i hpoint hlimit
    apply hfraction.follows
    intro n hn
    have hlt : digits < 10 ^ limits.digits := by
      have hempty : fraction = [] := by simpa using hpoint
      have hlength : (whole ++ fraction).length = whole.length := by rw [hempty, List.append_nil]
      have h : digits < 10 ^ (whole ++ fraction).length := getD_numeral?_lt _
      rw [hlength] at h
      exact Nat.lt_of_lt_of_le h (Nat.pow_le_pow_right (by decide) (Nat.le_of_not_lt hlimit))
    cases hn
    split_ifs
    · rw [Int.natAbs_neg]
      exact hlt
    · exact hlt

/-! ### Values inside each other -/

/-- What the reader does with so much fuel. -/
structure Followed (fuel : Nat) : Prop where
  value : ∀ limits here, Follows limits (Taken limits) here.rest
    (readValue limits.digits fuel limits.levels here)
  items : ∀ limits here done, (∀ v ∈ done, v.Within limits.digits) →
    Follows limits (TakenClosed limits) here.rest
      (readItems limits.digits fuel limits.levels here done)
  members : ∀ limits here done, (∀ member ∈ done, member.2.Within limits.digits) →
    Follows limits (TakenClosed limits) here.rest
      (readMembers limits.digits fuel limits.levels here done)

section

variable {limits : Limits} {here next after : Cursor} {t piece : Text} {p : CodePoint} {k : Nat}
  {v : Value} {r : Read Value}

/-- The place after an opening bracket and the blanks that follow it. -/
theorem exists_blanks_of_cons (h : here.rest = p :: t) :
    ∃ blanks, t = blanks ++ (here.advance 1).skip.rest ∧ Nested 0 blanks := by
  have hrest : (here.advance 1).rest = t := by
    rw [Cursor.advance, h]
    rfl
  obtain ⟨blanks, hskip, hblanks⟩ := passes_skip (here.advance 1)
  rw [hrest] at hskip
  exact ⟨blanks, hskip, nested_of_plain hblanks⟩

/-- The blanks after a piece can be counted to it. -/
theorem Nested.exists_through_blanks (hpiece : Nested k piece) (hrest : t = piece ++ after.rest) :
    ∃ piece', t = piece' ++ after.skip.rest ∧ Nested k piece' := by
  obtain ⟨blanks, hskip, hblanks⟩ := passes_skip after
  refine ⟨piece ++ blanks, ?_, ?_⟩
  · rw [hrest, hskip, List.append_assoc]
  · simpa using hpiece.append (nested_of_plain hblanks)

/-- So can a comma or a colon, with the blanks after it. -/
theorem Nested.exists_through_mark {u : Text} (hpiece : Nested k piece)
    (hrest : u = piece ++ next.rest) (hmark : next.rest = p :: t) (hp : Plain p) :
    ∃ piece', u = piece' ++ (next.advance 1).skip.rest ∧ Nested k piece' := by
  obtain ⟨blanks, hblanks, hnested⟩ := exists_blanks_of_cons hmark
  refine ⟨piece ++ (p :: blanks), ?_, ?_⟩
  · rw [hrest, hmark, hblanks, List.append_assoc, List.cons_append]
  · have hplain : Nested 0 [p] := nested_of_plain (List.forall_mem_singleton.mpr hp)
    simpa using hpiece.append (hplain.append hnested)

/-- A value between brackets may go one level deeper than what is in them. -/
theorem Follows.of_opens {levels digits : Nat}
    (h : Follows ⟨levels, digits⟩ (TakenClosed ⟨levels, digits⟩) t r) (hp : Opens p)
    (hpiece : Nested 0 piece) :
    Follows ⟨levels + 1, digits⟩ (Taken ⟨levels + 1, digits⟩) (p :: (piece ++ t)) r := by
  cases r with
  | ok found =>
    obtain ⟨whole, ht, inner, close, rfl, hclose, ⟨k, hk, hinner⟩, hwithin⟩ := h
    refine ⟨p :: (piece ++ inner ++ [close]), ?_, ⟨max 0 k + 1, ?_, ?_⟩, hwithin⟩
    · rw [ht]
      simp only [List.cons_append, List.append_assoc]
    · show max 0 k + 1 ≤ levels + 1
      have hk' : k ≤ levels := hk
      omega
    · exact (hpiece.append hinner).between hp hclose
  | error stop =>
    have hinner := Stop.IsIn.append h hpiece
    cases stop with
    | syntaxAt problem offset => trivial
    | tooManyDigits n => exact ⟨hinner.1, hinner.2.of_suffix (List.suffix_cons ..)⟩
    | tooDeep container => exact Exceeds.of_opens hinner hp

/-- An empty list or record. -/
theorem follows_closed {levels digits : Nat} (hp : Opens p) (hpiece : Nested 0 piece)
    {q : CodePoint} (hq : Closes q) (ht : next.rest = q :: t) (hv : v.Within digits) :
    Follows ⟨levels + 1, digits⟩ (Taken ⟨levels + 1, digits⟩) (p :: (piece ++ next.rest))
      (.ok (v, next.advance 1)) := by
  refine ⟨p :: (piece ++ [q]), ?_, ⟨1, Nat.le_add_left .., hpiece.between hp hq⟩, hv⟩
  rw [Cursor.advance, ht]
  simp only [List.cons_append, List.append_assoc]
  rfl

/-- The end of a list or a record after its last value. -/
theorem followsClosed_of_closes (hk : k ≤ limits.levels) (hpiece : Nested k piece)
    (hrest : here.rest = piece ++ next.rest) {q : CodePoint} (hq : Closes q)
    (ht : next.rest = q :: t) (hv : v.Within limits.digits) :
    Follows limits (TakenClosed limits) here.rest (.ok (v, next.advance 1)) := by
  refine ⟨piece ++ [q], ?_, piece, q, rfl, hq, ⟨k, hk, hpiece⟩, hv⟩
  rw [hrest, Cursor.advance, ht, List.append_assoc]
  rfl

/-- What follows a comma after a value of a list or a record. -/
theorem Follows.after_comma (hk : k ≤ limits.levels) (hpiece : Nested k piece)
    (hrest : here.rest = piece ++ next.rest) (hcomma : next.rest = .char ',' :: t)
    (h : Follows limits (TakenClosed limits) (next.advance 1).skip.rest r) :
    Follows limits (TakenClosed limits) here.rest r := by
  obtain ⟨before, hcut, hbefore⟩ := hpiece.exists_through_mark hrest hcomma (by decide)
  rw [hcut]
  cases r with
  | ok found =>
    obtain ⟨taken, ht, inner, close, rfl, hclose, ⟨j, hj, hinner⟩, hwithin⟩ := h
    refine ⟨_, ?_, _, close, rfl, hclose, ⟨_, ?_, hbefore.append hinner⟩, hwithin⟩
    · rw [ht]
      simp only [List.append_assoc]
    · exact Nat.max_le.mpr ⟨hk, hj⟩
  | error stop => exact Stop.IsIn.append h hbefore

end

section

variable {fuel : Nat} (ih : Followed fuel)

include ih

theorem follows_readValue_succ (limits : Limits) (here : Cursor) :
    Follows limits (Taken limits) here.rest
      (readValue limits.digits (fuel + 1) limits.levels here) := by
  obtain ⟨levels, digits⟩ := limits
  unfold readValue
  split
  · trivial
  · rename_i rest hrest
    rw [hrest]
    have hstring := follows_readString ⟨levels, digits⟩ here.offset [] (here.offset + 1) rest
    cases hread : readString here.offset [] (here.offset + 1) 0 rest with
    | ok found =>
      rw [hread] at hstring
      obtain ⟨piece, ht, hpiece⟩ := hstring
      exact ⟨piece, ht, ⟨0, Nat.zero_le _, hpiece⟩, within_of_not_whole fun n hn => by cases hn⟩
    | error stop =>
      rw [hread] at hstring
      exact hstring
  · rename_i rest hrest
    obtain ⟨blanks, hblanks, hnested⟩ := exists_blanks_of_cons hrest
    rw [hrest, hblanks]
    cases levels with
    | zero => exact exceeds_zero (.inl rfl) _
    | succ levels =>
      dsimp only
      split
      · rename_i hclose
        exact follows_closed (.inl rfl) hnested (.inl rfl) hclose
          (within_list (List.forall_mem_nil _))
      · exact (ih.items ⟨levels, digits⟩ _ [] (List.forall_mem_nil _)).of_opens (.inl rfl) hnested
  · rename_i rest hrest
    obtain ⟨blanks, hblanks, hnested⟩ := exists_blanks_of_cons hrest
    rw [hrest, hblanks]
    cases levels with
    | zero => exact exceeds_zero (.inr rfl) _
    | succ levels =>
      dsimp only
      split
      · rename_i hclose
        exact follows_closed (.inr rfl) hnested (.inr rfl) hclose
          (within_record (List.forall_mem_nil _))
      · exact (ih.members ⟨levels, digits⟩ _ [] (List.forall_mem_nil _)).of_opens (.inr rfl) hnested
  · split
    · rename_i found hfound
      exact follows_namedValue hfound
    · exact follows_readNumber ⟨levels, digits⟩ here

theorem follows_readItems_succ (limits : Limits) (here : Cursor) (done : List Value)
    (hdone : ∀ v ∈ done, v.Within limits.digits) :
    Follows limits (TakenClosed limits) here.rest
      (readItems limits.digits (fuel + 1) limits.levels here done) := by
  -- The piece of the first value is closed in itself; the bracket that ends the list is not, which
  -- is why the items are followed with `TakenClosed`.
  have hvalue := ih.value limits here
  unfold readItems
  split
  · rename_i e he
    rw [he] at hvalue
    exact hvalue
  · rename_i v after hafter
    rw [hafter] at hvalue
    obtain ⟨piece, hrest, ⟨k, hk, hpiece⟩, hv⟩ := hvalue
    obtain ⟨piece', hnext, hpiece'⟩ := hpiece.exists_through_blanks hrest
    have hdone' : ∀ w ∈ v :: done, w.Within limits.digits := List.forall_mem_cons.mpr ⟨hv, hdone⟩
    extract_lets next
    split
    · rename_i rest hclose
      apply followsClosed_of_closes hk hpiece' hnext (.inl rfl) hclose
      exact within_list fun w hw => hdone' w (List.mem_reverse.mp hw)
    · rename_i rest hcomma
      exact (ih.items limits _ _ hdone').after_comma hk hpiece' hnext hcomma
    · trivial

theorem follows_readMembers_succ (limits : Limits) (here : Cursor) (done : List (Text × Value))
    (hdone : ∀ member ∈ done, member.2.Within limits.digits) :
    Follows limits (TakenClosed limits) here.rest
      (readMembers limits.digits (fuel + 1) limits.levels here done) := by
  unfold readMembers
  split
  · rename_i rest hrest
    have hname := follows_readString limits here.offset [] (here.offset + 1) rest
    rw [← hrest] at hname
    split
    · rename_i e he
      rw [he] at hname
      exact hname
    · rename_i name after hafter
      rw [hafter] at hname
      obtain ⟨namePiece, hnameRest, hnamePiece⟩ := hname
      obtain ⟨named, hcolonRest, hnamed⟩ := hnamePiece.exists_through_blanks hnameRest
      extract_lets colon
      split
      · rename_i rest' hcolon
        -- What stands before the value: the name, the colon, and the blanks around the colon.
        obtain ⟨before, hvalueRest, hbefore⟩ :=
          hnamed.exists_through_mark hcolonRest hcolon (by decide)
        have hvalue := ih.value limits (colon.advance 1).skip
        split
        · rename_i e he
          rw [he] at hvalue
          rw [hvalueRest]
          exact Stop.IsIn.append hvalue hbefore
        · rename_i v last hlast
          rw [hlast] at hvalue
          obtain ⟨piece, hpieceRest, ⟨k, hk, hpiece⟩, hv⟩ := hvalue
          rw [hpieceRest, ← List.append_assoc] at hvalueRest
          obtain ⟨piece', hnext, hpiece'⟩ :=
            (hbefore.append hpiece).exists_through_blanks hvalueRest
          have hk' : max 0 k ≤ limits.levels := Nat.max_le.mpr ⟨Nat.zero_le _, hk⟩
          have hdone' : ∀ member ∈ putMember name v done, member.2.Within limits.digits :=
            within_putMember hv hdone
          extract_lets next
          split
          · rename_i hclose
            exact followsClosed_of_closes hk' hpiece' hnext (.inr rfl) hclose (within_record hdone')
          · rename_i hcomma
            exact (ih.members limits _ _ hdone').after_comma hk' hpiece' hnext hcomma
          · trivial
      · trivial
  · trivial

end

theorem followed (fuel : Nat) : Followed fuel := by
  induction fuel with
  | zero =>
    constructor
    · intro limits here
      unfold readValue
      trivial
    · intro limits here done hdone
      unfold readItems
      trivial
    · intro limits here done hdone
      unfold readMembers
      trivial
  | succ fuel ih =>
    exact ⟨follows_readValue_succ ih, follows_readItems_succ ih, follows_readMembers_succ ih⟩

/-! ### Whole texts -/

/-- A text that is read keeps to the limits, and so does its value. -/
theorem parse_eq_ok {limits : Limits} {text : Text} {v : Value} (h : parse limits text = .ok v) :
    nesting text ≤ limits.levels ∧ v.Within limits.digits := by
  have hread := (followed (2 * text.length + 1)).value limits (skipSpace 0 text)
  unfold parse at h
  split at h
  · cases h
  · cases hvalue : readValue limits.digits (2 * text.length + 1) limits.levels (skipSpace 0 text) with
    | error stop =>
      rw [hvalue] at h
      cases h
    | ok found =>
      obtain ⟨w, after⟩ := found
      rw [hvalue] at h hread
      obtain ⟨piece, hpieceRest, ⟨k, hk, hpiece⟩, hwithin⟩ := hread
      simp only [bind, Except.bind] at h
      split at h
      · rename_i hend
        cases h
        obtain ⟨before, hbefore, hplain⟩ := exists_skipSpace 0 text
        obtain ⟨blanks, hblanks, hplain'⟩ := passes_skip after
        rw [List.isEmpty_iff.mp hend, List.append_nil] at hblanks
        have htext : text = before ++ piece ++ blanks := by
          rw [List.append_assoc, ← hblanks, ← hpieceRest, ← hbefore]
        have hnested :=
          ((nested_of_plain hplain).append hpiece).append (nested_of_plain hplain')
        rw [htext, hnested.nesting_eq]
        exact ⟨by omega, hwithin⟩
      · cases h

/-- What stops the reader is in the text. -/
theorem parse_stops {limits : Limits} {text : Text} {stop : Stop}
    (h : parse limits text = .error stop) : stop.IsIn limits text := by
  have hread := (followed (2 * text.length + 1)).value limits (skipSpace 0 text)
  obtain ⟨before, hbefore, hplain⟩ := exists_skipSpace 0 text
  unfold parse at h
  split at h
  · cases h
    trivial
  · cases hvalue : readValue limits.digits (2 * text.length + 1) limits.levels (skipSpace 0 text) with
    | ok found =>
      obtain ⟨v, after⟩ := found
      rw [hvalue] at h
      simp only [bind, Except.bind] at h
      split at h
      · cases h
      · cases h
        trivial
    | error e =>
      rw [hvalue] at h hread
      cases h
      rw [hbefore]
      exact Stop.IsIn.append hread (nested_of_plain hplain)

end GridAsm.Json
