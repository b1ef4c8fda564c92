import GridAsm.Proofs.Json

/-!
# Wider limits for the reader of JSON

A text that is not stopped by a limit has the same result with wider ones (`parse_widens`).  So the
value of a text does not depend on the limits that it can be read within, and a text that is JSON is
stopped by every limit that its brackets or its whole numbers exceed (`exists_stop_of_exceeding`).
-/

namespace GridAsm.Json

open Text

/-- The reader stops for a limit. -/
def Stop.IsLimit : Stop → Prop
  | .syntaxAt _ _ => False
  | .tooManyDigits _ | .tooDeep _ => True

/-- The second result is the first one, unless that is stopped by a limit. -/
def Widens {α : Type} (r r' : Except Stop α) : Prop :=
  r' = r ∨ ∃ stop, r = .error stop ∧ stop.IsLimit

theorem Widens.refl {α : Type} (r : Except Stop α) : Widens r r :=
  .inl rfl

theorem widens_readNumber {digits digits' : Nat} (h : digits ≤ digits') (here : Cursor) :
    Widens (readNumber digits here) (readNumber digits' here) := by
  unfold readNumber
  extract_lets negative body whole after fraction after' number
  split
  · exact .refl _
  split
  · exact .refl _
  split
  · exact .refl _
  by_cases hlimit : digits < whole.length
  · rw [if_pos hlimit]
    exact .inr ⟨_, rfl, trivial⟩
  · rw [if_neg hlimit, if_neg fun hlimit' => hlimit (Nat.lt_of_le_of_lt h hlimit')]
    exact .refl _

/-- What wider limits change with so much fuel. -/
structure Widened (digits digits' fuel : Nat) : Prop where
  value : ∀ {levels levels'}, levels ≤ levels' → ∀ here,
    Widens (readValue digits fuel levels here) (readValue digits' fuel levels' here)
  items : ∀ {levels levels'}, levels ≤ levels' → ∀ here done,
    Widens (readItems digits fuel levels here done) (readItems digits' fuel levels' here done)
  members : ∀ {levels levels'}, levels ≤ levels' → ∀ here done,
    Widens (readMembers digits fuel levels here done) (readMembers digits' fuel levels' here done)

section

variable {digits digits' fuel levels levels' : Nat} (ih : Widened digits digits' fuel)
  (hlevels : levels ≤ levels')

include ih hlevels

theorem widens_readValue_succ (hdigits : digits ≤ digits') (here : Cursor) :
    Widens (readValue digits (fuel + 1) levels here) (readValue digits' (fuel + 1) levels' here) := by
  unfold readValue
  split
  · exact .refl _
  · exact .refl _
  -- At a bracket the narrower reader has no level left, or both go one level down.
  · cases levels with
    | zero => exact .inr ⟨_, rfl, trivial⟩
    | succ levels =>
      obtain ⟨more, rfl⟩ : ∃ more, levels' = more + 1 := ⟨levels' - 1, by omega⟩
      dsimp only
      split
      · exact .refl _
      · exact ih.items (Nat.le_of_succ_le_succ hlevels) _ _
  · cases levels with
    | zero => exact .inr ⟨_, rfl, trivial⟩
    | succ levels =>
      obtain ⟨more, rfl⟩ : ∃ more, levels' = more + 1 := ⟨levels' - 1, by omega⟩
      dsimp only
      split
      · exact .refl _
      · exact ih.members (Nat.le_of_succ_le_succ hlevels) _ _
  · split
    · exact .refl _
    · exact widens_readNumber hdigits here

theorem widens_readItems_succ (here : Cursor) (done : List Value) :
    Widens (readItems digits (fuel + 1) levels here done)
      (readItems digits' (fuel + 1) levels' here done) := by
  unfold readItems
  -- Unless a limit stops the narrower reader in the value, both stand at the same place after it.
  rcases ih.value hlevels here with hvalue | ⟨stop, hvalue, hstop⟩
  · rw [hvalue]
    split
    · exact .refl _
    · dsimp only
      split
      · exact .refl _
      · exact ih.items hlevels _ _
      · exact .refl _
  · rw [hvalue]
    exact .inr ⟨stop, rfl, hstop⟩

theorem widens_readMembers_succ (here : Cursor) (done : List (Text × Value)) :
    Widens (readMembers digits (fuel + 1) levels here done)
      (readMembers digits' (fuel + 1) levels' here done) := by
  unfold readMembers
  split
  · split
    · exact .refl _
    · rename_i name after hafter
      dsimp only
      split
      · rcases ih.value hlevels (after.skip.advance 1).skip with hvalue | ⟨stop, hvalue, hstop⟩
        · rw [hvalue]
          split
          · exact .refl _
          · split
            · exact .refl _
            · exact ih.members hlevels _ _
            · exact .refl _
        · rw [hvalue]
          exact .inr ⟨stop, rfl, hstop⟩
      · exact .refl _
  · exact .refl _

end

theorem widened {digits digits' : Nat} (hdigits : digits ≤ digits') (fuel : Nat) :
    Widened digits digits' fuel := by
  -- The three readers call each other with one unit of fuel less, so one induction serves all.
  induction fuel with
  | zero =>
    constructor
    · intro levels levels' hlevels here
      unfold readValue
      exact .refl _
    · intro levels levels' hlevels here done
      unfold readItems
      exact .refl _
    · intro levels levels' hlevels here done
      unfold readMembers
      exact .refl _
  | succ fuel ih =>
    constructor
    · intro levels levels' hlevels here
      exact widens_readValue_succ ih hlevels hdigits here
    · intro levels levels' hlevels here done
      exact widens_readItems_succ ih hlevels here done
    · intro levels levels' hlevels here done
      exact widens_readMembers_succ ih hlevels here done

theorem parse_widens {limits limits' : Limits} (hlevels : limits.levels ≤ limits'.levels)
    (hdigits : limits.digits ≤ limits'.digits) (text : Text) :
    Widens (parse limits text) (parse limits' text) := by
  unfold parse
  split
  · exact .refl _
  · rcases (widened hdigits (2 * text.length + 1)).value hlevels (skipSpace 0 text) with
      hvalue | ⟨stop, hvalue, hstop⟩
    · rw [hvalue]
      exact .refl _
    · rw [hvalue]
      exact .inr ⟨stop, rfl, hstop⟩

/-- A text that can be read within other limits is stopped by a limit if its brackets lie too deep
inside each other or if its value has a whole number that is too long. -/
theorem exists_stop_of_exceeding {limits limits' : Limits} {text : Text} {v : Value}
    (hjson : parse limits' text = .ok v)
    (h : limits.levels < nesting text ∨ ∃ n, Whole n v ∧ 10 ^ limits.digits ≤ n.natAbs) :
    ∃ stop, parse limits text = .error stop ∧ stop.IsLimit := by
  -- Both limits are within these, for which the text has one result only.
  let widest : Limits :=
    ⟨max limits.levels limits'.levels, max limits.digits limits'.digits⟩
  have hwidens : Widens (parse limits text) (parse widest text) :=
    parse_widens (Nat.le_max_left ..) (Nat.le_max_left ..) text
  have hwidens' : Widens (parse limits' text) (parse widest text) :=
    parse_widens (Nat.le_max_right ..) (Nat.le_max_right ..) text
  have hwidest : parse widest text = .ok v := by
    rcases hwidens' with hsame | ⟨stop, hstopped, -⟩
    · exact hsame.trans hjson
    · cases hstopped.symm.trans hjson
  rcases hwidens with hsame | hstopped
  · have hread : parse limits text = .ok v := hsame.symm.trans hwidest
    obtain ⟨hnesting, hwithin⟩ := parse_eq_ok hread
    rcases h with hdeep | ⟨n, hwhole, hlong⟩
    · exact absurd hdeep (Nat.not_lt_of_le hnesting)
    · exact absurd hlong (Nat.not_le_of_lt (hwithin n hwhole))
  · exact hstopped

end GridAsm.Json
