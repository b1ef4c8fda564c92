import GridAsm.Json.Reader
import Mathlib.Data.List.Infix
import Mathlib.Tactic.SplitIfs

/-!
# Brackets inside each other

`nesting` is the greatest number of brackets of a text that are open at once, where brackets in
strings do not count.  It is found by a scan from left to right that knows brackets and quotes, and
nothing else of JSON.

A piece of a text that closes what it opens leaves the scan where it was (`Nested`), so that pieces
can be put side by side and between brackets.  `Exceeds` says of a text that it goes deeper than a
number of levels, however deep the place is where it stands.
-/

namespace GridAsm.Json

open Text

/-- The code point opens a list or a record. -/
def Opens (p : CodePoint) : Prop :=
  p = '[' ∨ p = '\x7b'

/-- The code point closes a list or a record. -/
def Closes (p : CodePoint) : Prop :=
  p = ']' ∨ p = '\x7d'

instance (p : CodePoint) : Decidable (Opens p) :=
  inferInstanceAs (Decidable (_ ∨ _))

instance (p : CodePoint) : Decidable (Closes p) :=
  inferInstanceAs (Decidable (_ ∨ _))

/-- What a scan is in. -/
inductive Region where
  | plain
  | quoted
  /-- In quotes, after a backslash. -/
  | escaped
  deriving DecidableEq

/-- A scan for brackets, between two code points. -/
structure Scan where
  /-- What the scan is in. -/
  region : Region := .plain
  /-- The number of brackets that are open. -/
  depth : Nat := 0
  /-- The greatest number of brackets that have been open. -/
  deepest : Nat := 0

namespace Scan

/-- The scan after one code point more. -/
def step (s : Scan) (p : CodePoint) : Scan :=
  match s.region with
  | .plain =>
    if p = '"' then { s with region := .quoted }
    else if Opens p then { s with depth := s.depth + 1, deepest := max s.deepest (s.depth + 1) }
    else if Closes p then { s with depth := s.depth - 1 }
    else s
  | .quoted =>
    if p = '"' then { s with region := .plain }
    else if p = '\\' then { s with region := .escaped }
    else s
  | .escaped => { s with region := .quoted }

/-- The scan after a text more. -/
def run (s : Scan) (t : Text) : Scan :=
  t.foldl step s

theorem run_append (s : Scan) (t t' : Text) : s.run (t ++ t') = (s.run t).run t' :=
  List.foldl_append

theorem deepest_le_step (s : Scan) (p : CodePoint) : s.deepest ≤ (s.step p).deepest := by
  unfold step
  split
  · split_ifs
    · exact Nat.le_refl _
    · exact Nat.le_max_left ..
    · exact Nat.le_refl _
    · exact Nat.le_refl _
  · split_ifs <;> exact Nat.le_refl _
  · exact Nat.le_refl _

theorem deepest_le_run (s : Scan) (t : Text) : s.deepest ≤ (s.run t).deepest := by
  induction t generalizing s with
  | nil => exact Nat.le_refl _
  | cons p rest ih => exact (s.deepest_le_step p).trans (ih (s.step p))

end Scan

/-- The greatest number of brackets that are open at once in a text, those in strings apart. -/
def nesting (t : Text) : Nat :=
  (({} : Scan).run t).deepest

/-! ### Code points outside of quotes -/

section

variable {p : CodePoint} (depth deepest : Nat)

theorem step_of_opens (hp : Opens p) :
    (⟨.plain, depth, deepest⟩ : Scan).step p = ⟨.plain, depth + 1, max deepest (depth + 1)⟩ := by
  rcases hp with rfl | rfl <;> rfl

theorem step_of_closes (hp : Closes p) :
    (⟨.plain, depth, deepest⟩ : Scan).step p = ⟨.plain, depth - 1, deepest⟩ := by
  rcases hp with rfl | rfl <;> rfl

/-- The code point is neither a quote nor a bracket. -/
def Plain (p : CodePoint) : Prop :=
  p ≠ '"' ∧ ¬ Opens p ∧ ¬ Closes p

instance (p : CodePoint) : Decidable (Plain p) :=
  inferInstanceAs (Decidable (_ ∧ _))

theorem step_of_plain (hp : Plain p) :
    (⟨.plain, depth, deepest⟩ : Scan).step p = ⟨.plain, depth, deepest⟩ := by
  obtain ⟨hquote, hopens, hcloses⟩ := hp
  unfold Scan.step
  rw [if_neg hquote, if_neg hopens, if_neg hcloses]

end

/-! ### Pieces that close what they open -/

/-- The piece closes what it opens, and goes `k` levels down. -/
def Nested (k : Nat) (piece : Text) : Prop :=
  ∀ depth deepest, depth ≤ deepest →
    (⟨.plain, depth, deepest⟩ : Scan).run piece = ⟨.plain, depth, max deepest (depth + k)⟩

section

variable {j k : Nat} {piece piece' : Text} {p q : CodePoint}

theorem nested_of_plain (h : ∀ p ∈ piece, Plain p) : Nested 0 piece := by
  intro depth deepest hdepth
  rw [Nat.add_zero, Nat.max_eq_left hdepth]
  induction piece with
  | nil => rfl
  | cons p rest ih =>
    rw [List.forall_mem_cons] at h
    show ((⟨.plain, depth, deepest⟩ : Scan).step p).run rest = _
    rw [step_of_plain depth deepest h.1]
    exact ih h.2

theorem Nested.append (h : Nested j piece) (h' : Nested k piece') :
    Nested (max j k) (piece ++ piece') := by
  intro depth deepest hdepth
  rw [Scan.run_append, h depth deepest hdepth, h' depth _ (by omega)]
  congr 1
  omega

/-- Brackets around a piece are one level more. -/
theorem Nested.between (h : Nested k piece) (hp : Opens p) (hq : Closes q) :
    Nested (k + 1) (p :: (piece ++ [q])) := by
  intro depth deepest hdepth
  show ((⟨.plain, depth, deepest⟩ : Scan).step p).run (piece ++ [q]) = _
  -- The piece is scanned one level down, and the closing bracket comes back up from there.
  rw [step_of_opens depth deepest hp, Scan.run_append, h _ _ (Nat.le_max_right ..)]
  show Scan.step ⟨.plain, depth + 1, _⟩ q = _
  rw [step_of_closes _ _ hq, Nat.add_sub_cancel]
  congr 1
  omega

theorem Nested.nesting_eq (h : Nested k piece) : nesting piece = k := by
  show (Scan.run ⟨.plain, 0, 0⟩ piece).deepest = k
  rw [h 0 0 (Nat.le_refl 0)]
  show max 0 (0 + k) = k
  omega

end

/-! ### Texts that go too deep -/

/-- The text goes deeper than so many levels. -/
def Exceeds (levels : Nat) (t : Text) : Prop :=
  ∀ depth deepest, depth ≤ deepest →
    depth + levels < ((⟨.plain, depth, deepest⟩ : Scan).run t).deepest

section

variable {levels k : Nat} {piece t : Text} {p : CodePoint}

theorem exceeds_zero (hp : Opens p) (t : Text) : Exceeds 0 (p :: t) := by
  intro depth deepest hdepth
  have hdeepest := ((⟨.plain, depth, deepest⟩ : Scan).step p).deepest_le_run t
  rw [step_of_opens depth deepest hp] at hdeepest
  show depth + 0 < (Scan.run (Scan.step _ p) t).deepest
  rw [step_of_opens depth deepest hp]
  exact Nat.lt_of_lt_of_le (Nat.lt_of_lt_of_le (Nat.lt_succ_self depth) (Nat.le_max_right ..))
    hdeepest

theorem Exceeds.of_opens (h : Exceeds levels t) (hp : Opens p) : Exceeds (levels + 1) (p :: t) := by
  intro depth deepest hdepth
  show _ < (Scan.run (Scan.step _ p) t).deepest
  rw [step_of_opens depth deepest hp]
  have hinner := h (depth + 1) (max deepest (depth + 1)) (Nat.le_max_right ..)
  omega

theorem Exceeds.of_nested (h : Exceeds levels t) (hpiece : Nested k piece) :
    Exceeds levels (piece ++ t) := by
  intro depth deepest hdepth
  rw [Scan.run_append, hpiece depth deepest hdepth]
  exact h depth _ (hdepth.trans (Nat.le_max_left ..))

theorem Exceeds.lt_nesting (h : Exceeds levels t) : levels < nesting t := by
  have hdeepest := h 0 0 (Nat.le_refl 0)
  rwa [Nat.zero_add] at hdeepest

end

/-! ### Strings -/

/-- The piece ends the string that it starts in. -/
def EndsString (piece : Text) : Prop :=
  ∀ depth deepest, (⟨.quoted, depth, deepest⟩ : Scan).run piece = ⟨.plain, depth, deepest⟩

/-- A string with its opening quote has no brackets that count. -/
theorem EndsString.nested {piece : Text} (h : EndsString piece) : Nested 0 (.char '"' :: piece) := by
  intro depth deepest hdepth
  rw [Nat.add_zero, Nat.max_eq_left hdepth]
  exact h depth deepest

theorem endsString_quote : EndsString ['"'] :=
  fun _ _ => rfl

theorem EndsString.cons {p : CodePoint} {piece : Text} (h : EndsString piece) (hquote : p ≠ '"')
    (hslash : p ≠ '\\') : EndsString (p :: piece) := by
  intro depth deepest
  have hstep : Scan.step ⟨.quoted, depth, deepest⟩ p = ⟨.quoted, depth, deepest⟩ := by
    unfold Scan.step
    dsimp only
    rw [if_neg hquote, if_neg hslash]
  show (Scan.step _ p).run piece = _
  rw [hstep]
  exact h depth deepest

/-- The piece is what follows a backslash in a string. -/
def EndsEscape (piece : Text) : Prop :=
  ∀ depth deepest, (⟨.escaped, depth, deepest⟩ : Scan).run piece = ⟨.quoted, depth, deepest⟩

theorem EndsEscape.endsString {escape piece : Text} (h : EndsEscape escape)
    (hpiece : EndsString piece) : EndsString (.char '\\' :: (escape ++ piece)) := by
  intro depth deepest
  show (Scan.run ⟨.escaped, depth, deepest⟩ (escape ++ piece)) = _
  rw [Scan.run_append, h depth deepest]
  exact hpiece depth deepest

end GridAsm.Json
