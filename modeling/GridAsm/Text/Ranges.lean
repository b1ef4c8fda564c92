/-!
# Character tables

A property of characters is written as an ascending list of closed ranges of code points, and a
change of case as a list of runs: code points at a regular distance that all move by the same
amount.  `inRanges` and `CaseRun.shift?` read such tables.
-/

namespace GridAsm.Text

/-- Whether `n` lies in one of the closed ranges of an ascending table. -/
def inRanges (n : Nat) : List (Nat × Nat) → Bool
  | [] => false
  | (lo, hi) :: rest => if n < lo then false else n ≤ hi || inRanges n rest

/-- The code points `first, first + step, …, last`, each of which changes case by `move`. -/
structure CaseRun where
  /-- The lowest code point of the run. -/
  first : Nat
  /-- The highest code point of the run. -/
  last : Nat
  /-- The distance of neighbours in the run. -/
  step : Nat
  /-- What is added to a code point of the run. -/
  move : Int

/-- The code point that `n` becomes under an ascending table of runs, if one of them holds it. -/
def CaseRun.shift? (n : Nat) : List CaseRun → Option Nat
  | [] => none
  | r :: rest =>
    if n < r.first then none
    else if n ≤ r.last && (n - r.first) % r.step == 0 then some ((n : Int) + r.move).toNat
    else shift? n rest

end GridAsm.Text
