import GridAsm.Text.Basic

/-!
# Text on the console

Lines are printed without control sequences, by which a text could change the colours of a terminal:
an escape character, a bracket, parameters and a letter.  The text is gone through once, so that
what comes together where a sequence was dropped is kept.

A line with a lone surrogate is refused by the output and escaped by the error output.
-/

namespace GridAsm.Text

/-- Whether a character may be a parameter of a control sequence. -/
def isParameter (c : Char) : Bool :=
  c == ';' || c == '?' || c.isDigit

/-- The number of code points of the control sequence at the start of a text, if there is one. -/
def sequenceLength? : Text → Option Nat
  | .char '\x1b' :: .char '[' :: rest =>
    match rest.dropWhile (·.satisfies isParameter) with
    | [] => none
    | p :: _ =>
      if p.satisfies Char.isAlpha then
        some (3 + (rest.takeWhile (·.satisfies isParameter)).length)
      else none
  | _ => none

/-- Continues `withoutSequences` after the code points of `done`, last first; the next `skip` code
points belong to a sequence. -/
def withoutSequencesFrom (done : Text) (skip : Nat) : Text → Text
  | [] => done.reverse
  | p :: rest =>
    match skip with
    | skip + 1 => withoutSequencesFrom done skip rest
    | 0 => match sequenceLength? (p :: rest) with
      | some n => withoutSequencesFrom done (n - 1) rest
      | none => withoutSequencesFrom (p :: done) 0 rest

/-- A text without the control sequences in it. -/
def withoutSequences (t : Text) : Text :=
  withoutSequencesFrom [] 0 t

/-- A line as the output shows it, unless it cannot be written. -/
def outputLine (line : Text) : Except EncodeFault String :=
  (withoutSequences line).encoded

/-- A line as the error output shows it. -/
def errorLine (line : Text) : String :=
  (withoutSequences line).escaped

end GridAsm.Text
