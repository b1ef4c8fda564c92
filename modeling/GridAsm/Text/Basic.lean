import GridAsm.Text.CodePoint
import GridAsm.Text.Digit

/-!
# Texts

A `Text` is a list of code points.  A `String` is a text without lone surrogates, and is one
wherever a text is expected; the wording of messages is written as strings.

UTF-8 has no bytes for a lone surrogate.  `Text.encoded` gives the characters of a text, or where
the first lone surrogates are; `Text.escaped` writes them as escapes, and `Text.lossy` as the
replacement character.
-/

namespace GridAsm

/-- A text as a list of code points. -/
abbrev Text : Type :=
  List CodePoint

/-- The first code points of a text that have no bytes. -/
structure EncodeFault where
  /-- The number of code points before them. -/
  offset : Nat
  /-- How many of them stand together. -/
  length : Nat
  /-- The first of them. -/
  first : CodePoint
  deriving DecidableEq, Repr

namespace Text

/-- Characters as a text. -/
def ofChars (cs : List Char) : Text :=
  cs.map .char

/-- A string as a text. -/
def ofString (s : String) : Text :=
  ofChars s.toList

instance : Coe String Text := ⟨ofString⟩

/-- The numbers of the code points. -/
def codes (t : Text) : List Nat :=
  t.map CodePoint.code

/-- Whether a text stands no later than another one in the order of code points. -/
def precedesOrEq (s t : Text) : Bool :=
  !t.codes.lex s.codes

/-- The text with the replacement character in the place of every lone surrogate. -/
def lossy (t : Text) : String :=
  String.ofList (t.map CodePoint.lossy)

/-- The text with an escape in the place of every lone surrogate. -/
def escaped (t : Text) : String :=
  String.ofList (t.flatMap CodePoint.escaped)

/-- Texts with a separator between them. -/
def join (separator : String) (ts : List Text) : Text :=
  (ofString separator).intercalate ts

end Text

/-! ### Texts that cannot be written -/

/-- The wording of the fault. -/
def EncodeFault.message (f : EncodeFault) : String :=
  let characters :=
    if f.length = 1 then
      "character '" ++ String.ofList f.first.escaped ++ "' in position " ++ Text.decimal f.offset
    else
      "characters in position " ++ Text.decimal f.offset ++ "-" ++
        Text.decimal (f.offset + f.length - 1)
  "'utf-8' codec can't encode " ++ characters ++ ": surrogates not allowed"

namespace Text

/-- The first lone surrogate that is not accepted, with those that follow it, in a text of which
`offset` code points have been passed. -/
def encodeFaultFrom (accepted : CodePoint → Bool) (offset : Nat) : Text → Option EncodeFault
  | [] => none
  | p :: rest =>
    if p.isLone && !accepted p then some ⟨offset, 1 + (rest.takeWhile CodePoint.isLone).length, p⟩
    else encodeFaultFrom accepted (offset + 1) rest

/-- The characters of a text, unless it holds a lone surrogate. -/
def encoded (t : Text) : Except EncodeFault String :=
  match encodeFaultFrom (fun _ => false) 0 t with
  | some fault => .error fault
  | none => .ok t.lossy

/-! ### Strings as texts -/

@[simp] theorem length_ofString (s : String) : (ofString s).length = s.length := by
  rw [ofString, ofChars, List.length_map, String.length_toList]

@[simp] theorem ofString_append (s t : String) :
    ofString (s ++ t) = ofString s ++ ofString t := by
  simp [ofString, ofChars]

@[simp] theorem lossy_ofString (s : String) : lossy (ofString s) = s := by
  simp [ofString, ofChars, lossy, Function.comp_def]

/-- Strings are the same if they are the same as texts. -/
theorem ofString_injective {s t : String} (h : ofString s = ofString t) : s = t := by
  rw [← lossy_ofString s, h, lossy_ofString]

@[simp] theorem ofString_inj {s t : String} : ofString s = ofString t ↔ s = t :=
  ⟨ofString_injective, fun h => h ▸ rfl⟩

@[simp] theorem escaped_ofString (s : String) : escaped (ofString s) = s := by
  simp [ofString, ofChars, escaped, List.flatMap_map]

theorem encodeFaultFrom_ofChars (accepted : CodePoint → Bool) (offset : Nat) (cs : List Char) :
    encodeFaultFrom accepted offset (ofChars cs) = none := by
  induction cs generalizing offset with
  | nil => rfl
  | cons c rest ih =>
    have h : ofChars (c :: rest) = .char c :: ofChars rest := rfl
    simp [h, encodeFaultFrom, ih]

@[simp] theorem encoded_ofString (s : String) : encoded (ofString s) = .ok s := by
  have h : encodeFaultFrom (fun _ => false) 0 (ofString s) = none :=
    encodeFaultFrom_ofChars _ 0 s.toList
  simp only [encoded, h, lossy_ofString]

end Text

end GridAsm
