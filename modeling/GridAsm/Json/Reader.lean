import GridAsm.Json.Value

/-!
# Reading JSON

`Json.parse` reads one value and nothing but blanks after it.  Beside standard JSON it takes `NaN`,
`Infinity` and `-Infinity`.  A number with a fraction or an exponent is a binary floating-point
number, any other a whole number.  Of two members with one name the later gives the value and the
earlier the place.  An escaped surrogate without its partner is a code point of its own.

How many values may lie inside each other and how many digits a whole number may have are `Limits`
that the reader is given.

A text that is no JSON is refused with what was expected and where: the line, the column and the
number of characters before the fault.  The reader goes through the text once, from left to right,
and reports the first fault that it meets.
-/

namespace GridAsm.Json

open Text

/-- What is wrong with a text that is no JSON. -/
inductive Problem where
  | expectedValue
  | expectedName
  | expectedColon
  | expectedComma
  | unterminatedString
  | controlCharacter
  | badEscape
  | badUnicodeEscape
  | extraData
  | byteOrderMark
  deriving DecidableEq, Repr

/-- The wording of a problem. -/
def Problem.text : Problem → String
  | .expectedValue => "Expecting value"
  | .expectedName => "Expecting property name enclosed in double quotes"
  | .expectedColon => "Expecting ':' delimiter"
  | .expectedComma => "Expecting ',' delimiter"
  | .unterminatedString => "Unterminated string starting at"
  | .controlCharacter => "Invalid control character at"
  | .badEscape => "Invalid \\escape"
  | .badUnicodeEscape => "Invalid \\uXXXX escape"
  | .extraData => "Extra data"
  | .byteOrderMark => "Unexpected UTF-8 BOM (decode using utf-8-sig)"

/-- The values that hold others. -/
inductive Container where
  | list
  | record
  deriving DecidableEq, Repr

/-- Why a text is not read. -/
inductive Stop where
  /-- The text is no JSON; `offset` characters stand before the fault. -/
  | syntaxAt (problem : Problem) (offset : Nat)
  /-- A whole number has too many digits. -/
  | tooManyDigits (count : Nat)
  /-- A value lies inside more others than the reader follows. -/
  | tooDeep (container : Container)
  deriving DecidableEq, Repr

/-- How far a reader goes. -/
structure Limits where
  /-- The number of values that may lie inside each other, the outermost counted. -/
  levels : Nat
  /-- The number of digits that a whole number may have. -/
  digits : Nat := digitLimit
  deriving DecidableEq, Repr

/-- The wording for a value that lies too deep. -/
def Container.tooDeepText : Container → String
  | .list => "maximum recursion depth exceeded while decoding a JSON array from a unicode string"
  | .record => "maximum recursion depth exceeded while decoding a JSON object from a unicode string"

/-- A place in the text: how many characters stand before it, and those that follow. -/
structure Cursor where
  /-- The number of characters before the place. -/
  offset : Nat
  /-- The characters after the place. -/
  rest : Text

/-- A result and the place after it, or the reason to stop. -/
abbrev Read (α : Type) : Type :=
  Except Stop (α × Cursor)

/-- Stops with a problem at a place. -/
def failAt {α : Type} (problem : Problem) (offset : Nat) : Read α :=
  .error (.syntaxAt problem offset)

/-- Whether a character may stand between the tokens. -/
def isSpace (c : CodePoint) : Bool :=
  c == ' ' || c == '\t' || c == '\n' || c == '\r'

/-- The place after the blanks that follow `offset` characters. -/
def skipSpace (offset : Nat) : Text → Cursor
  | [] => ⟨offset, []⟩
  | c :: rest => if isSpace c then skipSpace (offset + 1) rest else ⟨offset, c :: rest⟩

/-- The place after the blanks at a place. -/
def Cursor.skip (c : Cursor) : Cursor :=
  skipSpace c.offset c.rest

/-- The place after `n` characters more. -/
def Cursor.advance (c : Cursor) (n : Nat) : Cursor :=
  ⟨c.offset + n, c.rest.drop n⟩

/-! ### Strings -/

/-- The number written by four hexadecimal digits. -/
def hexQuad? (a b c d : CodePoint) : Option Nat :=
  numeral? 16 hexValue? [a, b, c, d]

/-- The character that stands for itself or for a control after a backslash. -/
def simpleEscape? : CodePoint → Option Char
  | .char '"' => some '"'
  | .char '\\' => some '\\'
  | .char '/' => some '/'
  | .char 'b' => some '\x08'
  | .char 'f' => some '\x0c'
  | .char 'n' => some '\n'
  | .char 'r' => some '\r'
  | .char 't' => some '\t'
  | _ => none

/-- What an escape stands for, given the characters after its backslash: a code point and the number
of characters that it takes after the backslash, or a problem and how far after the backslash it
lies.  An escaped code point must not end the text. -/
def readEscape : Text → Except (Problem × Nat) (CodePoint × Nat)
  | [] => .error (.unterminatedString, 0)
  | .char 'u' :: a :: b :: c :: d :: next :: rest =>
    match hexQuad? a b c d with
    | none => .error (.badUnicodeEscape, 1)
    | some high =>
      match isHighSurrogate high, next, rest with
      | true, .char '\\', .char 'u' :: e :: f :: g :: h :: _ :: _ =>
        match hexQuad? e f g h with
        | none => .error (.badUnicodeEscape, 7)
        | some low =>
          if isLowSurrogate low then .ok (.char (joinSurrogates high low), 11)
          else .ok (.ofCode high, 5)
      | _, _, _ => .ok (.ofCode high, 5)
  | .char 'u' :: _ => .error (.badUnicodeEscape, 1)
  | c :: _ => match simpleEscape? c with
    | some e => .ok (.char e, 1)
    | none => .error (.badEscape, 0)

/-- Reads a string to its closing quote.  `start` is the offset of the opening quote, `done` holds
the code points read so far, last first, and the next `skip` characters belong to an escape that has
been read. -/
def readString (start : Nat) (done : Text) (offset skip : Nat) : Text → Read Text
  | [] => failAt .unterminatedString start
  | c :: rest =>
    if 0 < skip then readString start done (offset + 1) (skip - 1) rest
    else if c = '"' then .ok (done.reverse, ⟨offset + 1, rest⟩)
    else if c = '\\' then
      match readEscape rest with
      | .ok (e, taken) => readString start (e :: done) (offset + 1) taken rest
      | .error (.unterminatedString, _) => failAt .unterminatedString start
      | .error (problem, distance) => failAt problem (offset + distance)
    else if c.code < 0x20 then failAt .controlCharacter offset
    else readString start (c :: done) (offset + 1) 0 rest

/-! ### Numbers -/

/-- Whether a code point is a digit of a number. -/
def isAsciiDigit (p : CodePoint) : Bool :=
  p.satisfies Char.isDigit

/-- The digits of a number before its point: a zero, or digits that start with none. -/
def wholeDigits (cs : Text) : Text :=
  match cs with
  | .char '0' :: _ => ['0']
  | _ => cs.takeWhile isAsciiDigit

/-- The digits after the point, if a point and a digit follow. -/
def fractionDigits : Text → Text
  | .char '.' :: rest => rest.takeWhile isAsciiDigit
  | _ => []

/-- The exponent as a number, with the number of characters it takes, if one follows. -/
def exponentPart? : Text → Option (Int × Nat)
  | e :: rest =>
    if e == 'e' || e == 'E' then
      let (negative, signLength, digits) := match rest with
        | .char '-' :: ds => (true, 1, ds.takeWhile isAsciiDigit)
        | .char '+' :: ds => (false, 1, ds.takeWhile isAsciiDigit)
        | ds => (false, 0, ds.takeWhile isAsciiDigit)
      (numeral? 10 digitValue? digits).map fun n =>
        (if negative then -(n : Int) else n, 1 + signLength + digits.length)
    else none
  | [] => none

/-- Reads a number at a place.  A whole number has at most `limit` digits. -/
def readNumber (limit : Nat) (here : Cursor) : Read Value :=
  let negative := here.rest.head? == some (.char '-')
  let body := if negative then here.advance 1 else here
  let whole := wholeDigits body.rest
  if whole.isEmpty then failAt .expectedValue here.offset
  else
    let after := body.advance whole.length
    let fraction := fractionDigits after.rest
    let after := if fraction.isEmpty then after else after.advance (1 + fraction.length)
    match exponentPart? after.rest with
    | some (e, n) =>
      let digits := (numeral? 10 digitValue? (whole ++ fraction)).getD 0
      .ok (.real (Binary64.ofDecimal negative digits (e - fraction.length)), after.advance n)
    | none =>
      let digits := (numeral? 10 digitValue? (whole ++ fraction)).getD 0
      if !fraction.isEmpty then
        .ok (.real (Binary64.ofDecimal negative digits (-fraction.length)), after)
      else if limit < whole.length then .error (.tooManyDigits whole.length)
      else .ok (.int (if negative then -(digits : Int) else digits), after)

/-! ### Values -/

/-- The values that are written as a word. -/
def namedValues : List (Text × Value) :=
  [("null", .null), ("true", .bool true), ("false", .bool false), ("NaN", .real .nan),
   ("Infinity", .real (.infinite false)), ("-Infinity", .real (.infinite true))]

/-- The value written as a word at a place, if there is one. -/
def namedValue? (here : Cursor) : Option (Value × Cursor) :=
  (namedValues.find? fun (word, _) => word.isPrefixOf here.rest).map fun (word, v) =>
    (v, here.advance word.length)

/-- The members of a record with one more of them: a name that is there gets the value in its
place. -/
def putMember (name : Text) (v : Value) : List (Text × Value) → List (Text × Value)
  | [] => [(name, v)]
  | (n, w) :: rest => if n = name then (n, v) :: rest else (n, w) :: putMember name v rest

mutual

/-- Reads a value at a place, which may hold others to the given number of levels. -/
def readValue (limit : Nat) : Nat → Nat → Cursor → Read Value
  | 0, _, here => failAt .expectedValue here.offset
  | fuel + 1, levels, here =>
    match here.rest with
    | [] => failAt .expectedValue here.offset
    | .char '"' :: rest =>
      (readString here.offset [] (here.offset + 1) 0 rest).map fun (t, after) => (.text t, after)
    | .char '[' :: _ =>
      match levels with
      | 0 => .error (.tooDeep .list)
      | levels + 1 =>
        let first := (here.advance 1).skip
        match first.rest with
        | .char ']' :: _ => .ok (.list [], first.advance 1)
        | _ => readItems limit fuel levels first []
    | .char '\x7b' :: _ =>
      match levels with
      | 0 => .error (.tooDeep .record)
      | levels + 1 =>
        let first := (here.advance 1).skip
        match first.rest with
        | .char '\x7d' :: _ => .ok (.record [], first.advance 1)
        | _ => readMembers limit fuel levels first []
    | _ =>
      match namedValue? here with
      | some found => .ok found
      | none => readNumber limit here

/-- Reads the items of a list from a place where one must stand; `done` holds the earlier ones, last
first. -/
def readItems (limit : Nat) : Nat → Nat → Cursor → List Value → Read Value
  | 0, _, here, _ => failAt .expectedValue here.offset
  | fuel + 1, levels, here, done =>
    match readValue limit fuel levels here with
    | .error e => .error e
    | .ok (v, after) =>
      let next := after.skip
      match next.rest with
      | .char ']' :: _ => .ok (.list (v :: done).reverse, next.advance 1)
      | .char ',' :: _ => readItems limit fuel levels (next.advance 1).skip (v :: done)
      | _ => failAt .expectedComma next.offset

/-- Reads the members of a record from a place where a name must stand; `done` holds the earlier
ones. -/
def readMembers (limit : Nat) : Nat → Nat → Cursor → List (Text × Value) → Read Value
  | 0, _, here, _ => failAt .expectedName here.offset
  | fuel + 1, levels, here, done =>
    match here.rest with
    | .char '"' :: rest =>
      match readString here.offset [] (here.offset + 1) 0 rest with
      | .error e => .error e
      | .ok (name, after) =>
        let colon := after.skip
        match colon.rest with
        | .char ':' :: _ =>
          match readValue limit fuel levels (colon.advance 1).skip with
          | .error e => .error e
          | .ok (v, after) =>
            let next := after.skip
            match next.rest with
            | .char '\x7d' :: _ => .ok (.record (putMember name v done), next.advance 1)
            | .char ',' :: _ =>
              readMembers limit fuel levels (next.advance 1).skip (putMember name v done)
            | _ => failAt .expectedComma next.offset
        | _ => failAt .expectedColon colon.offset
    | _ => failAt .expectedName here.offset

end

/-- The mark that may stand before a text in a file, and is no part of it. -/
def byteOrderMark : CodePoint :=
  .ofCode 0xFEFF

/-- Reads a text that holds one value. -/
def parse (limits : Limits) (cs : Text) : Except Stop Value :=
  if cs.head? = some byteOrderMark then .error (.syntaxAt .byteOrderMark 0)
  else do
    let (v, after) ← readValue limits.digits (2 * cs.length + 1) limits.levels (skipSpace 0 cs)
    let last := after.skip
    if last.rest.isEmpty then .ok v else .error (.syntaxAt .extraData last.offset)

/-! ### Where a fault is -/

/-- A problem with its line and its column, both counted from one, and its offset. -/
structure SyntaxFault where
  /-- What is wrong. -/
  problem : Problem
  /-- The line. -/
  line : Nat
  /-- The column. -/
  column : Nat
  /-- The number of characters before the fault. -/
  offset : Nat
  deriving DecidableEq, Repr

/-- The fault at an offset of a text. -/
def SyntaxFault.locate (text : Text) (problem : Problem) (offset : Nat) : SyntaxFault :=
  let before := text.take offset
  let line := before.reverse.takeWhile (· ≠ .char '\n')
  ⟨problem, before.count (.char '\n') + 1, line.length + 1, offset⟩

/-- The wording of a fault. -/
def SyntaxFault.message (f : SyntaxFault) : String :=
  f.problem.text ++ ": line " ++ decimal f.line ++ " column " ++ decimal f.column ++ " (char " ++
    decimal f.offset ++ ")"

end GridAsm.Json
