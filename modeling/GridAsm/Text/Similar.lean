import GridAsm.Text.Basic

/-!
# Similar names

How alike two texts are, and which names of a list come close enough to a word to be suggested for
it.

The measure finds the longest block that both texts share, the first in the name and then the
first in the word among equals, and then does the same to the left and to the right of it.  With
`m` characters in all those blocks and `t` characters in both texts the similarity is `2 m / t`.
In a word of `busyLength` or more characters a character that fills more than a hundredth of it
starts no block, though a block may grow over it.

Texts are compared by the numbers of their code points.
-/

namespace GridAsm.Text

/-- A character of the word, and whether a block may start at it. -/
structure Mark where
  /-- The number of the character. -/
  code : Nat
  /-- Whether the character is rare enough to start a block. -/
  rare : Bool

/-- From this length on, a word has characters that are too frequent to start a block. -/
def busyLength : Nat := 200

/-- The characters of a word, with the frequent ones of a long word marked. -/
def marks (word : List Nat) : List Mark :=
  let n := word.length
  if n < busyLength then word.map (⟨·, true⟩)
  else word.map fun c => ⟨c, word.count c ≤ n / 100 + 1⟩

/-- A block shared by two texts: where it starts in each of them, and its length. -/
structure Block where
  /-- Its start in the name. -/
  inName : Nat
  /-- Its start in the word. -/
  inWord : Nat
  /-- Its length. -/
  size : Nat

/-- The lengths of the shared blocks that end at the character `c` of the name and at each
character of the word, given those that end one character earlier in the name; `diagonal` is the
length for the character of the word before the first of `ms`. -/
def blockRow (c : Nat) (diagonal : Nat) : List Mark → List Nat → List Nat
  | [], _ => []
  | m :: ms, above =>
    let here := if m.rare && m.code == c then diagonal + 1 else 0
    here :: blockRow c (above.headD 0) ms above.tail

/-- The better of the block found so far and those that end at character `i` of the name and at
the characters of the word from `j` on. -/
def betterInRow (i : Nat) (best : Block) : Nat → List Nat → Block
  | _, [] => best
  | j, k :: ks =>
    let best := if best.size < k then ⟨i + 1 - k, j + 1 - k, k⟩ else best
    betterInRow i best (j + 1) ks

/-- The longest block that starts at a rare character, searched from character `i` of the name
on. -/
def longestFrom (word : List Mark) (i : Nat) (above : List Nat) (best : Block) :
    List Nat → Block
  | [] => best
  | c :: name =>
    let row := blockRow c 0 word above
    longestFrom word (i + 1) row (betterInRow i best 0 row) name

/-- The number of characters that two texts share at their starts. -/
def sharedStart : List Nat → List Nat → Nat
  | a :: as, b :: bs => if a == b then sharedStart as bs + 1 else 0
  | _, _ => 0

/-- A block grown to the left and to the right as far as the texts agree. -/
def grown (name word : List Nat) (b : Block) : Block :=
  let left := sharedStart (name.take b.inName).reverse (word.take b.inWord).reverse
  let right := sharedStart (name.drop (b.inName + b.size)) (word.drop (b.inWord + b.size))
  ⟨b.inName - left, b.inWord - left, left + b.size + right⟩

/-- The number of characters in the shared blocks of a name and a word; `fuel` bounds the number
of blocks. -/
def sharedWithin : Nat → List Nat → List Mark → Nat
  | 0, _, _ => 0
  | fuel + 1, name, word =>
    let b := grown name (word.map Mark.code) (longestFrom word 0 [] ⟨0, 0, 0⟩ name)
    if b.size = 0 then 0
    else sharedWithin fuel (name.take b.inName) (word.take b.inWord) + b.size +
      sharedWithin fuel (name.drop (b.inName + b.size)) (word.drop (b.inWord + b.size))

/-- The number of characters in the shared blocks of a name and a word. -/
def shared (name word : List Nat) : Nat :=
  sharedWithin name.length name (marks word)

/-- A name with its similarity to a word, as a fraction. -/
structure Candidate where
  /-- The name. -/
  name : Text
  /-- Twice the number of shared characters. -/
  num : Nat
  /-- The number of characters in both texts. -/
  den : Nat

/-- Whether a fraction is at least three fifths. -/
def closeEnough (num den : Nat) : Bool :=
  3 * den ≤ 5 * num

/-- The name as a candidate, if it is close enough to the word.  Texts whose lengths alone keep
them too far apart are not compared. -/
def Candidate.of? (word : List Nat) (name : Text) : Option Candidate :=
  let text := name.codes
  let den := text.length + word.length
  if closeEnough (2 * min text.length word.length) den then
    let num := if den = 0 then 1 else 2 * shared text word
    let den := if den = 0 then 1 else den
    if closeEnough num den then some ⟨name, num, den⟩ else none
  else none

/-- Whether `a` is suggested before `b`: the more similar name first, and of two equally similar
names the one that comes later in the order of characters. -/
def Candidate.precedes (a b : Candidate) : Bool :=
  let x := a.num * b.den
  let y := b.num * a.den
  y < x || (x == y && b.name.precedesOrEq a.name)

/-- The names that come close to a word, the best first, three at most. -/
def closeMatches (word : Text) (names : List Text) : List Text :=
  let candidates := names.filterMap (Candidate.of? word.codes)
  ((candidates.mergeSort Candidate.precedes).take 3).map Candidate.name

end GridAsm.Text
