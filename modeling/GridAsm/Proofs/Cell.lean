import GridAsm.Layout
import GridAsm.Proofs.Text

/-!
# The grammar of cells

`Denotes cell content` says, without reading the cell, what a cell of a layout stands for.  A
register with brackets is given by its parts: `IsSliceCell` and `IsBitCell` name them with the
blanks between them.

The reader of brackets accepts these cells and no others (`registerSymbol?_eq_slice_iff`,
`registerSymbol?_eq_bit_iff`), and `symbol` finds what a cell denotes
(`denotes_iff_symbol`).
-/

namespace GridAsm.Layout

open Text

/-! ### Cells with brackets -/

/-- A cell `rd[hi:lo]`, with blanks between its parts.  The register is kept in small letters. -/
def IsSliceCell (cell register hi lo : Text) : Prop :=
  ∃ name a b c d e : Text, registerNames.any (spells · name) = true ∧ register = lower name ∧
    IsDigits hi ∧ IsDigits lo ∧
    (∀ blanks ∈ [a, b, c, d, e], allBlank blanks = true) ∧
    cell = name ++ a ++ "[" ++ b ++ hi ++ c ++ ":" ++ d ++ lo ++ e ++ "]"

/-- A cell `rd[n]`, with blanks between its parts.  The register is kept in small letters. -/
def IsBitCell (cell register n : Text) : Prop :=
  ∃ name a b c : Text, registerNames.any (spells · name) = true ∧ register = lower name ∧
    IsDigits n ∧
    (∀ blanks ∈ [a, b, c], allBlank blanks = true) ∧
    cell = name ++ a ++ "[" ++ b ++ n ++ c ++ "]"

/-- Digits between blanks are read with the blanks around them. -/
theorem digitsBetweenBlanks?_append {a digits b rest : Text} (ha : allBlank a = true)
    (hd : IsDigits digits) (hb : allBlank b = true)
    (hrest : ∀ p, rest.head? = some p → isBlank p = false ∧ isDigit p = false) :
    digitsBetweenBlanks? (a ++ (digits ++ (b ++ rest))) = some (digits, rest) := by
  obtain ⟨p, ds, hcons, hp⟩ := hd.exists_cons
  have hstart : trimStart (a ++ (digits ++ (b ++ rest))) = digits ++ (b ++ rest) := by
    apply trimStart_append ha
    rw [hcons]
    rintro q ⟨⟩
    exact isBlank_of_isDigit hp
  -- The digits end at a blank or at the rest, neither of which is a digit.
  have hboundary : ∀ q, (b ++ rest).head? = some q → isDigit q = false := by
    intro q hq
    cases b with
    | nil => exact (hrest q hq).2
    | cons x b =>
      obtain rfl : x = q := Option.some.inj hq
      exact isDigit_of_isBlank (List.all_eq_true.mp hb x (List.mem_cons_self ..))
  obtain ⟨htake, hdrop⟩ := takeWhile_append_of_boundary hd.2 hboundary
  have hempty : digits.isEmpty = false := by rw [hcons]; rfl
  rw [digitsBetweenBlanks?, hstart]
  simp only [htake, hdrop, hempty, Bool.false_eq_true, ↓reduceIte]
  rw [trimStart_append hb fun q hq => (hrest q hq).1]

/-- What was read as digits between blanks is so. -/
theorem eq_append_of_digitsBetweenBlanks? {cs digits rest : Text}
    (h : digitsBetweenBlanks? cs = some (digits, rest)) :
    IsDigits digits ∧ ∃ a b, allBlank a = true ∧ allBlank b = true ∧
      cs = a ++ (digits ++ (b ++ rest)) := by
  rw [digitsBetweenBlanks?] at h
  split_ifs at h with hempty
  obtain ⟨rfl, rfl⟩ := Prod.mk.inj (Option.some.inj h)
  obtain ⟨a, ha, hcs⟩ := exists_eq_append_trimStart cs
  obtain ⟨b, hb, hrest⟩ := exists_eq_append_trimStart ((trimStart cs).dropWhile isDigit)
  refine ⟨isDigits_takeWhile (by simpa using hempty), a, b, ha, hb, ?_⟩
  rw [← hrest, List.takeWhile_append_dropWhile, ← hcs]

/-! ### The reader of brackets -/

/-- Blanks before something that is no blank. -/
theorem trimStart_append_char {a : Text} (ha : allBlank a = true) {c : Char}
    (hc : isBlank (.char c) = false) (rest : Text) :
    trimStart (a ++ .char c :: rest) = .char c :: rest := by
  apply trimStart_append ha
  rintro p ⟨⟩
  exact hc

/-- Digits between blanks, up to a character that is neither. -/
theorem digitsBetweenBlanks?_append_char {a digits b : Text} (ha : allBlank a = true)
    (hd : IsDigits digits) (hb : allBlank b = true) {c : Char}
    (hc : isBlank (.char c) = false ∧ isDigit (.char c) = false) (rest : Text) :
    digitsBetweenBlanks? (a ++ (digits ++ (b ++ .char c :: rest))) =
      some (digits, .char c :: rest) := by
  apply digitsBetweenBlanks?_append ha hd hb
  rintro p ⟨⟩
  exact hc

theorem bracketed?_bit (register : Text) {a b n c : Text} (ha : allBlank a = true)
    (hb : allBlank b = true) (hn : IsDigits n) (hc : allBlank c = true) :
    bracketed? register (a ++ .char '[' :: (b ++ (n ++ (c ++ [.char ']'])))) =
      some (.registerBit register n) := by
  rw [bracketed?, trimStart_append_char ha (by decide)]
  simp only [digitsBetweenBlanks?_append_char hb hn hc (by decide : isBlank (.char ']') = false ∧ _)]

theorem bracketed?_slice (register : Text) {a b hi c d lo e : Text} (ha : allBlank a = true)
    (hb : allBlank b = true) (hhi : IsDigits hi) (hc : allBlank c = true) (hd : allBlank d = true)
    (hlo : IsDigits lo) (he : allBlank e = true) :
    bracketed? register
        (a ++ .char '[' :: (b ++ (hi ++ (c ++ .char ':' :: (d ++ (lo ++ (e ++ [.char ']']))))))) =
      some (.slice register hi lo) := by
  rw [bracketed?, trimStart_append_char ha (by decide)]
  simp only [digitsBetweenBlanks?_append_char hb hhi hc (by decide : isBlank (.char ':') = false ∧ _),
    digitsBetweenBlanks?_append_char hd hlo he (by decide : isBlank (.char ']') = false ∧ _)]

/-- What the reader of brackets accepts: a bit or a slice, in its parts. -/
theorem bracketed?_cases {register cs : Text} {s : Symbol} (h : bracketed? register cs = some s) :
    (∃ n a b c, s = .registerBit register n ∧ IsDigits n ∧
      (∀ blanks ∈ [a, b, c], allBlank blanks = true) ∧
      cs = a ++ .char '[' :: (b ++ (n ++ (c ++ [.char ']'])))) ∨
    ∃ hi lo a b c d e, s = .slice register hi lo ∧ IsDigits hi ∧ IsDigits lo ∧
      (∀ blanks ∈ [a, b, c, d, e], allBlank blanks = true) ∧
      cs = a ++ .char '[' ::
        (b ++ (hi ++ (c ++ .char ':' :: (d ++ (lo ++ (e ++ [.char ']'])))))) := by
  rw [bracketed?] at h
  split at h
  case h_2 => exact nomatch h
  case h_1 inner hstart =>
    obtain ⟨a, ha, hcs⟩ := exists_eq_append_trimStart cs
    rw [hstart] at hcs
    split at h
    · rename_i n hinner
      obtain ⟨hn, b, c, hb, hc, rfl⟩ := eq_append_of_digitsBetweenBlanks? hinner
      refine Or.inl ⟨n, a, b, c, (Option.some.inj h).symm, hn, ?_, hcs⟩
      simp [ha, hb, hc]
    · rename_i hi rest hinner
      obtain ⟨hhi, b, c, hb, hc, rfl⟩ := eq_append_of_digitsBetweenBlanks? hinner
      split at h
      · rename_i lo hrest
        obtain ⟨hlo, d, e, hd, he, rfl⟩ := eq_append_of_digitsBetweenBlanks? hrest
        refine Or.inr ⟨hi, lo, a, b, c, d, e, (Option.some.inj h).symm, hhi, hlo, ?_, hcs⟩
        simp [ha, hb, hc, hd, he]
      · exact nomatch h
    · exact nomatch h

/-! ### Registers with brackets -/

theorem length_of_registerName {name : Text} (h : registerNames.any (spells · name) = true) :
    name.length = 2 := by
  have hlengths : ∀ keyword ∈ registerNames, keyword.length = 2 := by decide
  obtain ⟨keyword, hmem, hspells⟩ := List.any_eq_true.mp h
  rw [length_of_spells hspells, hlengths keyword hmem]

/-- A cell that starts with a register's name is read from the brackets on. -/
theorem registerSymbol?_append {name : Text} (h : registerNames.any (spells · name) = true)
    (rest : Text) : registerSymbol? (name ++ rest) = bracketed? (lower name) rest := by
  have hlen := length_of_registerName h
  simp only [registerSymbol?, List.take_left' hlen, List.drop_left' hlen, h, ↓reduceIte]

/-- A cell that is read as a register starts with a register's name. -/
theorem exists_name_of_registerSymbol? {cell : Text} {s : Symbol}
    (h : registerSymbol? cell = some s) :
    ∃ name rest, registerNames.any (spells · name) = true ∧ cell = name ++ rest ∧
      bracketed? (lower name) rest = some s := by
  rw [registerSymbol?] at h
  split_ifs at h with hname
  exact ⟨cell.take 2, cell.drop 2, hname, (List.take_append_drop 2 cell).symm, h⟩

/-- A slice is read from the cells that are one, with the digits that they hold. -/
theorem registerSymbol?_eq_slice_iff {cell register hi lo : Text} :
    registerSymbol? cell = some (.slice register hi lo) ↔ IsSliceCell cell register hi lo := by
  constructor
  · intro h
    obtain ⟨name, rest, hname, rfl, hbracketed⟩ := exists_name_of_registerSymbol? h
    rcases bracketed?_cases hbracketed with ⟨n, a, b, c, hs, -⟩ | ⟨hi', lo', a, b, c, d, e, hs, hd⟩
    · cases hs
    · obtain ⟨rfl, rfl, rfl⟩ := Symbol.slice.inj hs
      obtain ⟨hhi, hlo, hblanks, rfl⟩ := hd
      refine ⟨name, a, b, c, d, e, hname, rfl, hhi, hlo, hblanks, ?_⟩
      simp [ofString, ofChars]
  · rintro ⟨name, a, b, c, d, e, hname, rfl, hhi, hlo, hblanks, rfl⟩
    simp only [List.forall_mem_cons] at hblanks
    obtain ⟨ha, hb, hc, hd, he, -⟩ := hblanks
    have hparts := bracketed?_slice (lower name) ha hb hhi hc hd hlo he
    rw [← registerSymbol?_append hname] at hparts
    simpa [ofString, ofChars] using hparts

/-- One bit is read from the cells that are one, with the digits that they hold. -/
theorem registerSymbol?_eq_bit_iff {cell register n : Text} :
    registerSymbol? cell = some (.registerBit register n) ↔ IsBitCell cell register n := by
  constructor
  · intro h
    obtain ⟨name, rest, hname, rfl, hbracketed⟩ := exists_name_of_registerSymbol? h
    rcases bracketed?_cases hbracketed with ⟨n', a, b, c, hs, hd⟩ | ⟨hi, lo, a, b, c, d, e, hs, -⟩
    · obtain ⟨rfl, rfl⟩ := Symbol.registerBit.inj hs
      obtain ⟨hn, hblanks, rfl⟩ := hd
      refine ⟨name, a, b, c, hname, rfl, hn, hblanks, ?_⟩
      simp [ofString, ofChars]
    · cases hs
  · rintro ⟨name, a, b, c, hname, rfl, hn, hblanks, rfl⟩
    simp only [List.forall_mem_cons] at hblanks
    obtain ⟨ha, hb, hc, -⟩ := hblanks
    have hparts := bracketed?_bit (lower name) ha hb hn hc
    rw [← registerSymbol?_append hname] at hparts
    simpa [ofString, ofChars] using hparts

/-- A register with brackets is a slice or a bit. -/
theorem slice_or_bit_of_registerSymbol? {cell : Text} {s : Symbol}
    (h : registerSymbol? cell = some s) :
    (∃ register hi lo, s = .slice register hi lo) ∨ ∃ register n, s = .registerBit register n := by
  obtain ⟨name, rest, -, rfl, hbracketed⟩ := exists_name_of_registerSymbol? h
  rcases bracketed?_cases hbracketed with ⟨n, a, b, c, rfl, -⟩ | ⟨hi, lo, a, b, c, d, e, rfl, -⟩
  · exact Or.inr ⟨_, _, rfl⟩
  · exact Or.inl ⟨_, _, _, rfl⟩

/-! ### What a cell denotes -/

/-- What a cell of a layout stands for. -/
inductive Denotes : Text → Content → Prop where
  /-- A blank cell is ignored. -/
  | blank : Denotes "" .ignored
  /-- So is a cross. -/
  | cross {cell : Text} (h : lower cell = "x") : Denotes cell .ignored
  /-- A fixed zero. -/
  | zero : Denotes "0" (.fixed 0)
  /-- A fixed one. -/
  | one : Denotes "1" (.fixed 1)
  /-- A slice of a register, with its digits as numbers. -/
  | slice {cell register hi lo : Text} {m n : Nat} (h : IsSliceCell cell register hi lo)
      (hhi : numeral? 10 digitValue? hi = some m) (hlo : numeral? 10 digitValue? lo = some n) :
      Denotes cell (.slice register m n)
  /-- One bit of a register, with its digits as a number. -/
  | registerBit {cell register digits : Text} {n : Nat} (h : IsBitCell cell register digits)
      (hn : numeral? 10 digitValue? digits = some n) : Denotes cell (.registerBit register n)
  /-- An immediate value, in a letter of either case. -/
  | immediate {cell : Text} {name : String} (hname : name ∈ ["Y", "P", "O"])
      (h : spells name cell = true) : Denotes cell (.immediate name)
  /-- The condition, in letters of either case. -/
  | condition {cell : Text} (h : spells "cond" cell = true ∨ spells "bcond" cell = true) :
      Denotes cell .condition
  /-- A cell of no other kind is ignored. -/
  | other {cell : Text} (hzero : cell ≠ "0") (hone : cell ≠ "1")
      (hslice : ∀ register hi lo, ¬ IsSliceCell cell register hi lo)
      (hbit : ∀ register digits, ¬ IsBitCell cell register digits)
      (himmediate : ∀ name ∈ ["Y", "P", "O"], spells name cell = false)
      (hcondition : spells "cond" cell = false ∧ spells "bcond" cell = false) :
      Denotes cell .ignored

/-- What a symbol fills its bits with, once its digits are read. -/
def Symbol.content? : Symbol → Option Content
  | .ignored => some .ignored
  | .fixed value => some (.fixed value)
  | .slice register hi lo =>
    (numeral? 10 digitValue? hi).bind fun (m : Nat) =>
      (numeral? 10 digitValue? lo).map fun (n : Nat) => .slice register m n
  | .registerBit register digits =>
    (numeral? 10 digitValue? digits).map fun (n : Nat) => .registerBit register n
  | .immediate name => some (.immediate name)
  | .condition => some .condition

/-- A cell that starts with another ASCII letter than `x` is none of the plain ones. -/
theorem symbol_cons {c : Char} (hc : c.toNat < 0x80 ∧ c.toLower ≠ 'x' ∧ c ≠ '0' ∧ c ≠ '1')
    (rest : Text) :
    symbol (.char c :: rest) =
      match registerSymbol? (.char c :: rest) with
      | some s => s
      | none =>
        if isImmediate (.char c :: rest) then .immediate (upper (.char c :: rest))
        else if isCondition (.char c :: rest) then .condition
        else .ignored := by
  obtain ⟨hascii, hx, h0, h1⟩ := hc
  -- Only for an ASCII letter is the first one in small letters that of the letter itself.
  have hblank : ¬ (CodePoint.char c :: rest = ofString "" ∨
      lower (.char c :: rest) = ofString "x") := by
    rintro (h | h)
    · exact nomatch h
    · have hhead := head?_lower_cons hascii rest
      rw [h] at hhead
      exact hx (CodePoint.char.inj (Option.some.inj hhead)).symm
  have hzero : CodePoint.char c :: rest ≠ ofString "0" := fun h =>
    h0 (CodePoint.char.inj (List.cons.inj h).1)
  have hone : CodePoint.char c :: rest ≠ ofString "1" := fun h =>
    h1 (CodePoint.char.inj (List.cons.inj h).1)
  unfold symbol
  exact (if_neg hblank).trans ((if_neg hzero).trans (if_neg hone))

/-- A register's name starts with an `r` of either case. -/
theorem exists_cons_of_registerName {name : Text}
    (h : registerNames.any (spells · name) = true) :
    ∃ c rest, name = .char c :: rest ∧ (c = 'r' ∨ c = 'R') := by
  have hheads : ∀ keyword ∈ registerNames,
      (ofString keyword).head?.map foldLetter = some (.char 'r') := by decide
  obtain ⟨keyword, hmem, hspells⟩ := List.any_eq_true.mp h
  exact exists_cons_of_spells 'r' 'R' (by decide) (hheads keyword hmem) hspells

/-- A register with brackets is read as such. -/
theorem symbol_of_registerSymbol? {cell : Text} {s : Symbol} (h : registerSymbol? cell = some s) :
    symbol cell = s := by
  obtain ⟨name, rest, hname, rfl, -⟩ := exists_name_of_registerSymbol? h
  obtain ⟨c, tail, rfl, hc⟩ := exists_cons_of_registerName hname
  rw [List.cons_append] at h ⊢
  rw [symbol_cons (by rcases hc with rfl | rfl <;> decide), h]

/-- The names of immediate values, each with a text that spells it. -/
def immediateSpellings : List (String × Text) :=
  [("Y", "Y"), ("Y", "y"), ("P", "P"), ("P", "p"), ("O", "O"), ("O", "o")]

/-- An immediate value has two spellings. -/
theorem mem_immediateSpellings {cell : Text} {name : String} (hname : name ∈ ["Y", "P", "O"])
    (h : spells name cell = true) : (name, cell) ∈ immediateSpellings := by
  simp only [List.mem_cons, List.not_mem_nil, or_false] at hname
  rcases hname with rfl | rfl | rfl
  · rcases eq_singleton_of_spells 'y' 'Y' (by decide) (by decide) (by decide) h with rfl | rfl <;>
      decide
  · rcases eq_singleton_of_spells 'p' 'P' (by decide) (by decide) (by decide) h with rfl | rfl <;>
      decide
  · rcases eq_singleton_of_spells 'o' 'O' (by decide) (by decide) (by decide) h with rfl | rfl <;>
      decide

/-- An immediate value has its name in capitals. -/
theorem upper_of_immediate {cell : Text} {name : String} (hname : name ∈ ["Y", "P", "O"])
    (h : spells name cell = true) : upper cell = name := by
  have hall : ∀ s ∈ immediateSpellings, upper s.2 = s.1 := by decide +kernel
  exact hall _ (mem_immediateSpellings hname h)

/-- A cell that denotes an immediate value is its name, in a letter of either case. -/
theorem upper_of_denotes {cell name : Text} (h : Denotes cell (.immediate name)) :
    upper cell = name := by
  cases h with
  | immediate hname hspells => exact upper_of_immediate hname hspells

/-- An immediate value is read under its name in capitals. -/
theorem symbol_of_immediate {cell : Text} {name : String} (hname : name ∈ ["Y", "P", "O"])
    (h : spells name cell = true) : symbol cell = .immediate name := by
  have hall : ∀ s ∈ immediateSpellings, symbol s.2 = .immediate s.1 := by decide +kernel
  exact hall _ (mem_immediateSpellings hname h)

/-- A condition is neither a register with brackets nor an immediate value. -/
theorem symbol_of_condition {cell : Text} (h : isCondition cell = true) :
    symbol cell = .condition := by
  have hspells : spells "cond" cell = true ∨ spells "bcond" cell = true := by
    simpa [isCondition] using h
  have hlength : 4 ≤ cell.length := by
    rcases hspells with h | h <;> rw [length_of_spells h] <;> decide
  obtain ⟨c, rest, rfl, hc⟩ : ∃ c rest, cell = .char c :: rest ∧
      (c = 'c' ∨ c = 'C' ∨ c = 'b' ∨ c = 'B') := by
    rcases hspells with h | h
    · obtain ⟨c, rest, rfl, hc⟩ := exists_cons_of_spells 'c' 'C' (by decide) (by decide) h
      exact ⟨c, rest, rfl, by rcases hc with rfl | rfl <;> simp⟩
    · obtain ⟨c, rest, rfl, hc⟩ := exists_cons_of_spells 'b' 'B' (by decide) (by decide) h
      exact ⟨c, rest, rfl, by rcases hc with rfl | rfl <;> simp⟩
  -- The first letter rules out a register, and the length an immediate value.
  have hregister : registerSymbol? (.char c :: rest) = none := by
    rw [Option.eq_none_iff_forall_not_mem]
    intro s hs
    obtain ⟨name, tail, hname, hcell, -⟩ := exists_name_of_registerSymbol? hs
    obtain ⟨c', rest', rfl, hc'⟩ := exists_cons_of_registerName hname
    obtain rfl : c = c' := CodePoint.char.inj (List.cons.inj hcell).1
    rcases hc' with rfl | rfl <;> simp at hc
  have himmediate : isImmediate (.char c :: rest) = false := by
    rw [isImmediate, List.any_eq_false]
    intro name hname hs
    have hlengths : ∀ name ∈ ["Y", "P", "O"], name.length = 1 := by decide
    have := length_of_spells hs
    rw [hlengths name hname] at this
    omega
  rw [symbol_cons (by rcases hc with rfl | rfl | rfl | rfl <;> decide), hregister]
  simp only [himmediate, h, Bool.false_eq_true, ↓reduceIte]

/-- A cell of no other kind is a plain one, or ignored. -/
theorem symbol_of_none {cell : Text} (hregister : registerSymbol? cell = none)
    (himmediate : isImmediate cell = false) (hcondition : isCondition cell = false) :
    symbol cell =
      if cell = "" ∨ lower cell = "x" then .ignored
      else if cell = "0" then .fixed 0
      else if cell = "1" then .fixed 1
      else .ignored := by
  rw [symbol, hregister]
  simp only [himmediate, hcondition, Bool.false_eq_true, ↓reduceIte]

/-- What a cell denotes is read from it. -/
theorem content?_symbol_of_denotes {cell : Text} {content : Content} (h : Denotes cell content) :
    (symbol cell).content? = some content := by
  cases h with
  | blank => decide
  | cross h => rw [symbol, if_pos (Or.inr h)]; rfl
  | zero => decide +kernel
  | one => decide +kernel
  | slice h hhi hlo =>
    rw [symbol_of_registerSymbol? (registerSymbol?_eq_slice_iff.mpr h), Symbol.content?, hhi, hlo]
    rfl
  | registerBit h hn =>
    rw [symbol_of_registerSymbol? (registerSymbol?_eq_bit_iff.mpr h), Symbol.content?, hn]
    rfl
  | immediate hname h => rw [symbol_of_immediate hname h]; rfl
  | condition h => rw [symbol_of_condition (by simpa [isCondition] using h)]; rfl
  | other hzero hone hslice hbit himmediate hcondition =>
    have hregister : registerSymbol? cell = none := by
      rw [Option.eq_none_iff_forall_not_mem]
      intro s hs
      rcases slice_or_bit_of_registerSymbol? hs with ⟨register, hi, lo, rfl⟩ | ⟨register, n, rfl⟩
      · exact hslice _ _ _ (registerSymbol?_eq_slice_iff.mp hs)
      · exact hbit _ _ (registerSymbol?_eq_bit_iff.mp hs)
    have hnotImmediate : isImmediate cell = false := by
      rw [isImmediate, List.any_eq_false]
      intro name hname
      rw [himmediate name hname]
      exact Bool.false_ne_true
    have hnotCondition : isCondition cell = false := by
      rw [isCondition, hcondition.1, hcondition.2]
      rfl
    rw [symbol_of_none hregister hnotImmediate hnotCondition, if_neg hzero, if_neg hone, ite_self]
    rfl

/-- What is read from a cell is what the cell denotes. -/
theorem denotes_of_content?_symbol {cell : Text} {content : Content}
    (h : (symbol cell).content? = some content) : Denotes cell content := by
  -- The kinds exclude each other, so their order may differ from the one in `symbol`.
  cases hregister : registerSymbol? cell with
  | some s =>
    rw [symbol_of_registerSymbol? hregister] at h
    rcases slice_or_bit_of_registerSymbol? hregister with ⟨r, hi, lo, rfl⟩ | ⟨r, n, rfl⟩
    · obtain ⟨m, hm, h⟩ := Option.bind_eq_some_iff.mp h
      obtain ⟨n, hn, rfl⟩ := Option.map_eq_some_iff.mp h
      exact .slice (registerSymbol?_eq_slice_iff.mp hregister) hm hn
    · obtain ⟨m, hm, rfl⟩ := Option.map_eq_some_iff.mp h
      exact .registerBit (registerSymbol?_eq_bit_iff.mp hregister) hm
  | none =>
    by_cases himmediate : isImmediate cell = true
    · obtain ⟨name, hname, hspells⟩ := List.any_eq_true.mp himmediate
      rw [symbol_of_immediate hname hspells] at h
      obtain rfl := Option.some.inj h
      exact .immediate hname hspells
    by_cases hcondition : isCondition cell = true
    · rw [symbol_of_condition hcondition] at h
      obtain rfl := Option.some.inj h
      exact .condition (by simpa [isCondition] using hcondition)
    rw [Bool.not_eq_true] at himmediate hcondition
    rw [symbol_of_none hregister himmediate hcondition] at h
    split_ifs at h with hplain hzero hone
    · obtain rfl := Option.some.inj h
      rcases hplain with rfl | hcross
      · exact .blank
      · exact .cross hcross
    · obtain rfl := Option.some.inj h
      rw [hzero]
      exact .zero
    · obtain rfl := Option.some.inj h
      rw [hone]
      exact .one
    · obtain rfl := Option.some.inj h
      refine .other hzero hone ?_ ?_ ?_ ?_
      · intro register hi lo hslice
        rw [registerSymbol?_eq_slice_iff.mpr hslice] at hregister
        exact nomatch hregister
      · intro register digits hbit
        rw [registerSymbol?_eq_bit_iff.mpr hbit] at hregister
        exact nomatch hregister
      · simpa [isImmediate] using himmediate
      · simpa [isCondition] using hcondition

/-- **The reading of a cell finds what the cell denotes, and nothing else.** -/
theorem denotes_iff_symbol {cell : Text} {content : Content} :
    Denotes cell content ↔ (symbol cell).content? = some content :=
  ⟨content?_symbol_of_denotes, denotes_of_content?_symbol⟩

end GridAsm.Layout
