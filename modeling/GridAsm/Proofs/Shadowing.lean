import GridAsm.Proofs.Branch
import GridAsm.Proofs.Capitals
import GridAsm.Proofs.RuleTable
import Mathlib.Data.List.ReduceOption

/-!
# The first definition wins

A row of a grid defines the name in its first cell, in capitals (`Rule.name?`).  Two rows of one name
are no error: a table answers for the name with the rule of the first, and warns of every other one,
which it shadows.  So a table is what its rows say about the first places of names: `find?_rulesOfRows`
gives its rules, `idxOf_lt_of_distinctFrom` the order of its mnemonics and `repeatedFrom_eq` its
warnings.

Rows at the end of a grid can shadow nothing.  A line that has a rule keeps it, and with it the word
or the fault that it has, when a table grows (`getElem?_lines_of_append`).
-/

namespace GridAsm

open Text

/-! ### Names of rows -/

namespace Rule

/-- The mnemonic that a row defines: its first cell in capitals, unless that is blank. -/
def name? (row : List Json.Value) : Option Text :=
  match row with
  | [] => none
  | first :: _ => if first.cellText = [] then none else some (upper first.cellText)

/-- A row without a name has no rule. -/
theorem ofRow?_of_name?_eq_none {row : List Json.Value} (h : name? row = none) :
    ofRow? row = pure none := by
  cases row with
  | nil => rfl
  | cons first rest =>
    have hempty : first.cellText = [] := by simpa [name?] using h
    simp [ofRow?, hempty]

/-- The rule of a row has the row's name. -/
theorem mnemonic_of_ofRow? {row : List Json.Value} {rule? : Option Rule} {notices : List Notice}
    (h : (ofRow? row).Gives rule? notices) : rule?.map Rule.mnemonic = name? row := by
  cases hname : name? row with
  | none =>
    rw [ofRow?_of_name?_eq_none hname] at h
    obtain ⟨rfl, -⟩ := Attempt.gives_pure.mp h
    rfl
  | some name =>
    cases row with
    | nil => exact nomatch hname
    | cons first rest =>
      rw [name?] at hname
      split_ifs at hname with hempty
      simp only [ofRow?, List.isEmpty_iff, if_neg hempty] at h
      obtain ⟨rule, hgives, rfl⟩ := Attempt.gives_map.mp h
      rw [Option.map_some, (ofNamedRow_gives hgives).1, Option.some.inj hname]

end Rule

namespace RuleTable

variable {rows : List (List Json.Value)} {rules : List Rule} {notices : List Notice}

/-- The rules of rows have the names of the rows. -/
theorem map_mnemonic_of_rulesOfRows (h : (rulesOfRows rows).Gives rules notices) :
    rules.map Rule.mnemonic = (rows.map Rule.name?).reduceOption := by
  induction rows generalizing rules notices with
  | nil =>
    obtain ⟨rfl, -⟩ := rulesOfRows_nil_gives.mp h
    rfl
  | cons row rest ih =>
    obtain ⟨rule?, others, n₁, n₂, hrow, hrest, rfl, -⟩ := rulesOfRows_cons_gives.mp h
    have hname := Rule.mnemonic_of_ofRow? hrow
    cases rule? with
    | none => simpa [← hname] using ih hrest
    | some rule => simpa [← hname] using ih hrest

/-- The first rule of a name is that of the first row of the name. -/
theorem find?_rulesOfRows (h : (rulesOfRows rows).Gives rules notices) (name : Text) :
    Option.Rel (fun row rule => (Rule.ofRow? row).outcome = .ok (some rule))
      (rows.find? (Rule.name? · = some name)) (rules.find? (·.mnemonic = name)) := by
  induction rows generalizing rules notices with
  | nil =>
    obtain ⟨rfl, -⟩ := rulesOfRows_nil_gives.mp h
    exact .none
  | cons row rest ih =>
    obtain ⟨rule?, others, n₁, n₂, hrow, hrest, rfl, -⟩ := rulesOfRows_cons_gives.mp h
    have hname := Rule.mnemonic_of_ofRow? hrow
    by_cases hfirst : Rule.name? row = some name
    · -- The row is the first of the name, and so is its rule.
      obtain ⟨rule, rfl, hmnemonic⟩ := Option.map_eq_some_iff.mp (hname.trans hfirst)
      rw [List.find?_cons_of_pos (by simpa using hfirst), Option.toList_some, List.singleton_append,
        List.find?_cons_of_pos (by simpa using hmnemonic)]
      exact .some (Attempt.gives_iff.mp hrow).1
    · have hskip : rule?.toList.find? (·.mnemonic = name) = none := by
        rw [← hname] at hfirst
        cases rule? with
        | none => rfl
        | some rule => simpa using hfirst
      rw [List.find?_cons_of_neg (by simpa using hfirst), List.find?_append, hskip, Option.none_or]
      exact ih hrest

/-! ### First places of names -/

theorem distinctFrom_cons (seen : List Text) (name : Text) (rest : List Text) :
    distinctFrom seen (name :: rest) =
      if name ∈ seen then distinctFrom seen rest else name :: distinctFrom (name :: seen) rest := rfl

theorem repeatedFrom_cons (seen : List Text) (name : Text) (rest : List Text) :
    repeatedFrom seen (name :: rest) =
      if name ∈ seen then name :: repeatedFrom seen rest else repeatedFrom (name :: seen) rest := rfl

theorem mem_distinctFrom {seen names : List Text} {name : Text} :
    name ∈ distinctFrom seen names ↔ name ∈ names ∧ name ∉ seen := by
  induction names generalizing seen with
  | nil =>
    have hnil : distinctFrom seen [] = [] := rfl
    simp [hnil]
  | cons first rest ih =>
    rw [distinctFrom_cons]
    by_cases hfirst : first ∈ seen
    · rw [if_pos hfirst, ih, List.mem_cons]
      constructor
      · rintro ⟨hrest, hseen⟩
        exact ⟨.inr hrest, hseen⟩
      · rintro ⟨rfl | hrest, hseen⟩
        · exact absurd hfirst hseen
        · exact ⟨hrest, hseen⟩
    · rw [if_neg hfirst, List.mem_cons, ih, List.mem_cons, List.mem_cons]
      by_cases hname : name = first
      · simp [hname, hfirst]
      · simp [hname]

/-- The names of a table come in the order of their first rows. -/
theorem idxOf_lt_of_distinctFrom (seen : List Text) (names : List (Option Text)) :
    (distinctFrom seen names.reduceOption).Pairwise
      fun a b => names.idxOf (some a) < names.idxOf (some b) := by
  induction names generalizing seen with
  | nil => exact .nil
  | cons first rest ih =>
    -- What is not the first name has its place in the rest.
    have hshift : ∀ seen', (∀ name ∈ distinctFrom seen' rest.reduceOption, first ≠ some name) →
        (distinctFrom seen' rest.reduceOption).Pairwise
          fun a b => (first :: rest).idxOf (some a) < (first :: rest).idxOf (some b) := by
      intro seen' hne
      refine (ih seen').imp_of_mem fun {a b} ha hb hlt => ?_
      rw [List.idxOf_cons_ne _ (hne a ha), List.idxOf_cons_ne _ (hne b hb)]
      omega
    cases first with
    | none => exact hshift seen fun name _ => nofun
    | some name =>
      rw [List.reduceOption_cons_of_some, distinctFrom_cons]
      split_ifs with hseen
      · refine hshift seen fun other hother heq => ?_
        obtain rfl := Option.some.inj heq
        exact (mem_distinctFrom.mp hother).2 hseen
      · have hne : ∀ other ∈ distinctFrom (name :: seen) rest.reduceOption,
            some name ≠ some other := by
          intro other hother heq
          obtain rfl := Option.some.inj heq
          exact (mem_distinctFrom.mp hother).2 List.mem_cons_self
        refine List.pairwise_cons.mpr ⟨fun other hother => ?_, hshift _ hne⟩
        rw [List.idxOf_cons_self, List.idxOf_cons_ne _ (hne other hother)]
        omega

/-- Every name is at its first place or at a later one. -/
theorem length_repeatedFrom_add (seen names : List Text) :
    (repeatedFrom seen names).length + (distinctFrom seen names).length = names.length := by
  induction names generalizing seen with
  | nil => rfl
  | cons name rest ih =>
    rw [repeatedFrom_cons, distinctFrom_cons]
    split_ifs with hseen
    · have h := ih seen
      simp only [List.length_cons]
      omega
    · have h := ih (name :: seen)
      simp only [List.length_cons]
      omega

/-- A name at a place, if it stands at an earlier place too. -/
def repeated? (names : List (Option Text)) (x : Option Text × Nat) : Option Text :=
  x.1.filter fun name => some name ∈ names.take x.2

/-- The names that stand after an equal one, in order. -/
def shadowed (names : List (Option Text)) : List Text :=
  names.zipIdx.filterMap (repeated? names)

/-- The names that occurred before are found by looking back: `seen` has those of the part that is
done. -/
theorem repeatedFrom_eq (names done : List (Option Text)) (seen : List Text)
    (hseen : ∀ name, name ∈ seen ↔ some name ∈ done) :
    repeatedFrom seen names.reduceOption =
      (names.zipIdx done.length).filterMap (repeated? (done ++ names)) := by
  induction names generalizing done seen with
  | nil => rfl
  | cons first rest ih =>
    have hdone : (done ++ first :: rest).take done.length = done := List.take_left
    have hnext : (done ++ [first]) ++ rest = done ++ first :: rest := by simp
    have hlength : (done ++ [first]).length = done.length + 1 := by simp
    have hrest := ih (done ++ [first])
    rw [hnext, hlength] at hrest
    rw [List.zipIdx_cons]
    cases first with
    | none =>
      rw [List.reduceOption_cons_of_none, List.filterMap_cons_none rfl]
      exact hrest seen fun name => by simp [hseen]
    | some name =>
      rw [List.reduceOption_cons_of_some, repeatedFrom_cons]
      split_ifs with hname
      · have hback := hrest seen fun other => by
          by_cases hother : other = name
          · simp [hother, hname]
          · simp [hseen, hother]
        have hlook : repeated? (done ++ some name :: rest) (some name, done.length) = some name := by
          rw [repeated?, hdone]
          simp [(hseen name).mp hname]
        rw [List.filterMap_cons_some hlook, hback]
      · have hback := hrest (name :: seen) fun other => by
          simp [hseen, or_comm]
        have hnot : some name ∉ done := fun h => hname ((hseen name).mpr h)
        have hlook : repeated? (done ++ some name :: rest) (some name, done.length) = none := by
          rw [repeated?, hdone]
          simp [hnot]
        rw [List.filterMap_cons_none hlook, hback]

theorem repeatedFrom_nil (names : List (Option Text)) :
    repeatedFrom [] names.reduceOption = shadowed names :=
  repeatedFrom_eq names [] [] (by simp)

end RuleTable

/-! ### Warnings -/

/-- The warnings of shadowed rules. -/
def Notice.isDuplicate : Notice → Bool
  | .duplicateRule _ => true
  | _ => false

theorem Layout.Scans.filter_isDuplicate {cells : List Text} {fields : List Field}
    {ns : List Notice} (h : Scans cells fields ns) : ns.filter Notice.isDuplicate = [] := by
  induction h with
  | nil => rfl
  | @cons cell next f fields n ns step rest ih =>
    rw [List.filter_append, ih, List.append_nil, notices_of_fieldAt step]
    split
    · rw [clampNotices]
      split <;> rfl
    · rfl

/-- Rows are read without warnings of shadowed rules. -/
theorem Rule.filter_isDuplicate_of_ofRow? {row : List Json.Value} {rule? : Option Rule}
    {ns : List Notice} (h : (ofRow? row).Gives rule? ns) : ns.filter Notice.isDuplicate = [] := by
  cases rule? with
  | none =>
    have hname : name? row = none := (mnemonic_of_ofRow? h).symm
    rw [ofRow?_of_name?_eq_none hname] at h
    obtain ⟨-, rfl⟩ := Attempt.gives_pure.mp h
    rfl
  | some rule =>
    obtain ⟨first, rest, rfl, -, hnamed⟩ := ofRow?_gives_some h
    obtain ⟨-, -, -, ms, hfields, rfl⟩ := ofNamedRow_gives hnamed
    rw [List.filter_append, (Layout.scans_of_ofCells hfields).filter_isDuplicate, List.append_nil]
    split <;> rfl

namespace RuleTable

theorem filter_isDuplicate_of_rulesOfRows {rows : List (List Json.Value)} {rules : List Rule}
    {ns : List Notice} (h : (rulesOfRows rows).Gives rules ns) :
    ns.filter Notice.isDuplicate = [] := by
  induction rows generalizing rules ns with
  | nil =>
    obtain ⟨-, rfl⟩ := rulesOfRows_nil_gives.mp h
    rfl
  | cons row rest ih =>
    obtain ⟨rule?, others, n₁, n₂, hrow, hrest, -, rfl⟩ := rulesOfRows_cons_gives.mp h
    rw [List.filter_append, Rule.filter_isDuplicate_of_ofRow? hrow, ih hrest, List.append_nil]

/-! ### Tables -/

variable {t t' : RuleTable} {grid : List (List Json.Value)} {notices : List Notice}

theorem mem_mnemonics {name : Text} :
    name ∈ t.mnemonics ↔ ∃ rule ∈ t.rules, rule.mnemonic = name := by
  rw [mnemonics, mem_distinctFrom, List.mem_map]
  simp

/-- A table has a rule for the names among its mnemonics. -/
theorem find?_ne_none_iff {name : Text} : t.find? name ≠ none ↔ key name ∈ t.mnemonics := by
  rw [mem_mnemonics, find?, ← Option.isSome_iff_ne_none, List.find?_isSome]
  simp

/-- A table is empty if no row has a name. -/
theorem size_eq_zero_iff (h : (ofGrid grid).Gives t notices) :
    t.size = 0 ↔ ∀ row ∈ grid.drop 1, Rule.name? row = none := by
  obtain ⟨ns, hrules, -⟩ := ofGrid_gives.mp h
  have hnames := map_mnemonic_of_rulesOfRows hrules
  rw [size, List.length_eq_zero_iff, ← List.map_eq_nil_iff, hnames, List.eq_nil_iff_forall_not_mem]
  constructor
  · intro hnone row hrow
    rw [Option.eq_none_iff_forall_ne_some]
    intro name hname
    exact hnone name (List.reduceOption_mem_iff.mpr (hname ▸ List.mem_map_of_mem hrow))
  · intro hnone name hmem
    obtain ⟨row, hrow, hname⟩ := List.mem_map.mp (List.reduceOption_mem_iff.mp hmem)
    rw [hnone row hrow] at hname
    exact nomatch hname

/-- The rule of a name is that of the first row of the name, if there is one. -/
theorem find?_of_ofGrid (h : (ofGrid grid).Gives t notices) (name : Text) :
    (∀ row, (grid.drop 1).find? (Rule.name? · = some (key name)) = some row →
      ∃ rule, t.find? name = some rule ∧ (Rule.ofRow? row).outcome = .ok (some rule)) ∧
    ((grid.drop 1).find? (Rule.name? · = some (key name)) = none → t.find? name = none) := by
  obtain ⟨ns, hrules, -⟩ := ofGrid_gives.mp h
  have hfind : Option.Rel _ _ (t.find? name) := find?_rulesOfRows hrules (key name)
  generalize t.find? name = rule? at hfind ⊢
  constructor
  · intro row hrow
    rw [hrow] at hfind
    cases hfind with
    | some houtcome => exact ⟨_, rfl, houtcome⟩
  · intro hnone
    rw [hnone] at hfind
    cases hfind with
    | none => rfl

/-- The mnemonics of a grid are the names of its rows. -/
theorem mem_mnemonics_of_ofGrid (h : (ofGrid grid).Gives t notices) {name : Text} :
    name ∈ t.mnemonics ↔ some name ∈ (grid.drop 1).map Rule.name? := by
  obtain ⟨ns, hrules, -⟩ := ofGrid_gives.mp h
  rw [mnemonics, map_mnemonic_of_rulesOfRows hrules, mem_distinctFrom, List.reduceOption_mem_iff]
  simp

/-- The warnings of a grid are those of its shadowed rows. -/
theorem filter_isDuplicate_of_ofGrid (h : (ofGrid grid).Gives t notices) :
    notices.filter Notice.isDuplicate =
      (shadowed ((grid.drop 1).map Rule.name?)).map .duplicateRule := by
  obtain ⟨ns, hrules, rfl⟩ := ofGrid_gives.mp h
  have hnames := map_mnemonic_of_rulesOfRows hrules
  have hall : t.duplicateNotices.filter Notice.isDuplicate = t.duplicateNotices := by
    rw [List.filter_eq_self, duplicateNotices]
    intro n hn
    obtain ⟨name, -, rfl⟩ := List.mem_map.mp hn
    rfl
  rw [List.filter_append, filter_isDuplicate_of_rulesOfRows hrules, List.nil_append,
    List.filter_cons_of_neg (by simp [Notice.isDuplicate]), hall, duplicateNotices, hnames,
    repeatedFrom_nil]

/-- Every rule of a grid has its mnemonic or a warning. -/
theorem length_filter_isDuplicate_add (h : (ofGrid grid).Gives t notices) :
    (notices.filter Notice.isDuplicate).length + t.mnemonics.length = t.size := by
  obtain ⟨ns, hrules, -⟩ := ofGrid_gives.mp h
  have hnames := map_mnemonic_of_rulesOfRows hrules
  have hcount := length_repeatedFrom_add [] (t.rules.map Rule.mnemonic)
  rw [hnames, repeatedFrom_nil, ← hnames, List.length_map] at hcount
  rw [filter_isDuplicate_of_ofGrid h, List.length_map]
  exact hcount

/-! ### Tables that grow -/

/-- The rules of a grid come first in the table of the grid with more rows. -/
theorem exists_rules_of_append {more : List (List Json.Value)} {notices' : List Notice}
    (h : (ofGrid grid).Gives t notices) (h' : (ofGrid (grid ++ more)).Gives t' notices') :
    ∃ extra, t'.rules = t.rules ++ extra := by
  obtain ⟨ns, hrules, -⟩ := ofGrid_gives.mp h
  obtain ⟨ns', hrules', -⟩ := ofGrid_gives.mp h'
  rw [List.drop_append, rulesOfRows_append] at hrules'
  obtain ⟨rules, n₁, n₂, hfirst, hrules', -⟩ := Attempt.gives_bind.mp hrules'
  obtain ⟨extra, n₃, n₄, -, hrules', -⟩ := Attempt.gives_bind.mp hrules'
  obtain ⟨hsum, -⟩ := Attempt.gives_pure.mp hrules'
  obtain rfl : rules = t.rules :=
    Except.ok.inj ((Attempt.gives_iff.mp hfirst).1.symm.trans (Attempt.gives_iff.mp hrules).1)
  exact ⟨extra, hsum⟩

theorem find?_of_append {extra : List Rule} (hrules : t'.rules = t.rules ++ extra) {name : Text}
    {rule : Rule} (hrule : t.find? name = some rule) : t'.find? name = some rule := by
  rw [find?] at hrule
  rw [find?, hrules, List.find?_append, hrule, Option.some_or]

/-- A code that has a rule has the same word, or the same fault, when the table grows. -/
theorem wordOf_of_append {extra : List Rule} (hrules : t'.rules = t.rules ++ extra) {code : Text}
    (hcode : t.find? (codeParts code).1 ≠ none) (pc : Int) (labels : LabelTable) :
    t'.wordOf code pc labels = t.wordOf code pc labels := by
  obtain ⟨rule, hrule⟩ := Option.ne_none_iff_exists'.mp hcode
  simp only [wordOf, hrule, find?_of_append hrules hrule]

theorem isBlank_of_mem_mnemonic {code : Text} {p : CodePoint} (h : p ∈ (codeParts code).1) :
    isBlank p = false := by
  have hword : ∀ p ∈ (firstWord (trim code)).1, isBlank p = false := by
    intro p hp
    simpa using List.mem_takeWhile_imp hp
  exact isBlank_of_mem_upper hword h

/-- The mnemonic of a code is in the form in which mnemonics are compared. -/
theorem key_codeParts (code : Text) : key (codeParts code).1 = (codeParts code).1 := by
  have htrim : trim (codeParts code).1 = (codeParts code).1 :=
    trim_eq_self fun p hp => isBlank_of_mem_mnemonic hp
  rw [key, htrim]
  exact upper_upper _

/-- A line that has a rule does not change when the table grows. -/
theorem getElem?_lines_of_append {extra : List Rule} (hrules : t'.rules = t.rules ++ extra)
    {source filename : Text} {i : Nat} {line : Line}
    (hline : (t.assemble source filename).value.lines[i]? = some line) :
    key line.mnemonic = line.mnemonic ∧
      (t.find? line.mnemonic ≠ none →
        (t'.assemble source filename).value.lines[i]? = some line) := by
  rw [lines_assemble, labels_assemble, getElem?_value_linesFrom] at hline
  obtain ⟨text, htext, rfl⟩ := Option.map_eq_some_iff.mp hline
  rw [mnemonic_value_lineOf, lines_assemble, labels_assemble, getElem?_value_linesFrom, htext,
    Option.map_some]
  cases htakes : takesAddress text with
  | false =>
    refine ⟨rfl, fun _ => ?_⟩
    rw [value_lineOf_of_not_takesAddress _ _ _ htakes, value_lineOf_of_not_takesAddress _ _ _ htakes]
  | true =>
    refine ⟨key_codeParts _, fun hname => ?_⟩
    rw [value_lineOf_of_takesAddress _ _ _ htakes, value_lineOf_of_takesAddress _ _ _ htakes,
      value_resultOf, value_resultOf, wordOf_of_append hrules hname]

/-- **The first definition wins.**  Under a name, in letters of any case and among blanks, a table
has the rule of the first row after the header that defines it, and none if no row does.  The
mnemonics are the defined names, each once and in the order of the first rows.  There is a warning
for every row that an earlier one shadows, in order, and none besides, so that warnings and mnemonics
are as many as rules.

More rows that can be read give a table again.  It leaves every line of a program as it is that has
a mnemonic of the table before. -/
theorem first_definition_wins (h : (ofGrid grid).Gives t notices) :
    let rows := grid.drop 1
    let names := rows.map Rule.name?
    (∀ name,
      (∀ row, rows.find? (Rule.name? · = some (upper (trim name))) = some row →
        ∃ rule, t.find? name = some rule ∧ (Rule.ofRow? row).outcome = .ok (some rule)) ∧
      (rows.find? (Rule.name? · = some (upper (trim name))) = none → t.find? name = none)) ∧
    (t.mnemonics.Nodup ∧ (∀ name, name ∈ t.mnemonics ↔ some name ∈ names) ∧
      t.mnemonics.Pairwise fun a b => names.idxOf (some a) < names.idxOf (some b)) ∧
    (notices.filter Notice.isDuplicate = (shadowed names).map .duplicateRule ∧
      (notices.filter Notice.isDuplicate).length + t.mnemonics.length = t.size) ∧
    ∀ more,
      ((∀ row ∈ more, (Rule.ofRow? row).Succeeds) → (ofGrid (grid ++ more)).Succeeds) ∧
      ∀ t' notices', (ofGrid (grid ++ more)).Gives t' notices' →
        ∀ source filename (i : Nat) (line : Line),
        (t.assemble source filename).value.lines[i]? = some line →
        (line.mnemonic ∈ t.mnemonics ↔ t.find? line.mnemonic ≠ none) ∧
        (line.mnemonic ∈ t.mnemonics →
          (t'.assemble source filename).value.lines[i]? = some line) := by
  intro rows names
  obtain ⟨ns, hrules, -⟩ := ofGrid_gives.mp h
  have horder : t.mnemonics.Pairwise fun a b => names.idxOf (some a) < names.idxOf (some b) := by
    rw [mnemonics, map_mnemonic_of_rulesOfRows hrules]
    exact idxOf_lt_of_distinctFrom [] names
  have hnodup : t.mnemonics.Nodup := horder.imp fun hlt heq => absurd (heq ▸ hlt) (Nat.lt_irrefl _)
  refine ⟨find?_of_ofGrid h, ⟨hnodup, fun name => mem_mnemonics_of_ofGrid h, horder⟩,
    ⟨filter_isDuplicate_of_ofGrid h, length_filter_isDuplicate_add h⟩,
    fun more => ⟨fun hmore => ?_, fun t' notices' h' source filename i line hline => ?_⟩⟩
  · refine succeeds_ofGrid_iff.mpr fun row hrow => ?_
    rw [List.drop_append] at hrow
    rcases List.mem_append.mp hrow with hold | hnew
    · exact succeeds_ofGrid_iff.mp ⟨t, notices, h⟩ row hold
    · exact hmore row (List.mem_of_mem_drop hnew)
  · obtain ⟨extra, hextra⟩ := exists_rules_of_append h h'
    obtain ⟨hkey, hkept⟩ := getElem?_lines_of_append hextra hline
    have hmem : line.mnemonic ∈ t.mnemonics ↔ t.find? line.mnemonic ≠ none := by
      rw [find?_ne_none_iff, hkey]
    exact ⟨hmem, fun hin => hkept (hmem.mp hin)⟩

/-- Two rows of one name, the first of them in small letters, around a row without a name.  Another
row for `JMP` changes neither the line of a jump nor that with an operand too few. -/
theorem first_definition_wins_over_later_rows :
    let layout : List Field := (List.range 16).map fun i => ⟨15 - i, 1, .ignored⟩
    let add : Rule := ⟨"ADD", "rd, rs", .twoRegisters, layout⟩
    let jmp : Rule := ⟨"JMP", "P", .absolute, layout⟩
    let t : RuleTable := ⟨[add, ⟨"ADD", "P", .absolute, layout⟩, jmp]⟩
    let grid : List (List Json.Value) := [[.text "Name"], [.text "add", .text "rd, rs"],
      [.null, .text "P"], [.text " ADD", .text "P"], [.text "jmp", .text "P"]]
    let more : List (List Json.Value) := [[.text "Jmp", .text "rd, rs"]]
    let lines (t : RuleTable) := (t.assemble "jmp 3\n\tadd r1 ; one operand" "<input>").value.lines
    (ofGrid grid).Gives t [.rulesRead 3, .duplicateRule "ADD"] ∧
    t.find? " aDd" = some add ∧ t.find? "sub" = none ∧ t.mnemonics.Nodup ∧
    1 + t.mnemonics.length = t.size ∧
    ∃ t' notices, (ofGrid (grid ++ more)).Gives t' notices ∧
      (lines t')[0]? = (lines t)[0]? ∧ (lines t')[1]? = (lines t)[1]? := by
  intro layout add jmp t grid more lines
  have h : (ofGrid grid).Gives t [.rulesRead 3, .duplicateRule "ADD"] := by decide +kernel
  have hadd : (Rule.ofRow? [.text "add", .text "rd, rs"]).outcome.toOption = some (some add) := by
    decide +kernel
  obtain ⟨hfind, ⟨hnodup, -⟩, ⟨-, hcount⟩, hmore⟩ := first_definition_wins h
  obtain ⟨rule, hrule, houtcome⟩ := (hfind " aDd").1 [.text "add", .text "rd, rs"]
    (List.find?_cons_of_pos (by decide +kernel))
  obtain rfl : add = rule := by simpa [houtcome, Except.toOption] using hadd.symm
  have hsub : t.find? "sub" = none :=
    (hfind "sub").2 (Option.isNone_iff_eq_none.mp (by decide +kernel))
  obtain ⟨t', notices, h'⟩ := (hmore more).1 <| by
    intro row hrow
    obtain rfl := List.mem_singleton.mp hrow
    exact ⟨some ⟨"JMP", "rd, rs", .twoRegisters, layout⟩, [], by decide +kernel⟩
  have hkept : ∀ (i : Nat) name, (lines t)[i]?.map Line.mnemonic = some name → name ∈ t.mnemonics →
      (lines t')[i]? = (lines t)[i]? := by
    intro i name hname hmem
    obtain ⟨line, hline, rfl⟩ := Option.map_eq_some_iff.mp hname
    rw [hline]
    exact ((hmore more).2 _ _ h' _ _ i line hline).2 hmem
  exact ⟨h, hrule, hsub, hnodup, hcount, t', notices, h',
    hkept 0 "JMP" (by decide +kernel) (by decide +kernel),
    hkept 1 "ADD" (by decide +kernel) (by decide +kernel)⟩

end RuleTable

end GridAsm
