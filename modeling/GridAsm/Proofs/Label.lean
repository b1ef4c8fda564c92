import GridAsm.SourceLine
import Mathlib.Data.List.Basic

/-!
# The label pass

`LabelTable.ofLines` gives a name the number of addresses that are taken before its first
definition (`find?_ofLines`), and it knows the names that are defined and no others
(`mem_names_ofLines`).

Both follow from what `addLines` does to a table that holds names already: a name that is there
keeps its address, and any other takes the one of its first definition (`find?_addLines`).
-/

namespace GridAsm

open Text

/-! ### Definitions and addresses in lists of lines -/

/-- Whether a line defines a name. -/
def defines (name text : Text) : Bool :=
  (SourceLine.parse text).labelName = some name

/-- Whether a line takes an address. -/
def takesAddress (text : Text) : Bool :=
  (SourceLine.parse text).hasCode

/-- The number of addresses that lines take. -/
def slots (texts : List Text) : Nat :=
  texts.countP takesAddress

@[simp] theorem slots_nil : slots [] = 0 := rfl

theorem slots_cons (text : Text) (rest : List Text) :
    slots (text :: rest) = (if takesAddress text then 1 else 0) + slots rest := by
  rw [slots, List.countP_cons, Nat.add_comm]
  rfl

theorem defines_iff {name text : Text} :
    defines name text = true ↔ (SourceLine.parse text).labelName = some name := by
  simp [defines]

theorem takesAddress_eq_false_iff {text : Text} :
    takesAddress text = false ↔ (SourceLine.parse text).code = [] := by
  unfold takesAddress SourceLine.hasCode
  rw [decide_eq_false_iff_not, not_not]
  rfl

namespace LabelTable

/-! ### One entry -/

/-- A name is among the names of a table if it has an address there. -/
theorem mem_names_iff (t : LabelTable) (name : Text) :
    name ∈ t.names ↔ (t.find? name).isSome := by
  obtain ⟨entries⟩ := t
  simp only [names, find?, List.mem_map]
  induction entries with
  | nil => simp
  | cons entry rest ih =>
    obtain ⟨n, a⟩ := entry
    by_cases h : name = n
    · subst h
      simp
    · have hne : (name == n) = false := by simpa using h
      simp only [List.mem_cons, List.lookup_cons, hne, ← ih]
      constructor
      · rintro ⟨e, rfl | he, rfl⟩
        · exact absurd rfl h
        · exact ⟨e, he, rfl⟩
      · rintro ⟨e, he, rfl⟩
        exact ⟨e, Or.inr he, rfl⟩

/-- A new entry is found under its name, unless the name is there already. -/
theorem find?_define (t : LabelTable) (name other : Text) (address : Int) :
    (t.define name address).find? other =
      (t.find? other).or (if name = other then some address else none) := by
  unfold define
  cases h : t.find? name with
  | some kept =>
    by_cases hn : name = other
    · subst hn
      simp [h]
    · simp [hn]
  | none =>
    simp only [find?, List.lookup_append]
    congr 1
    by_cases hn : name = other
    · simp [hn]
    · have hne : (other == name) = false := by simpa using Ne.symm hn
      simp [List.lookup_cons, hne, hn]

/-- What one line does to the address of a name. -/
theorem find?_addLine (t : LabelTable) (name text : Text) (address : Int) :
    (t.addLine address (SourceLine.parse text)).value.find? name =
      (t.find? name).or (if defines name text then some address else none) := by
  simp only [addLine, defines, decide_eq_true_eq]
  cases hl : (SourceLine.parse text).labelName with
  | none => simp
  | some other =>
    simp only [Option.some.injEq]
    cases hf : t.find? other with
    | none => exact find?_define t other name address
    | some kept =>
      by_cases hn : other = name
      · subst hn
        simp [hf]
      · simp [hn]

/-! ### All lines -/

/-- Lines from an address on: a name that is in the table keeps its address, and any other takes
the address of the first line that defines it. -/
theorem find?_addLines (t : LabelTable) (name : Text) (address : Int) (texts : List Text) :
    (t.addLines address (texts.map SourceLine.parse)).value.find? name =
      (t.find? name).or ((texts.findIdx? (defines name)).map fun i =>
        address + slots (texts.take i)) := by
  induction texts generalizing t address with
  | nil => simp [addLines]
  | cons text rest ih =>
    rw [List.map_cons, addLines, Logged.value_bind, ih, find?_addLine, Option.or_assoc,
      List.findIdx?_cons]
    congr 1
    by_cases hd : defines name text = true
    · simp [hd]
    · -- The counts of `rest` start one later, and with them the address if the line has code.
      simp only [hd, Bool.false_eq_true, ↓reduceIte, Option.none_or, Option.map_map]
      congr 1
      funext i
      rw [Function.comp_apply, List.take_succ_cons, slots_cons, takesAddress]
      by_cases hc : (SourceLine.parse text).hasCode = true
      · simp only [hc, ↓reduceIte]
        push_cast
        omega
      · simp only [hc, Bool.false_eq_true, ↓reduceIte]
        omega

/-- A name has the number of addresses before its first definition as its address. -/
theorem find?_ofLines (texts : List Text) (name : Text) :
    (ofLines texts).value.find? name =
      (texts.findIdx? (defines name)).map fun i => (slots (texts.take i) : Int) := by
  rw [ofLines, find?_addLines]
  simp [find?]

/-- The names of the labels are those that some line defines. -/
theorem mem_names_ofLines (texts : List Text) (name : Text) :
    name ∈ (ofLines texts).value.names ↔
      ∃ text ∈ texts, (SourceLine.parse text).labelName = some name := by
  rw [mem_names_iff, find?_ofLines, Option.isSome_map, List.findIdx?_isSome, List.any_eq_true]
  simp only [defines_iff]

/-- The address of a name whose first definition is the line at `i`. -/
theorem find?_ofLines_of_first {texts : List Text} {name text : Text} {i : Nat}
    (hi : texts[i]? = some text) (hd : defines name text = true)
    (hfirst : ∀ j < i, ∀ earlier, texts[j]? = some earlier → defines name earlier = false) :
    (ofLines texts).value.find? name = some (slots (texts.take i) : Int) := by
  obtain ⟨hlt, hget⟩ := List.getElem?_eq_some_iff.mp hi
  have hidx : texts.findIdx? (defines name) = some i := by
    rw [List.findIdx?_eq_some_iff_getElem]
    refine ⟨hlt, by rw [hget]; exact hd, fun j hj => ?_⟩
    rw [hfirst j hj _ (List.getElem?_eq_getElem (by omega))]
    simp
  rw [find?_ofLines, hidx, Option.map_some]

/-- A name that a line defines has the number of addresses before its first definition. -/
theorem find?_ofLines_of_mem {texts : List Text} {name text : Text} (htext : text ∈ texts)
    (hname : (SourceLine.parse text).labelName = some name) :
    (ofLines texts).value.find? name = some (slots (texts.takeWhile fun text =>
      (SourceLine.parse text).labelName ≠ some name) : Int) := by
  have hdefined : (texts.find? (defines name)).isSome = true := by
    rw [List.find?_isSome]
    exact ⟨text, htext, defines_iff.mpr hname⟩
  obtain ⟨first, hfirst⟩ := Option.isSome_iff_exists.mp hdefined
  obtain ⟨hdefines, before, after, rfl, hbefore⟩ := List.find?_eq_some_iff_append.mp hfirst
  have htake : (before ++ first :: after).takeWhile
      (fun text => (SourceLine.parse text).labelName ≠ some name) = before := by
    rw [List.takeWhile_append_of_pos, List.takeWhile_cons_of_neg, List.append_nil]
    · simpa [defines] using hdefines
    · intro earlier hearlier
      simpa [defines] using hbefore earlier hearlier
  have hget : (before ++ first :: after)[before.length]? = some first := by simp
  have haddress := find?_ofLines_of_first hget hdefines ?_
  · rw [htake, haddress, List.take_left]
  · intro j hj earlier hearlier
    rw [List.getElem?_append_left hj] at hearlier
    simpa using hbefore earlier (List.mem_of_getElem? hearlier)

end LabelTable

end GridAsm
