import GridAsm.Operand.Token
import GridAsm.Proofs.Text

/-!
# Lists of operands

The operands of a text are its pieces between commas without the blanks around them, and a comma is
no blank.  So pieces that are joined by commas are read back but for their blanks
(`split_join_comma`), with one exception: a single blank piece is a blank text, and a blank text has
no operands (`map_trim_splitAt_eq_singleton_nil_iff`).

`Padded` is an operand as it may be written, with blanks on both sides, and carries what a list of
operands needs to be read back.
-/

namespace GridAsm

open Text

namespace Text

/-- Every separator makes one piece more. -/
theorem length_splitAt (sep : Char) (t : Text) :
    (splitAt sep t).length = t.count (.char sep) + 1 := by
  induction t with
  | nil => rfl
  | cons p rest ih =>
    obtain ⟨first, pieces, hpieces⟩ := exists_splitAt_eq_cons sep rest
    rw [hpieces] at ih
    rw [splitAt, hpieces]
    by_cases hp : p = .char sep
    · rw [if_pos hp, hp, List.count_cons_self, List.length_cons, ih]
    · rw [if_neg hp, List.count_cons_of_ne hp]
      exact ih

theorem join_splitAt {sep : Char} {separator : String} (hsep : ofString separator = [.char sep])
    (t : Text) : join separator (splitAt sep t) = t := by
  rw [splitAt_eq_splitOn, join, hsep]
  exact List.intercalate_splitOn _

/-- Only a blank text has no piece but a blank one. -/
theorem map_trim_splitAt_eq_singleton_nil_iff {t : Text} :
    (splitAt ',' t).map trim = [[]] ↔ trim t = [] := by
  constructor
  · intro h
    obtain ⟨piece, hpieces, hpiece⟩ := List.map_eq_singleton_iff.mp h
    have hjoin := @join_splitAt ',' "," rfl t
    rw [hpieces, join_singleton] at hjoin
    rw [← hjoin]
    exact hpiece
  · intro h
    have hcomma : .char ',' ∉ t := not_mem_of_allBlank (by decide) (trim_eq_nil_iff.mp h)
    rw [splitAt_of_not_mem hcomma, List.map_singleton, h]

end Text

namespace Token

theorem split_eq (text : Text) :
    split text = if trim text = [] then [] else (splitAt ',' text).map trim := by
  unfold split
  cases h : trim text with
  | nil => rfl
  | cons p rest =>
    rw [if_neg (List.cons_ne_nil p rest), ← map_trim_splitAt_trim (by decide) text, h]

theorem split_trim (text : Text) : split (trim text) = split text := by
  unfold split
  rw [trim_trim]

/-! ### Operands of a text -/

/-- Operands have no comma, no blanks at their ends, and nothing that the text does not have. -/
theorem trimmed_of_mem_split {text token : Text} (h : token ∈ split text) :
    Trimmed token ∧ ∀ p ∈ token, p ≠ .char ',' ∧ p ∈ text := by
  rw [split_eq] at h
  split_ifs at h
  · exact nomatch h
  · obtain ⟨piece, hpiece, rfl⟩ := List.mem_map.mp h
    exact ⟨trimmed_trim piece, fun p hp => mem_of_mem_splitAt hpiece (mem_of_mem_trim hp)⟩

/-- A text that is not blank does not have an empty operand only. -/
theorem split_ne_singleton_nil (text : Text) : split text ≠ [[]] := by
  intro h
  rw [split_eq] at h
  split_ifs at h with hblank
  exact hblank (map_trim_splitAt_eq_singleton_nil_iff.mp h)

/-- A text that is not blank has one operand more than commas. -/
theorem length_split {text : Text} (h : allBlank text = false) :
    (split text).length = text.count (.char ',') + 1 := by
  have hne : trim text ≠ [] := by
    intro hnil
    rw [trim_eq_nil_iff.mp hnil] at h
    exact Bool.noConfusion h
  rw [split_eq, if_neg hne, List.length_map, length_splitAt]

/-! ### Operands that are written -/

/-- Pieces that are joined by commas are read back without their blanks. -/
theorem split_join_comma {pieces : List Text} (hne : pieces ≠ []) (hblank : pieces.map trim ≠ [[]])
    (h : ∀ piece ∈ pieces, .char ',' ∉ piece) : split (join "," pieces) = pieces.map trim := by
  have hcut : splitAt ',' (join "," pieces) = pieces := splitAt_join rfl hne h
  have hsome : trim (join "," pieces) ≠ [] := by
    rw [Ne, ← map_trim_splitAt_eq_singleton_nil_iff, hcut]
    exact hblank
  rw [split_eq, if_neg hsome, hcut]

/-- An operand as it may be written: a token without commas, between blanks. -/
structure Padded where
  /-- The blanks before the token. -/
  before : Text
  /-- The token. -/
  token : Text
  /-- The blanks after the token. -/
  after : Text
  before_blank : allBlank before = true
  token_trimmed : Trimmed token
  comma_not_mem : .char ',' ∉ token
  after_blank : allBlank after = true

namespace Padded

/-- The token between its blanks. -/
def text (operand : Padded) : Text :=
  operand.before ++ (operand.token ++ operand.after)

theorem trim_text (operand : Padded) : trim operand.text = operand.token :=
  trim_append operand.before_blank operand.token_trimmed operand.after_blank

theorem comma_not_mem_text (operand : Padded) : .char ',' ∉ operand.text := by
  rw [text, List.mem_append, List.mem_append]
  rintro (hbefore | htoken | hafter)
  · exact not_mem_of_allBlank (by decide) operand.before_blank hbefore
  · exact operand.comma_not_mem htoken
  · exact not_mem_of_allBlank (by decide) operand.after_blank hafter

end Padded

/-- **Operands are read back from their list.**  Tokens that are joined by commas, with any blanks
before and after each comma and at both ends, are the operands of the text, unless there is only one
and it is empty.  The other way round, a text that is not blank has one operand more than commas,
and its operands have no comma and no blanks at their ends. -/
theorem split_reads_operands_back :
    (∀ operands : List Padded, operands ≠ [] → operands.map Padded.token ≠ [[]] →
      split (join "," (operands.map Padded.text)) = operands.map Padded.token) ∧
    ∀ text, allBlank text = false →
      (split text).length = text.count (.char ',') + 1 ∧
        ∀ token ∈ split text, .char ',' ∉ token ∧ Trimmed token := by
  constructor
  · intro operands hne hone
    have htokens : (operands.map Padded.text).map trim = operands.map Padded.token := by
      rw [List.map_map]
      exact List.map_congr_left fun operand _ => operand.trim_text
    rw [← htokens] at hone ⊢
    apply split_join_comma (by simpa using hne) hone
    rw [List.forall_mem_map]
    exact fun operand _ => operand.comma_not_mem_text
  · intro text htext
    refine ⟨length_split htext, fun token htoken => ?_⟩
    obtain ⟨htrimmed, hmem⟩ := trimmed_of_mem_split htoken
    exact ⟨fun hcomma => (hmem _ hcomma).1 rfl, htrimmed⟩

/-- A register, an empty operand and a register in brackets, between blanks of several kinds. -/
theorem split_reads_padded_operands_back :
    let operands : List Padded :=
      [⟨"\u3000", "r1", "\t", by decide, by decide, by decide, by decide⟩,
        ⟨"\n", "", "\u00a0", by decide, by decide, by decide, by decide⟩,
        ⟨"", "[ r2 ]", " ", by decide, by decide, by decide, by decide⟩]
    let text : Text := "\u3000r1\t,\n\u00a0,[ r2 ] "
    join "," (operands.map Padded.text) = text ∧ split text = ["r1", "", "[ r2 ]"].map ofString ∧
      (split text).length = text.count (.char ',') + 1 ∧
      ∀ token ∈ split text, .char ',' ∉ token ∧ Trimmed token := by
  intro operands text
  have hjoin : join "," (operands.map Padded.text) = text := by decide
  have htokens := split_reads_operands_back.1 operands (by decide) (by decide)
  rw [hjoin] at htokens
  exact ⟨hjoin, htokens, split_reads_operands_back.2 text (by decide)⟩

end Token

end GridAsm
