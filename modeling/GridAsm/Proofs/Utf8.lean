import GridAsm.Text.Utf8
import Mathlib.Data.List.Basic
import Mathlib.Tactic.SplitIfs

/-!
# UTF-8 reads what it writes

The decoder reads the bytes of a string as that string, and it refuses all other bytes
(`decodeUtf8_eq_ok_iff`).

A character of two bytes or more is a first byte and the bytes that complete it.  `Completes` says
which bytes these are, in terms of what the decoder knows after the first one: how many are owed, and
the bounds of the next.  The arithmetic of the code points is in two lemmas about one character: the
bytes of a character are such a first byte with its completion (`exists_start?_of_encodeChar`), and
every completion of a first byte gives a character with these bytes (`encodeChar_of_completes`).  That
the decoder follows completions, and nothing else, needs no arithmetic.
-/

namespace GridAsm.Text

/-! ### Bytes of a string -/

theorem toList_loop_eq (bytes : ByteArray) (i : Nat) (done : List UInt8) :
    ByteArray.toList.loop bytes i done = done.reverse ++ bytes.data.toList.drop i := by
  fun_induction ByteArray.toList.loop bytes i done with
  | case1 i done hi ih =>
    have hlength : i < bytes.data.toList.length := hi
    have hget : bytes.get! i = bytes.data.toList[i] := by
      show bytes.data[i]! = _
      rw [getElem!_pos bytes.data i hi, Array.getElem_toList]
    rw [ih, List.reverse_cons, List.append_assoc, hget, List.singleton_append,
      List.getElem_cons_drop]
  | case2 i done hi =>
    rw [List.drop_of_length_le (Nat.le_of_not_lt hi), List.append_nil]

/-- The bytes of a string are those of its characters, one after the other. -/
theorem encodeUtf8_eq (s : String) : encodeUtf8 s = s.toList.flatMap String.utf8EncodeChar := by
  have hbytes : s.toByteArray = s.toList.utf8Encode := String.utf8Encode_toList.symm
  unfold encodeUtf8 ByteArray.toList
  rw [toList_loop_eq, hbytes, List.utf8Encode, List.toList_data_toByteArray]
  rfl

/-! ### Characters of one byte and of more -/

theorem toNat_ofNat_of_valid {n : Nat} (h : n.isValidChar) : (Char.ofNat n).val.toNat = n := by
  unfold Char.ofNat
  rw [dif_pos h]
  rfl

theorem ofNat_eq_of_toNat {n : Nat} {b : UInt8} (h : n = b.toNat) : UInt8.ofNat n = b := by
  rw [h, UInt8.ofNat_toNat]

/-- The bytes that can follow those of a character of which some have been read. -/
def Partial.Completes (p : Partial) : List UInt8 → Prop
  | [] => False
  | next :: rest => p.low ≤ next.toNat ∧ next.toNat ≤ p.high ∧ rest.length = p.owed ∧
      ∀ b ∈ rest, 0x80 ≤ b.toNat ∧ b.toNat ≤ 0xBF

/-- The code point that a character has with the bytes that complete it. -/
def Partial.codeWith (p : Partial) (more : List UInt8) : Nat :=
  more.foldl (fun bits b => bits * 0x40 + (b.toNat - 0x80)) p.bits

theorem encodeChar_of_lt {b : UInt8} (hb : b.toNat < 0x80) :
    String.utf8EncodeChar (Char.ofNat b.toNat) = [b] := by
  have hvalid : b.toNat.isValidChar := .inl (by omega)
  unfold String.utf8EncodeChar
  simp only [toNat_ofNat_of_valid hvalid]
  rw [if_pos (by omega), ofNat_eq_of_toNat rfl]

theorem encodeChar_two {v : Nat} (hlow : 0x80 ≤ v) (hhigh : v < 0x800) :
    String.utf8EncodeChar (Char.ofNat v) =
      [UInt8.ofNat (v / 0x40 + 0xC0), UInt8.ofNat (v % 0x40 + 0x80)] := by
  have hlead : v / 64 % 0x20 = v / 0x40 := by omega
  unfold String.utf8EncodeChar
  simp only [toNat_ofNat_of_valid (.inl (by omega) : v.isValidChar), hlead]
  rw [if_neg (by omega), if_pos (by omega)]

theorem encodeChar_three {v : Nat} (hvalid : v.isValidChar) (hlow : 0x800 ≤ v)
    (hhigh : v < 0x10000) :
    String.utf8EncodeChar (Char.ofNat v) =
      [UInt8.ofNat (v / 0x1000 + 0xE0), UInt8.ofNat (v / 0x40 % 0x40 + 0x80),
        UInt8.ofNat (v % 0x40 + 0x80)] := by
  have hlead : v / 4096 % 0x10 = v / 0x1000 := by omega
  unfold String.utf8EncodeChar
  simp only [toNat_ofNat_of_valid hvalid, hlead]
  rw [if_neg (by omega), if_neg (by omega), if_pos (by omega)]

theorem encodeChar_four {v : Nat} (hlow : 0x10000 ≤ v) (hhigh : v < 0x110000) :
    String.utf8EncodeChar (Char.ofNat v) =
      [UInt8.ofNat (v / 0x40000 + 0xF0), UInt8.ofNat (v / 0x1000 % 0x40 + 0x80),
        UInt8.ofNat (v / 0x40 % 0x40 + 0x80), UInt8.ofNat (v % 0x40 + 0x80)] := by
  have hlead : v / 262144 % 0x08 = v / 0x40000 := by omega
  unfold String.utf8EncodeChar
  simp only [toNat_ofNat_of_valid (.inr ⟨by omega, hhigh⟩ : v.isValidChar), hlead]
  rw [if_neg (by omega), if_neg (by omega), if_neg (by omega)]

/-- What the decoder knows after a first byte: the bounds of the next one rule out overlong forms,
surrogates and what lies beyond the last code point. -/
theorem start?_cases {b : UInt8} {p : Partial} (h : Partial.start? b = some p) :
    (p.owed = 0 ∧ 0xC2 ≤ b.toNat ∧ b.toNat ≤ 0xDF ∧ p.bits = b.toNat - 0xC0 ∧
      p.low = 0x80 ∧ p.high = 0xBF) ∨
    (p.owed = 1 ∧ 0xE0 ≤ b.toNat ∧ b.toNat ≤ 0xEF ∧ p.bits = b.toNat - 0xE0 ∧
      p.low = (if b.toNat = 0xE0 then 0xA0 else 0x80) ∧
      p.high = (if b.toNat = 0xED then 0x9F else 0xBF)) ∨
    (p.owed = 2 ∧ 0xF0 ≤ b.toNat ∧ b.toNat ≤ 0xF4 ∧ p.bits = b.toNat - 0xF0 ∧
      p.low = (if b.toNat = 0xF0 then 0x90 else 0x80) ∧
      p.high = (if b.toNat = 0xF4 then 0x8F else 0xBF)) := by
  unfold Partial.start? at h
  dsimp only at h
  split_ifs at h <;> obtain rfl := Option.some.inj h <;> simp_all <;> omega

theorem exists_start? {b : UInt8} (hlow : 0xC2 ≤ b.toNat) (hhigh : b.toNat ≤ 0xF4) :
    ∃ p, Partial.start? b = some p := by
  unfold Partial.start?
  dsimp only
  split_ifs
  all_goals first | exact ⟨_, rfl⟩ | omega

theorem toNat_ofNat_of_lt {n : Nat} (h : n < 0x100) : (UInt8.ofNat n).toNat = n := by
  rw [UInt8.toNat_ofNat']
  omega

/-- A byte that holds six bits of a code point. -/
theorem isTail_ofNat (v : Nat) :
    0x80 ≤ (UInt8.ofNat (v % 0x40 + 0x80)).toNat ∧
      (UInt8.ofNat (v % 0x40 + 0x80)).toNat ≤ 0xBF ∧
      (UInt8.ofNat (v % 0x40 + 0x80)).toNat - 0x80 = v % 0x40 := by
  rw [toNat_ofNat_of_lt (by omega)]
  omega

theorem exists_completes_two {v : Nat} (hlow : 0x80 ≤ v) (hhigh : v < 0x800) :
    ∃ p, Partial.start? (UInt8.ofNat (v / 0x40 + 0xC0)) = some p ∧
      p.Completes [UInt8.ofNat (v % 0x40 + 0x80)] ∧
      p.codeWith [UInt8.ofNat (v % 0x40 + 0x80)] = v := by
  have hlead : (UInt8.ofNat (v / 0x40 + 0xC0)).toNat = v / 0x40 + 0xC0 :=
    toNat_ofNat_of_lt (by omega)
  obtain ⟨hx, hx', hxbits⟩ := isTail_ofNat v
  obtain ⟨p, hp⟩ := exists_start? (b := UInt8.ofNat (v / 0x40 + 0xC0)) (by omega) (by omega)
  rcases start?_cases hp with ⟨howed, -, -, hbits, hl, hh⟩ | ⟨-, hb, -⟩ | ⟨-, hb, -⟩
  · refine ⟨p, hp, ⟨by omega, by omega, howed.symm, by simp⟩, ?_⟩
    show p.bits * 0x40 + (_ - 0x80) = v
    omega
  · omega
  · omega

theorem exists_completes_three {v : Nat} (hvalid : v.isValidChar) (hlow : 0x800 ≤ v)
    (hhigh : v < 0x10000) :
    ∃ p, Partial.start? (UInt8.ofNat (v / 0x1000 + 0xE0)) = some p ∧
      p.Completes [UInt8.ofNat (v / 0x40 % 0x40 + 0x80), UInt8.ofNat (v % 0x40 + 0x80)] ∧
      p.codeWith [UInt8.ofNat (v / 0x40 % 0x40 + 0x80), UInt8.ofNat (v % 0x40 + 0x80)] = v := by
  have hrange : v < 0xD800 ∨ 0xDFFF < v ∧ v < 0x110000 := hvalid
  have hlead : (UInt8.ofNat (v / 0x1000 + 0xE0)).toNat = v / 0x1000 + 0xE0 :=
    toNat_ofNat_of_lt (by omega)
  obtain ⟨hx, hx', hxbits⟩ := isTail_ofNat (v / 0x40)
  obtain ⟨hy, hy', hybits⟩ := isTail_ofNat v
  obtain ⟨p, hp⟩ := exists_start? (b := UInt8.ofNat (v / 0x1000 + 0xE0)) (by omega) (by omega)
  rcases start?_cases hp with ⟨-, -, hb, -⟩ | ⟨howed, -, -, hbits, hl, hh⟩ | ⟨-, hb, -⟩
  · omega
  · -- Below `0x1000` a smaller second byte is overlong, and from `0xD000` on a greater one is that
    -- of a surrogate.
    have hlower : p.low ≤ (UInt8.ofNat (v / 0x40 % 0x40 + 0x80)).toNat := by
      rw [hl, hlead]
      split_ifs <;> omega
    have hupper : (UInt8.ofNat (v / 0x40 % 0x40 + 0x80)).toNat ≤ p.high := by
      rw [hh, hlead]
      split_ifs <;> omega
    refine ⟨p, hp, ⟨hlower, hupper, howed.symm, ?_⟩, ?_⟩
    · intro b hb
      obtain rfl := List.mem_singleton.mp hb
      exact ⟨hy, hy'⟩
    · show (p.bits * 0x40 + (_ - 0x80)) * 0x40 + (_ - 0x80) = v
      omega
  · omega

theorem exists_completes_four {v : Nat} (hlow : 0x10000 ≤ v) (hhigh : v < 0x110000) :
    ∃ p, Partial.start? (UInt8.ofNat (v / 0x40000 + 0xF0)) = some p ∧
      p.Completes [UInt8.ofNat (v / 0x1000 % 0x40 + 0x80), UInt8.ofNat (v / 0x40 % 0x40 + 0x80),
        UInt8.ofNat (v % 0x40 + 0x80)] ∧
      p.codeWith [UInt8.ofNat (v / 0x1000 % 0x40 + 0x80), UInt8.ofNat (v / 0x40 % 0x40 + 0x80),
        UInt8.ofNat (v % 0x40 + 0x80)] = v := by
  have hlead : (UInt8.ofNat (v / 0x40000 + 0xF0)).toNat = v / 0x40000 + 0xF0 :=
    toNat_ofNat_of_lt (by omega)
  obtain ⟨hx, hx', hxbits⟩ := isTail_ofNat (v / 0x1000)
  obtain ⟨hy, hy', hybits⟩ := isTail_ofNat (v / 0x40)
  obtain ⟨hz, hz', hzbits⟩ := isTail_ofNat v
  obtain ⟨p, hp⟩ := exists_start? (b := UInt8.ofNat (v / 0x40000 + 0xF0)) (by omega) (by omega)
  rcases start?_cases hp with ⟨-, -, hb, -⟩ | ⟨-, -, hb, -⟩ | ⟨howed, -, -, hbits, hl, hh⟩
  · omega
  · omega
  · -- Below `0x40000` a smaller second byte is overlong, and from `0x100000` on a greater one lies
    -- beyond the last code point.
    have hlower : p.low ≤ (UInt8.ofNat (v / 0x1000 % 0x40 + 0x80)).toNat := by
      rw [hl, hlead]
      split_ifs <;> omega
    have hupper : (UInt8.ofNat (v / 0x1000 % 0x40 + 0x80)).toNat ≤ p.high := by
      rw [hh, hlead]
      split_ifs <;> omega
    refine ⟨p, hp, ⟨hlower, hupper, howed.symm, ?_⟩, ?_⟩
    · intro b hb
      rcases List.mem_cons.mp hb with rfl | hb
      · exact ⟨hy, hy'⟩
      · obtain rfl := List.mem_singleton.mp hb
        exact ⟨hz, hz'⟩
    · show ((p.bits * 0x40 + (_ - 0x80)) * 0x40 + (_ - 0x80)) * 0x40 + (_ - 0x80) = v
      omega

/-- The bytes of a character beyond ASCII are a first byte and a completion of it. -/
theorem exists_start?_of_encodeChar {c : Char} (hc : 0x80 ≤ c.toNat) :
    ∃ b p more, String.utf8EncodeChar c = b :: more ∧ Partial.start? b = some p ∧
      p.Completes more ∧ p.codeWith more = c.toNat := by
  have hvalid : c.toNat.isValidChar := c.valid
  have hself : Char.ofNat c.toNat = c := Char.ofNat_toNat c
  have hlast : c.toNat < 0x110000 := by
    unfold Nat.isValidChar at hvalid
    omega
  by_cases htwo : c.toNat < 0x800
  · have hbytes := encodeChar_two hc htwo
    obtain ⟨p, hp, hmore, hcode⟩ := exists_completes_two hc htwo
    rw [hself] at hbytes
    exact ⟨_, p, _, hbytes, hp, hmore, hcode⟩
  by_cases hthree : c.toNat < 0x10000
  · have hbytes := encodeChar_three hvalid (by omega) hthree
    obtain ⟨p, hp, hmore, hcode⟩ := exists_completes_three hvalid (by omega) hthree
    rw [hself] at hbytes
    exact ⟨_, p, _, hbytes, hp, hmore, hcode⟩
  · have hbytes := encodeChar_four (by omega) hlast
    obtain ⟨p, hp, hmore, hcode⟩ := exists_completes_four (by omega) hlast
    rw [hself] at hbytes
    exact ⟨_, p, _, hbytes, hp, hmore, hcode⟩

/-- Every completion of a first byte gives a character with these bytes. -/
theorem encodeChar_of_completes {b : UInt8} {p : Partial} (hstart : Partial.start? b = some p)
    {more : List UInt8} (hmore : p.Completes more) :
    String.utf8EncodeChar (Char.ofNat (p.codeWith more)) = b :: more := by
  cases more with
  | nil => exact hmore.elim
  | cons x rest =>
    obtain ⟨hlow, hhigh, howed, hrest⟩ := hmore
    rcases start?_cases hstart with ⟨h0, hb, hb', hbits, hl, hh⟩ | ⟨h1, hb, hb', hbits, hl, hh⟩ |
      ⟨h2, hb, hb', hbits, hl, hh⟩
    · obtain rfl := List.length_eq_zero_iff.mp (howed.trans h0)
      have hcode : p.codeWith [x] = (b.toNat - 0xC0) * 0x40 + (x.toNat - 0x80) := by
        rw [← hbits]
        rfl
      rw [hcode, encodeChar_two (by omega) (by omega), ofNat_eq_of_toNat (b := b) (by omega),
        ofNat_eq_of_toNat (b := x) (by omega)]
    · obtain ⟨y, rfl⟩ := List.length_eq_one_iff.mp (howed.trans h1)
      have hy := hrest y (List.mem_singleton.mpr rfl)
      have hcode : p.codeWith [x, y] =
          ((b.toNat - 0xE0) * 0x40 + (x.toNat - 0x80)) * 0x40 + (y.toNat - 0x80) := by
        rw [← hbits]
        rfl
      have hx : 0x80 ≤ x.toNat ∧ x.toNat ≤ 0xBF ∧ (b.toNat = 0xE0 → 0xA0 ≤ x.toNat) ∧
          (b.toNat = 0xED → x.toNat ≤ 0x9F) := by
        rw [hl] at hlow
        rw [hh] at hhigh
        split_ifs at hlow hhigh <;> omega
      obtain ⟨hx, hx', hoverlong, hsurrogate⟩ := hx
      have hvalid : Nat.isValidChar
          (((b.toNat - 0xE0) * 0x40 + (x.toNat - 0x80)) * 0x40 + (y.toNat - 0x80)) := by
        unfold Nat.isValidChar
        omega
      rw [hcode, encodeChar_three hvalid (by omega) (by omega), ofNat_eq_of_toNat (b := b) (by omega),
        ofNat_eq_of_toNat (b := x) (by omega), ofNat_eq_of_toNat (b := y) (by omega)]
    · obtain ⟨y, z, rfl⟩ := List.length_eq_two.mp (howed.trans h2)
      have hy := hrest y (List.mem_cons_self ..)
      have hz := hrest z (List.mem_cons_of_mem _ (List.mem_singleton.mpr rfl))
      have hcode : p.codeWith [x, y, z] =
          (((b.toNat - 0xF0) * 0x40 + (x.toNat - 0x80)) * 0x40 + (y.toNat - 0x80)) * 0x40 +
            (z.toNat - 0x80) := by
        rw [← hbits]
        rfl
      have hx : 0x80 ≤ x.toNat ∧ x.toNat ≤ 0xBF ∧ (b.toNat = 0xF0 → 0x90 ≤ x.toNat) ∧
          (b.toNat = 0xF4 → x.toNat ≤ 0x8F) := by
        rw [hl] at hlow
        rw [hh] at hhigh
        split_ifs at hlow hhigh <;> omega
      obtain ⟨hx, hx', hoverlong, hlast⟩ := hx
      rw [hcode, encodeChar_four (by omega) (by omega), ofNat_eq_of_toNat (b := b) (by omega),
        ofNat_eq_of_toNat (b := x) (by omega), ofNat_eq_of_toNat (b := y) (by omega),
        ofNat_eq_of_toNat (b := z) (by omega)]

/-! ### The decoder -/

section

variable {done : List Char} {offset : Nat} {p : Partial} {bytes : List UInt8}

theorem step_of_lt {b : UInt8} (hb : b.toNat < 0x80) :
    Decoder.step ⟨done, offset, none⟩ b = .ok ⟨Char.ofNat b.toNat :: done, offset + 1, none⟩ := by
  unfold Decoder.step
  dsimp only
  rw [if_pos hb]

theorem step_of_start? {b : UInt8} (hp : Partial.start? b = some p) :
    Decoder.step ⟨done, offset, none⟩ b = .ok ⟨done, offset + 1, some p⟩ := by
  have hb : ¬ b.toNat < 0x80 := by
    rcases start?_cases hp with ⟨-, hb, -⟩ | ⟨-, hb, -⟩ | ⟨-, hb, -⟩ <;> omega
  unfold Decoder.step
  dsimp only
  rw [if_neg hb, hp]

theorem step_last {b : UInt8} (hlow : p.low ≤ b.toNat) (hhigh : b.toNat ≤ p.high)
    (howed : p.owed = 0) :
    Decoder.step ⟨done, offset, some p⟩ b =
      .ok ⟨Char.ofNat (p.codeWith [b]) :: done, offset + 1, none⟩ := by
  unfold Decoder.step
  dsimp only
  rw [if_pos ⟨hlow, hhigh⟩, howed]
  rfl

/-- A character of which one more byte has been read. -/
def Partial.next (p : Partial) (b : UInt8) (owed : Nat) : Partial :=
  ⟨p.lead, p.taken + 1, owed, 0x80, 0xBF, p.codeWith [b]⟩

theorem codeWith_cons (b : UInt8) (owed : Nat) (more : List UInt8) :
    p.codeWith (b :: more) = (p.next b owed).codeWith more := by
  simp only [Partial.codeWith, Partial.next, List.foldl_cons, List.foldl_nil]

theorem step_next {b : UInt8} {owed : Nat} (hlow : p.low ≤ b.toNat) (hhigh : b.toNat ≤ p.high)
    (howed : p.owed = owed + 1) :
    Decoder.step ⟨done, offset, some p⟩ b = .ok ⟨done, offset + 1, some (p.next b owed)⟩ := by
  unfold Decoder.step
  dsimp only
  rw [if_pos ⟨hlow, hhigh⟩, howed]
  rfl

/-- A completion of more than one byte is the next byte and a completion of what it leaves. -/
theorem completes_cons_iff {b : UInt8} {more : List UInt8} {owed : Nat} (howed : p.owed = owed + 1) :
    p.Completes (b :: more) ↔
      p.low ≤ b.toNat ∧ b.toNat ≤ p.high ∧ (p.next b owed).Completes more := by
  cases more with
  | nil =>
    constructor
    · rintro ⟨-, -, hlength, -⟩
      exact absurd (hlength.trans howed) (by simp)
    · rintro ⟨-, -, hnext⟩
      exact hnext.elim
  | cons x rest =>
    constructor
    · rintro ⟨hlow, hhigh, hlength, hall⟩
      obtain ⟨hx, hx'⟩ := hall x (List.mem_cons_self ..)
      refine ⟨hlow, hhigh, hx, hx', ?_, fun y hy => hall y (List.mem_cons_of_mem _ hy)⟩
      exact Nat.succ.inj (hlength.trans howed)
    · rintro ⟨hlow, hhigh, hx, hx', hlength, hall⟩
      refine ⟨hlow, hhigh, ?_, ?_⟩
      · rw [howed, List.length_cons, hlength]
        rfl
      · intro y hy
        rcases List.mem_cons.mp hy with rfl | hy
        · exact ⟨hx, hx'⟩
        · exact hall y hy

theorem foldlM_step_of_completes {more : List UInt8} (h : p.Completes more) :
    more.foldlM Decoder.step ⟨done, offset, some p⟩ =
      .ok ⟨Char.ofNat (p.codeWith more) :: done, offset + more.length, none⟩ := by
  induction more generalizing p offset with
  | nil => exact h.elim
  | cons b rest ih =>
    rw [List.foldlM_cons]
    cases howed : p.owed with
    | zero =>
      obtain ⟨hlow, hhigh, hlength, -⟩ := h
      obtain rfl := List.length_eq_zero_iff.mp (hlength.trans howed)
      rw [step_last hlow hhigh howed]
      rfl
    | succ owed =>
      obtain ⟨hlow, hhigh, hnext⟩ := (completes_cons_iff howed).mp h
      rw [step_next hlow hhigh howed]
      show rest.foldlM Decoder.step _ = _
      rw [ih hnext, codeWith_cons b owed, List.length_cons, Nat.add_assoc, Nat.add_comm 1]

theorem foldlM_step_encodeChar (c : Char) :
    (String.utf8EncodeChar c).foldlM Decoder.step ⟨done, offset, none⟩ =
      .ok ⟨c :: done, offset + (String.utf8EncodeChar c).length, none⟩ := by
  have hself : Char.ofNat c.toNat = c := Char.ofNat_toNat c
  by_cases hc : c.toNat < 0x80
  · have hbyte : (UInt8.ofNat c.toNat).toNat = c.toNat := toNat_ofNat_of_lt (by omega)
    have hlt : (UInt8.ofNat c.toNat).toNat < 0x80 := by omega
    have hbytes := encodeChar_of_lt hlt
    rw [hbyte, hself] at hbytes
    rw [hbytes, List.foldlM_cons, step_of_lt hlt, hbyte, hself]
    rfl
  · obtain ⟨b, p, more, hbytes, hp, hmore, hcode⟩ :=
      exists_start?_of_encodeChar (Nat.le_of_not_lt hc)
    rw [hbytes, List.foldlM_cons, step_of_start? hp]
    show more.foldlM Decoder.step _ = _
    rw [foldlM_step_of_completes hmore, hcode, hself, List.length_cons, Nat.add_assoc,
      Nat.add_comm 1]

theorem foldlM_step_flatMap (cs : List Char) :
    ∃ last, (cs.flatMap String.utf8EncodeChar).foldlM Decoder.step ⟨done, offset, none⟩ =
      .ok ⟨cs.reverse ++ done, last, none⟩ := by
  induction cs generalizing done offset with
  | nil => exact ⟨offset, rfl⟩
  | cons c rest ih =>
    rw [List.flatMap_cons, List.foldlM_append, foldlM_step_encodeChar, List.reverse_cons,
      List.append_assoc]
    exact ih

/-! ### Bytes that are read to their end -/

/-- Bytes that do not end in the middle of a character start with the rest of it. -/
theorem exists_completes_of_foldlM {d : Decoder} (hend : d.current = none)
    (h : bytes.foldlM Decoder.step ⟨done, offset, some p⟩ = .ok d) :
    ∃ more rest, bytes = more ++ rest ∧ p.Completes more ∧
      rest.foldlM Decoder.step ⟨Char.ofNat (p.codeWith more) :: done, offset + more.length, none⟩ =
        .ok d := by
  induction bytes generalizing p offset with
  | nil =>
    obtain rfl := Except.ok.inj h
    exact nomatch hend
  | cons b rest ih =>
    rw [List.foldlM_cons] at h
    by_cases hb : p.low ≤ b.toNat ∧ b.toNat ≤ p.high
    · cases howed : p.owed with
      | zero =>
        rw [step_last hb.1 hb.2 howed] at h
        exact ⟨[b], rest, rfl, ⟨hb.1, hb.2, howed.symm, by simp⟩, h⟩
      | succ owed =>
        rw [step_next hb.1 hb.2 howed] at h
        obtain ⟨more, rest', rfl, hmore, hrest⟩ := ih h
        refine ⟨b :: more, rest', rfl, (completes_cons_iff howed).mpr ⟨hb.1, hb.2, hmore⟩, ?_⟩
        rw [codeWith_cons b owed, List.length_cons, Nat.add_comm more.length, ← Nat.add_assoc]
        exact hrest
    · -- The step refuses the byte.
      unfold Decoder.step at h
      dsimp only at h
      rw [if_neg hb] at h
      exact nomatch h

theorem exists_chars_of_foldlM {d : Decoder} (hend : d.current = none)
    (h : bytes.foldlM Decoder.step ⟨done, offset, none⟩ = .ok d) :
    ∃ cs : List Char, bytes = cs.flatMap String.utf8EncodeChar ∧ d.done = cs.reverse ++ done := by
  -- A character takes several bytes, so the induction is on how many there are.
  induction hlength : bytes.length using Nat.strongRecOn generalizing bytes done offset with
  | ind n ih =>
    cases bytes with
    | nil =>
      obtain rfl := Except.ok.inj h
      exact ⟨[], rfl, rfl⟩
    | cons b rest =>
      rw [List.foldlM_cons] at h
      by_cases hb : b.toNat < 0x80
      · rw [step_of_lt hb] at h
        obtain ⟨cs, rfl, hdone⟩ := ih rest.length (by rw [← hlength]; exact Nat.lt_succ_self _) h rfl
        refine ⟨Char.ofNat b.toNat :: cs, ?_, ?_⟩
        · rw [List.flatMap_cons, encodeChar_of_lt hb]
          rfl
        · rw [hdone, List.reverse_cons, List.append_assoc]
          rfl
      · cases hp : Partial.start? b with
        | none =>
          unfold Decoder.step at h
          dsimp only at h
          rw [if_neg hb, hp] at h
          exact nomatch h
        | some p =>
          rw [step_of_start? hp] at h
          obtain ⟨more, rest', rfl, hmore, hrest⟩ := exists_completes_of_foldlM hend h
          have hlt : rest'.length < n := by
            rw [← hlength, List.length_cons, List.length_append]
            omega
          obtain ⟨cs, rfl, hdone⟩ := ih rest'.length hlt hrest rfl
          refine ⟨Char.ofNat (p.codeWith more) :: cs, ?_, ?_⟩
          · rw [List.flatMap_cons, encodeChar_of_completes hp hmore]
            rfl
          · rw [hdone, List.reverse_cons, List.append_assoc]
            rfl

end

theorem finish_eq_ok_iff {d : Decoder} {cs : List Char} :
    d.finish = .ok cs ↔ d.current = none ∧ cs = d.done.reverse := by
  unfold Decoder.finish
  cases d.current with
  | none => exact ⟨fun h => ⟨rfl, (Except.ok.inj h).symm⟩, fun h => h.2 ▸ rfl⟩
  | some p => exact ⟨fun h => (nomatch h), fun h => (nomatch h.1)⟩

/-- Bytes are read as a text exactly if they are those of a string, and then as that string. -/
theorem decodeUtf8_eq_ok_iff {bytes : List UInt8} {t : Text} :
    decodeUtf8 bytes = .ok t ↔ ∃ s : String, bytes = encodeUtf8 s ∧ t = ofString s := by
  have hdecode : decodeUtf8 bytes = .ok t ↔
      ∃ d cs, bytes.foldlM Decoder.step {} = .ok d ∧ d.finish = .ok cs ∧ t = ofChars cs := by
    unfold decodeUtf8
    cases bytes.foldlM Decoder.step {} with
    | error fault => exact ⟨fun h => (nomatch h), fun ⟨_, _, h, _⟩ => (nomatch h)⟩
    | ok d =>
      show (d.finish >>= fun cs => Except.ok (ofChars cs)) = .ok t ↔ _
      cases hfinish : d.finish with
      | error fault =>
        refine ⟨fun h => (nomatch h), ?_⟩
        rintro ⟨_, cs, hd, hcs, -⟩
        obtain rfl := Except.ok.inj hd
        exact nomatch hfinish.symm.trans hcs
      | ok cs =>
        refine ⟨fun h => ⟨d, cs, rfl, hfinish, (Except.ok.inj h).symm⟩, ?_⟩
        rintro ⟨_, cs', hd, hcs, rfl⟩
        obtain rfl := Except.ok.inj hd
        obtain rfl := Except.ok.inj (hfinish.symm.trans hcs)
        rfl
  rw [hdecode]
  constructor
  · rintro ⟨d, cs, hfold, hfinish, rfl⟩
    obtain ⟨hend, rfl⟩ := finish_eq_ok_iff.mp hfinish
    obtain ⟨cs, rfl, hdone⟩ := exists_chars_of_foldlM hend hfold
    refine ⟨String.ofList cs, ?_, ?_⟩
    · rw [encodeUtf8_eq, String.toList_ofList]
    · rw [hdone, List.append_nil, List.reverse_reverse, ofString, String.toList_ofList]
  · rintro ⟨s, rfl, rfl⟩
    obtain ⟨last, hfold⟩ := @foldlM_step_flatMap [] 0 s.toList
    rw [encodeUtf8_eq]
    refine ⟨_, s.toList, hfold, finish_eq_ok_iff.mpr ⟨rfl, ?_⟩, rfl⟩
    rw [List.append_nil, List.reverse_reverse]

theorem decodeUtf8_encodeUtf8 (s : String) : decodeUtf8 (encodeUtf8 s) = .ok (ofString s) :=
  decodeUtf8_eq_ok_iff.mpr ⟨s, rfl, rfl⟩

end GridAsm.Text
