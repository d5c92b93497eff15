import MiGate.Go.Bytes

namespace MiGate.Go

/-! The bytes of a text are read as that text. -/

variable {first second third fourth : UInt8} {rest : List UInt8}

theorem toNat_byte {code : Nat} (small : code < 256) : (UInt8.ofNat code).toNat = code := by
  rw [UInt8.toNat_ofNat', Nat.mod_eq_of_lt small]

theorem isTail_iff {byte : UInt8} : isTail byte = true ↔ 128 ≤ byte.toNat ∧ byte.toNat ≤ 191 := by
  rw [isTail, Bool.and_eq_true, decide_eq_true_eq, decide_eq_true_eq, UInt8.le_iff_toNat_le, UInt8.le_iff_toNat_le]
  exact Iff.rfl

/-- A byte that goes on with a character, and the bits it carries. -/
theorem tail_byte (code : Nat) :
    isTail (UInt8.ofNat (code % 64 + 128)) = true ∧ tailBits (UInt8.ofNat (code % 64 + 128)) = code % 64 := by
  have small : code % 64 + 128 < 256 := by omega
  rw [isTail_iff, tailBits, toNat_byte small]
  omega

theorem decodeRunes_one (ascii : first.toNat < 128) :
    decodeRunes (first :: rest) = Char.ofNat first.toNat :: decodeRunes rest := by
  rw [decodeRunes.eq_def]
  dsimp only
  rw [if_pos]
  exact UInt8.lt_iff_toNat_lt.mpr ascii

theorem decodeRunes_two (low : 0xC2 ≤ first.toNat) (high : first.toNat ≤ 0xDF) (tail : isTail second = true) :
    decodeRunes (first :: second :: rest) =
      Char.ofNat (first.toNat % 32 * 64 + tailBits second) :: decodeRunes rest := by
  have lead : ¬first < 0x80 := by
    rw [UInt8.lt_iff_toNat_lt]
    exact Nat.not_lt_of_le (Nat.le_trans (by decide) low)
  have within : 0xC2 ≤ first ∧ first ≤ 0xDF := ⟨UInt8.le_iff_toNat_le.mpr low, UInt8.le_iff_toNat_le.mpr high⟩
  rw [decodeRunes.eq_def]
  dsimp only
  rw [if_neg lead]
  simp only [within, tail, decide_true, Bool.and_true, if_true]

theorem decodeRunes_three {triple : Nat}
    (value : (first.toNat % 16 * 64 + tailBits second) * 64 + tailBits third = triple)
    (low : 0xE0 ≤ first.toNat) (high : first.toNat ≤ 0xEF) (tail : isTail second = true) (tail' : isTail third = true)
    (long : 0x800 ≤ triple) (proper : ¬(0xD800 ≤ triple ∧ triple ≤ 0xDFFF)) :
    decodeRunes (first :: second :: third :: rest) = Char.ofNat triple :: decodeRunes rest := by
  have lead : ¬first < 0x80 := by
    rw [UInt8.lt_iff_toNat_lt]
    exact Nat.not_lt_of_le (Nat.le_trans (by decide) low)
  have notTwo : ¬first ≤ 0xDF := by
    rw [UInt8.le_iff_toNat_le]
    exact Nat.not_le_of_lt (Nat.lt_of_lt_of_le (by decide) low)
  have within : 0xE0 ≤ first ∧ first ≤ 0xEF := ⟨UInt8.le_iff_toNat_le.mpr low, UInt8.le_iff_toNat_le.mpr high⟩
  have surrogate : (decide (0xD800 ≤ triple) && decide (triple ≤ 0xDFFF)) = false := by
    rw [← Bool.decide_and]
    exact decide_eq_false proper
  rw [decodeRunes.eq_def]
  dsimp only
  rw [if_neg lead]
  simp only [notTwo, within, tail, tail', value, long, surrogate, decide_true, decide_false, Bool.and_true,
    Bool.and_false, Bool.not_false, if_true, Bool.false_eq_true, if_false]

theorem decodeRunes_four {quad : Nat}
    (value : ((first.toNat % 8 * 64 + tailBits second) * 64 + tailBits third) * 64 + tailBits fourth = quad)
    (low : 0xF0 ≤ first.toNat) (high : first.toNat ≤ 0xF4) (tail : isTail second = true) (tail' : isTail third = true)
    (tail'' : isTail fourth = true) (long : 0x10000 ≤ quad) (proper : quad ≤ 0x10FFFF) :
    decodeRunes (first :: second :: third :: fourth :: rest) = Char.ofNat quad :: decodeRunes rest := by
  have lead : ¬first < 0x80 := by
    rw [UInt8.lt_iff_toNat_lt]
    exact Nat.not_lt_of_le (Nat.le_trans (by decide) low)
  have notTwo : ¬first ≤ 0xDF := by
    rw [UInt8.le_iff_toNat_le]
    exact Nat.not_le_of_lt (Nat.lt_of_lt_of_le (by decide) low)
  have notThree : ¬first ≤ 0xEF := by
    rw [UInt8.le_iff_toNat_le]
    exact Nat.not_le_of_lt (Nat.lt_of_lt_of_le (by decide) low)
  have within : 0xF0 ≤ first ∧ first ≤ 0xF4 := ⟨UInt8.le_iff_toNat_le.mpr low, UInt8.le_iff_toNat_le.mpr high⟩
  rw [decodeRunes.eq_def]
  dsimp only
  rw [if_neg lead]
  simp only [notTwo, notThree, within, tail, tail', tail'', value, long, proper, decide_true, decide_false,
    Bool.and_true, Bool.and_false, Bool.false_and, if_true, Bool.false_eq_true, if_false]

/-- By the length of its encoding, a character is read as it was written. -/
theorem decodeRunes_char (rune : Char) (rest : List UInt8) :
    decodeRunes (String.utf8EncodeChar rune ++ rest) = rune :: decodeRunes rest := by
  have code : rune.val.toNat = rune.toNat := rfl
  have same : Char.ofNat rune.toNat = rune := Char.ofNat_toNat rune
  have proper : rune.toNat < 0xD800 ∨ 0xDFFF < rune.toNat ∧ rune.toNat < 0x110000 := rune.valid
  unfold String.utf8EncodeChar
  rw [code]
  dsimp only
  split
  · rename_i small
    have byte := @toNat_byte rune.toNat (by omega)
    rw [List.singleton_append, decodeRunes_one (by omega), byte, same]
  · split
    · rename_i large small
      have lead := @toNat_byte (rune.toNat / 64 % 32 + 192) (by omega)
      obtain ⟨tail, bits⟩ := tail_byte rune.toNat
      have value : (rune.toNat / 64 % 32 + 192) % 32 * 64 + rune.toNat % 64 = rune.toNat := by omega
      rw [List.cons_append, List.singleton_append, decodeRunes_two (by omega) (by omega) tail, lead, bits, value, same]
    · split
      · rename_i large small
        have lead := @toNat_byte (rune.toNat / 4096 % 16 + 224) (by omega)
        obtain ⟨tail, bits⟩ := tail_byte (rune.toNat / 64)
        obtain ⟨tail', bits'⟩ := tail_byte rune.toNat
        have value : ((UInt8.ofNat (rune.toNat / 4096 % 16 + 224)).toNat % 16 * 64 +
            tailBits (UInt8.ofNat (rune.toNat / 64 % 64 + 128))) * 64 +
              tailBits (UInt8.ofNat (rune.toNat % 64 + 128)) = rune.toNat := by
          rw [lead, bits, bits']
          omega
        rw [List.cons_append, List.cons_append, List.singleton_append,
          decodeRunes_three value (by omega) (by omega) tail tail' (by omega) (by omega), same]
      · rename_i large
        have lead := @toNat_byte (rune.toNat / 262144 % 8 + 240) (by omega)
        obtain ⟨tail, bits⟩ := tail_byte (rune.toNat / 4096)
        obtain ⟨tail', bits'⟩ := tail_byte (rune.toNat / 64)
        obtain ⟨tail'', bits''⟩ := tail_byte rune.toNat
        have value : (((UInt8.ofNat (rune.toNat / 262144 % 8 + 240)).toNat % 8 * 64 +
            tailBits (UInt8.ofNat (rune.toNat / 4096 % 64 + 128))) * 64 +
              tailBits (UInt8.ofNat (rune.toNat / 64 % 64 + 128))) * 64 +
                tailBits (UInt8.ofNat (rune.toNat % 64 + 128)) = rune.toNat := by
          rw [lead, bits, bits', bits'']
          omega
        rw [List.cons_append, List.cons_append, List.cons_append, List.singleton_append,
          decodeRunes_four value (by omega) (by omega) tail tail' tail'' (by omega) (by omega), same]

theorem decodeRunes_text (runes : List Char) (rest : List UInt8) :
    decodeRunes (runes.flatMap String.utf8EncodeChar ++ rest) = runes ++ decodeRunes rest := by
  induction runes with
  | nil => rfl
  | cons rune later ih => rw [List.flatMap_cons, List.append_assoc, decodeRunes_char, ih, List.cons_append]

theorem stringOfBytes_bytesOfString (text : String) : stringOfBytes (bytesOfString text) = text := by
  have read := decodeRunes_text text.toList []
  rw [List.append_nil] at read
  rw [stringOfBytes, bytesOfString, read, decodeRunes, List.append_nil, String.ofList_toList]

end MiGate.Go
