import Mathlib.Data.Nat.Bitwise

namespace MiGate.Xray

/-! Numbers as the statistics service writes them: seven bits a byte, the low ones first. -/

/-- `appendVarint`: what it appends. -/
def appendVarint (value : UInt64) : List UInt8 :=
  if 0x80 ≤ value then (value.toUInt8 ||| 0x80) :: appendVarint (value >>> 7) else [value.toUInt8]
termination_by value.toNat
decreasing_by
  rename_i large
  have low : 128 ≤ value.toNat := UInt64.le_iff_toNat_le.mp large
  rw [UInt64.toNat_shiftRight]
  simp only [UInt64.reduceToNat, Nat.reduceMod, Nat.shiftRight_eq_div_pow]
  omega

/-- `consumeVarint` from its `index`-th byte on. -/
def consumeVarintFrom (index : Nat) (value : UInt64) : List UInt8 → UInt64 × Int
  | [] => (0, -1)
  | byte :: rest =>
      if index = 10 then (0, -1)
      else
        let value := value ||| ((byte &&& 0x7f).toUInt64 <<< UInt64.ofNat (7 * index))
        if byte < 0x80 then (value, index + 1) else consumeVarintFrom (index + 1) value rest

/-- A number, and of how many bytes it was read; not positive where there is none. -/
def consumeVarint (raw : List UInt8) : UInt64 × Int :=
  consumeVarintFrom 0 0 raw

/-! ### How far a number reaches -/

variable {raw rest : List UInt8} {value : UInt64} {index : Nat}

theorem consumeVarintFrom_size (early : index ≤ 10) (acc : UInt64) (raw : List UInt8) :
    (consumeVarintFrom index acc raw).2 = -1 ∨
      index < (consumeVarintFrom index acc raw).2 ∧ (consumeVarintFrom index acc raw).2 ≤ 10 ∧
        (consumeVarintFrom index acc raw).2 ≤ index + raw.length := by
  induction raw generalizing index acc with
  | nil => exact .inl rfl
  | cons byte rest ih =>
      rw [consumeVarintFrom]
      split
      · exact .inl rfl
      · rename_i before
        dsimp only
        split
        · refine .inr ⟨?_, ?_, ?_⟩
          · exact Int.lt_succ _
          · omega
          · rw [List.length_cons]
            omega
        · have later : index + 1 ≤ 10 := by omega
          rcases ih later (acc ||| ((byte &&& 0x7f).toUInt64 <<< UInt64.ofNat (7 * index))) with
            failed | ⟨first, second, third⟩
          · exact .inl failed
          · refine .inr ⟨?_, second, ?_⟩
            · omega
            · rw [List.length_cons]
              omega

theorem consumeVarint_size (raw : List UInt8) : (consumeVarint raw).2 = -1 ∨
    0 < (consumeVarint raw).2 ∧ (consumeVarint raw).2 ≤ 10 ∧ (consumeVarint raw).2 ≤ raw.length := by
  have size := consumeVarintFrom_size (Nat.zero_le 10) 0 raw
  rw [Int.natCast_zero, Int.zero_add] at size
  exact size

theorem seven_bits (byte : UInt8) : (byte &&& 0x7f).toNat < 128 := by
  have all : ∀ code : Fin 256, (UInt8.ofNat code &&& 0x7f).toNat < 128 := by decide +kernel
  have found := all ⟨byte.toNat, byte.toNat_lt⟩
  rw [UInt8.ofNat_toNat] at found
  exact found

/-- What fewer than ten bytes stand for fits in 63 bits. -/
theorem consumeVarintFrom_lt (early : index ≤ 9) (acc : UInt64) (low : acc.toNat < 2 ^ (7 * index))
    (raw : List UInt8) (short : (consumeVarintFrom index acc raw).2 ≠ 10) :
    (consumeVarintFrom index acc raw).1.toNat < 2 ^ 63 := by
  induction raw generalizing index acc with
  | nil => exact Nat.two_pow_pos 63
  | cons byte rest ih =>
      rw [consumeVarintFrom, if_neg (by omega)] at short ⊢
      dsimp only at short ⊢
      have bound : index < 9 → (acc ||| ((byte &&& 0x7f).toUInt64 <<< UInt64.ofNat (7 * index))).toNat <
          2 ^ (7 * (index + 1)) := by
        intro before
        have count : (UInt64.ofNat (7 * index)).toNat % 64 = 7 * index := by
          rw [UInt64.toNat_ofNat']
          omega
        have power : (2 : Nat) ^ (7 * (index + 1)) = 2 ^ (7 * index) * 128 := by
          rw [Nat.mul_succ, Nat.pow_add]
        have above : (2 : Nat) ^ (7 * index) ≤ 2 ^ (7 * (index + 1)) := Nat.pow_le_pow_right (by decide) (by omega)
        rw [UInt64.toNat_or, UInt64.toNat_shiftLeft, UInt8.toNat_toUInt64, count, Nat.shiftLeft_eq]
        refine Nat.or_lt_two_pow (Nat.lt_of_lt_of_le low above) (Nat.lt_of_le_of_lt (Nat.mod_le _ _) ?_)
        rw [power, Nat.mul_comm (2 ^ (7 * index))]
        exact Nat.mul_lt_mul_of_pos_right (seven_bits byte) (Nat.two_pow_pos _)
      split at short
      · rename_i last
        rw [if_pos last]
        have before : index < 9 := by
          dsimp only at short
          omega
        exact Nat.lt_of_lt_of_le (bound before) (Nat.pow_le_pow_right (by decide) (by omega))
      · rename_i more
        rw [if_neg more]
        by_cases before : index < 9
        · have later : index + 1 ≤ 9 := by omega
          exact ih later _ (bound before) short
        · have full : index + 1 = 10 := by omega
          rw [full]
          cases rest with
          | nil => exact Nat.two_pow_pos 63
          | cons next others =>
              rw [consumeVarintFrom, if_pos rfl]
              exact Nat.two_pow_pos 63

theorem consumeVarint_large (raw : List UInt8) (large : 2 ^ 63 ≤ (consumeVarint raw).1.toNat) :
    (consumeVarint raw).2 = 10 := by
  by_contra short
  have small := consumeVarintFrom_lt (Nat.zero_le 9) 0 Nat.one_pos raw short
  exact absurd large (Nat.not_le_of_lt small)

/-! ### What is written is read -/

theorem toNat_shiftRight_seven (value : UInt64) : (value >>> 7).toNat = value.toNat / 128 := by
  rw [UInt64.toNat_shiftRight]
  simp only [UInt64.reduceToNat, Nat.reduceMod, Nat.shiftRight_eq_div_pow]

/-- The byte that stands for seven bits, with or without another one to come. -/
theorem low_bits (value : UInt64) (byte : UInt8) (written : byte = value.toUInt8 ∨ byte = value.toUInt8 ||| 0x80) :
    (byte &&& 0x7f).toNat = value.toNat % 128 := by
  have all : ∀ low : UInt8, (low &&& 0x7f).toNat = low.toNat % 128 ∧ ((low ||| 0x80) &&& 0x7f).toNat = low.toNat % 128 := by
    intro low
    have cases : ∀ code : Fin 256, (UInt8.ofNat code &&& 0x7f).toNat = (UInt8.ofNat code).toNat % 128 ∧
        ((UInt8.ofNat code ||| 0x80) &&& 0x7f).toNat = (UInt8.ofNat code).toNat % 128 := by
      decide +kernel
    have found := cases ⟨low.toNat, low.toNat_lt⟩
    rw [UInt8.ofNat_toNat] at found
    exact found
  have narrow : value.toUInt8.toNat % 128 = value.toNat % 128 := by
    rw [UInt64.toNat_toUInt8]
    omega
  rcases written with rfl | rfl
  · rw [(all _).1, narrow]
  · rw [(all _).2, narrow]

theorem not_last (value : UInt64) : ¬value.toUInt8 ||| 0x80 < 0x80 := by
  have all : ∀ code : Fin 256, ¬UInt8.ofNat code ||| 0x80 < 0x80 := by decide +kernel
  have found := all ⟨value.toUInt8.toNat, value.toUInt8.toNat_lt⟩
  rw [UInt8.ofNat_toNat] at found
  exact found

/-- Seven more bits, above those that are there. -/
theorem or_shifted {acc : UInt64} {number shift : Nat} {byte : UInt8} (fits : number < 2 ^ 64) (shifts : shift < 64)
    (low : acc.toNat = number % 2 ^ shift) (bits : byte.toNat = number / 2 ^ shift % 128) :
    (acc ||| (byte.toUInt64 <<< UInt64.ofNat shift)).toNat =
      number % 2 ^ shift + 2 ^ shift * (number / 2 ^ shift % 128) := by
  have count : (UInt64.ofNat shift).toNat = shift := by
    rw [UInt64.toNat_ofNat']
    omega
  have room : byte.toNat * 2 ^ shift < 2 ^ 64 := by
    have kept : byte.toNat * 2 ^ shift ≤ number / 2 ^ shift * 2 ^ shift := by
      rw [bits]
      exact Nat.mul_le_mul_right _ (Nat.mod_le _ _)
    exact Nat.lt_of_le_of_lt (Nat.le_trans kept (Nat.div_mul_le_self _ _)) fits
  rw [UInt64.toNat_or, UInt64.toNat_shiftLeft, UInt8.toNat_toUInt64, count, Nat.mod_eq_of_lt shifts,
    Nat.shiftLeft_eq, Nat.mod_eq_of_lt room, low, Nat.or_comm, bits, Nat.mul_comm,
    ← Nat.two_pow_add_eq_or_of_lt (Nat.mod_lt _ (Nat.two_pow_pos shift))]
  omega

/-- Reading goes on where `index` bytes have brought the low bits of a number. -/
theorem consumeVarintFrom_append {number : Nat} (fits : number < 2 ^ 64) (rest : List UInt8) {acc : UInt64}
    (early : index ≤ 9) (low : acc.toNat = number % 2 ^ (7 * index)) (high : value.toNat = number / 2 ^ (7 * index)) :
    consumeVarintFrom index acc (appendVarint value ++ rest) =
      (UInt64.ofNat number, (index : Int) + (appendVarint value).length) := by
  have split : (2 : Nat) ^ (7 * (index + 1)) = 2 ^ (7 * index) * 128 := by
    rw [Nat.mul_succ, Nat.pow_add]
  induction value using appendVarint.induct generalizing index acc with
  | case1 value large ih =>
      have more : 128 ≤ value.toNat := UInt64.le_iff_toNat_le.mp large
      have before : index < 9 := by
        by_contra full
        have last : index = 9 := by omega
        rw [last] at high
        omega
      have bits := low_bits value _ (.inr rfl)
      have written := bits
      rw [high] at written
      have step := or_shifted fits (by omega) low written
      have later : index + 1 ≤ 9 := by omega
      have power : (2 : Nat) ^ (7 * (index + 1 + 1)) = 2 ^ (7 * (index + 1)) * 128 := by
        rw [Nat.mul_succ, Nat.pow_add]
      have shifted : (value >>> 7).toNat = number / 2 ^ (7 * (index + 1)) := by
        rw [toNat_shiftRight_seven, high, split, Nat.div_div_eq_div_mul]
      have next := ih later (step.trans (by rw [split, Nat.mod_mul])) shifted power
      rw [appendVarint, if_pos large, List.cons_append, consumeVarintFrom, if_neg (by omega)]
      dsimp only
      rw [if_neg (not_last value), next, List.length_cons]
      refine Prod.ext rfl ?_
      dsimp only
      omega
  | case2 value small =>
      have last : value.toNat < 128 := by
        by_contra large
        exact small (UInt64.le_iff_toNat_le.mpr (Nat.le_of_not_lt large))
      have bits := low_bits value _ (.inl rfl)
      rw [high] at bits
      have step := or_shifted fits (by omega) low bits
      have ends : value.toUInt8 < 0x80 := by
        rw [UInt8.lt_iff_toNat_lt, UInt64.toNat_toUInt8]
        have code : (0x80 : UInt8).toNat = 128 := rfl
        omega
      rw [appendVarint, if_neg small, List.cons_append, consumeVarintFrom, if_neg (by omega)]
      dsimp only
      rw [if_pos ends]
      refine Prod.ext (UInt64.toNat_inj.mp ?_) rfl
      have top : number / 2 ^ (7 * index) % 128 = number / 2 ^ (7 * index) :=
        Nat.mod_eq_of_lt (high ▸ last)
      rw [step, UInt64.toNat_ofNat', Nat.mod_eq_of_lt fits, top]
      exact Nat.mod_add_div _ _

/-- Whatever follows it, a number is read as it was written. -/
theorem consumeVarint_append (value : UInt64) (rest : List UInt8) :
    consumeVarint (appendVarint value ++ rest) = (value, ((appendVarint value).length : Int)) := by
  have low : (0 : UInt64).toNat = value.toNat % 2 ^ (7 * 0) := (Nat.mod_one _).symm
  have high : value.toNat = value.toNat / 2 ^ (7 * 0) := (Nat.div_one _).symm
  have read := consumeVarintFrom_append value.toNat_lt rest (Nat.zero_le 9) low high
  rw [consumeVarint, read, UInt64.ofNat_toNat, Int.natCast_zero, Int.zero_add]

end MiGate.Xray
