import HidDescriptor.Proofs.Widths
import Mathlib.Data.Nat.Bitwise

/-!
# Sign and magnitude over any width

The sign convention of payloads, for every number of bits and every integer: which values have a
code, which codes are read back to their values, and how codes look in bits.

- `Payload.toNat_signMagnitude`, `Payload.fromSignMagnitude_eq_bits`: the sign bit is set by a union
  and cleared by a mask
- `Payload.exists_toSignMagnitude_error_iff`: the values without a code
- `Payload.fromSignMagnitude_signMagnitude_iff`: the values that are read back from their code
- `Payload.toSignMagnitude_fromSignMagnitude`: the codes that are written again, all but negative zero
- `Payload.encode_bytes_eq_ok_iff`: payloads of a given number of bytes
- `Payload.signMagnitude_codec`: all of it
-/

namespace HidDescriptor
namespace Payload

variable {value raw : Int} {bits size : Nat} {signed : Bool} {payload : Payload}

/-! ## Codes in bits -/

/-- The magnitude lies below the sign bit, so that adding the bit is the same as setting it. -/
theorem toNat_signMagnitude (h : -2 ^ (bits - 1) < value) :
    (signMagnitude value bits).toNat =
      value.natAbs ||| (if value < 0 then 2 ^ (bits - 1) else 0) := by
  have hcast : ((2 ^ (bits - 1) : Nat) : Int) = 2 ^ (bits - 1) := Int.natCast_pow 2 (bits - 1)
  rcases lt_or_ge value 0 with hneg | hneg
  · have hlow : value.natAbs < 2 ^ (bits - 1) := by omega
    calc
      (signMagnitude value bits).toNat = 2 ^ (bits - 1) * 1 + value.natAbs := by
        rw [signMagnitude_of_neg hneg]
        omega
      _ = value.natAbs ||| 2 ^ (bits - 1) := by
        rw [Nat.two_pow_add_eq_or_of_lt hlow, Nat.mul_one, Nat.or_comm]
      _ = value.natAbs ||| (if value < 0 then 2 ^ (bits - 1) else 0) := by
        rw [if_pos hneg]
  · rw [signMagnitude_of_nonneg hneg, if_neg (by omega), Nat.or_zero]
    omega

/-- The top bit of a number is clear if and only if the number lies below it. -/
theorem and_two_pow_eq_zero_iff {n k : Nat} (h : n < 2 ^ (k + 1)) : n &&& 2 ^ k = 0 ↔ n < 2 ^ k := by
  rw [Nat.and_two_pow]
  constructor
  · intro hclear
    by_contra hlow
    have hset : n.testBit k = true :=
      Nat.testBit_of_two_pow_le_and_two_pow_add_one_gt (Nat.not_lt.1 hlow) h
    rw [hset] at hclear
    simp at hclear
  · intro hlow
    rw [Nat.testBit_lt_two_pow hlow]
    simp

/-- Reading looks at the sign bit and masks the bits below it. -/
theorem fromSignMagnitude_eq_bits (hpos : 0 < bits) (h₀ : 0 ≤ raw) (h₁ : raw < 2 ^ bits) :
    fromSignMagnitude raw bits =
      .ok (if raw.toNat &&& 2 ^ (bits - 1) = 0 then raw
        else -((raw.toNat &&& (2 ^ (bits - 1) - 1) : Nat) : Int)) := by
  obtain ⟨n, rfl⟩ : ∃ n : Nat, raw = n := ⟨raw.toNat, by omega⟩
  obtain ⟨k, rfl⟩ : ∃ k, bits = k + 1 := ⟨bits - 1, by omega⟩
  have hn : n < 2 ^ (k + 1) := by
    exact_mod_cast h₁
  rw [fromSignMagnitude_eq hpos h₀ h₁, Nat.add_sub_cancel, Int.toNat_natCast,
    Nat.and_two_pow_sub_one_eq_mod]
  congr 1
  by_cases hlow : n < 2 ^ k
  · rw [if_pos (by exact_mod_cast hlow), if_pos ((and_two_pow_eq_zero_iff hn).2 hlow)]
  · rw [if_neg (by exact_mod_cast hlow), if_neg fun h => hlow ((and_two_pow_eq_zero_iff hn).1 h)]
    -- One sign bit is all that the mask takes away.
    have hmask : n % 2 ^ k = n - 2 ^ k := by
      rw [Nat.mod_eq_sub_mod (by omega), Nat.mod_eq_of_lt (by rw [Nat.pow_succ] at hn; omega)]
    have hcast : ((2 ^ k : Nat) : Int) = 2 ^ k := Int.natCast_pow 2 k
    rw [hmask]
    omega

/-! ## Values and their codes -/

theorem exists_toSignMagnitude_error_iff (hpos : 0 < bits) :
    (∃ fault, toSignMagnitude value bits = .error fault) ↔
      2 ^ bits ≤ value ∨ value ≤ -2 ^ (bits - 1) := by
  rw [exists_error_iff]
  simp only [toSignMagnitude_eq_ok_iff hpos, exists_and_left, exists_eq, and_true]
  omega

/-- A code gives its value back if and only if the value leaves the sign bit free: the code of any
other value is read with that bit as the sign. -/
theorem fromSignMagnitude_signMagnitude_iff (hpos : 0 < bits)
    (hrange : -2 ^ (bits - 1) < value ∧ value < 2 ^ bits) :
    fromSignMagnitude (signMagnitude value bits) bits = .ok value ↔
      value.natAbs < 2 ^ (bits - 1) := by
  refine ⟨?_, fromSignMagnitude_signMagnitude hpos⟩
  intro hback
  by_contra hroom
  have hcast : ((2 ^ (bits - 1) : Nat) : Int) = 2 ^ (bits - 1) := Int.natCast_pow 2 (bits - 1)
  have hsign : (0 : Int) < 2 ^ (bits - 1) := Int.pow_pos (by decide)
  have hvalue : 2 ^ (bits - 1) ≤ value := by omega
  rw [signMagnitude_of_nonneg (by omega), fromSignMagnitude_eq hpos (by omega) hrange.2,
    if_neg (by omega)] at hback
  have hread := Except.ok.inj hback
  omega

/-- A code is read as a value that has it as its code, but for the code of the sign bit alone. -/
theorem toSignMagnitude_fromSignMagnitude (hpos : 0 < bits) (h₀ : 0 ≤ raw) (h₁ : raw < 2 ^ bits) :
    ∃ value, fromSignMagnitude raw bits = .ok value ∧ value.natAbs < 2 ^ (bits - 1) ∧
      signMagnitude value bits = if raw = 2 ^ (bits - 1) then 0 else raw := by
  have hcast : ((2 ^ (bits - 1) : Nat) : Int) = 2 ^ (bits - 1) := Int.natCast_pow 2 (bits - 1)
  have hdouble := two_pow_eq_double hpos
  refine ⟨_, fromSignMagnitude_eq hpos h₀ h₁, ?_, ?_⟩
  · split <;> omega
  · -- Below the sign bit, at the sign bit, and beyond it.
    rcases lt_trichotomy raw (2 ^ (bits - 1)) with hlow | rfl | hhigh
    · rw [if_pos hlow, if_neg (by omega), signMagnitude_of_nonneg h₀]
    · rw [if_neg (by omega), if_pos rfl, Int.sub_self]
      rfl
    · rw [if_neg (by omega), if_neg (by omega), signMagnitude_of_neg (by omega)]
      omega

/-! ## Payloads of a given size -/

/-- Over whole bytes, a payload holds the code of its value and nothing is cut off. -/
theorem encode_bytes_eq_ok_iff (hsize : 0 < size) :
    encode value (some (8 * size : Nat)) signed = .ok payload ↔
      (-2 ^ (8 * size - 1) < value ∧ value < 2 ^ (8 * size)) ∧
        payload = littleEndian size (signMagnitude value (8 * size)) := by
  have hbytes : ((((8 * size : Nat) : Int) + 7) / 8).toNat = size := by omega
  simp only [encode, bind_eq_ok_iff, Except.ok.injEq, exists_eq_left',
    toSignMagnitude_eq_ok_iff (show 0 < 8 * size by omega), hbytes]
  constructor
  · rintro ⟨raw, ⟨hrange, rfl⟩, rfl⟩
    exact ⟨hrange, rfl⟩
  · rintro ⟨hrange, rfl⟩
    exact ⟨_, ⟨hrange, rfl⟩, rfl⟩

theorem exists_encode_bytes_error_iff (hsize : 0 < size) :
    (∃ fault, encode value (some (8 * size : Nat)) signed = .error fault) ↔
      2 ^ (8 * size) ≤ value ∨ value ≤ -2 ^ (8 * size - 1) := by
  rw [exists_error_iff]
  simp only [encode_bytes_eq_ok_iff hsize, exists_and_left, exists_eq, and_true]
  omega

/-- A payload of a given size is read as the code in it is. -/
theorem decode_encode_bytes_iff (hsize : 0 < size)
    (h : encode value (some (8 * size : Nat)) signed = .ok payload) :
    decode payload true = .ok value ↔ value.natAbs < 2 ^ (8 * size - 1) := by
  rcases (encode_bytes_eq_ok_iff hsize).1 h with ⟨hrange, rfl⟩
  have hpos : 0 < 8 * size := by omega
  have hbounds := signMagnitude_bounds hpos hrange
  rw [← byte_pow_eq] at hbounds
  rw [decode_littleEndian hsize hbounds.1 hbounds.2, if_pos rfl]
  exact fromSignMagnitude_signMagnitude_iff hpos hrange

/-- Over any number of bits, the values from above the negated sign bit to below twice the sign bit
have a code of these bits, which is the magnitude with the sign bit set for a negative value. A code
gives its value back if and only if the magnitude leaves the sign bit free, and a number of these bits
is the code of what it is read as, but for the sign bit alone, which is read as zero. So a payload of
whole bytes gives its value back if and only if one of its bits is left to the sign. -/
theorem signMagnitude_codec :
    (∀ bits : Nat, 1 ≤ bits →
      (∀ value : Int,
        ((∃ fault, toSignMagnitude value bits = .error fault) ↔
          2 ^ bits ≤ value ∨ value ≤ -2 ^ (bits - 1)) ∧
        ∀ raw, toSignMagnitude value bits = .ok raw →
          (0 ≤ raw ∧ raw < 2 ^ bits) ∧
          raw.toNat = value.natAbs ||| (if value < 0 then 2 ^ (bits - 1) else 0) ∧
          (fromSignMagnitude raw bits = .ok value ↔ value.natAbs < 2 ^ (bits - 1))) ∧
      ∀ raw : Int, 0 ≤ raw → raw < 2 ^ bits →
        ∃ value : Int, fromSignMagnitude raw bits = .ok value ∧
          value = (if raw.toNat &&& 2 ^ (bits - 1) = 0 then raw
            else -((raw.toNat &&& (2 ^ (bits - 1) - 1) : Nat) : Int)) ∧
          toSignMagnitude value bits = .ok (if raw = 2 ^ (bits - 1) then 0 else raw)) ∧
    (∀ size : Nat, 1 ≤ size → ∀ (value : Int) (signed : Bool),
      ((∃ fault, encode value (some (8 * size : Nat)) signed = .error fault) ↔
        2 ^ (8 * size) ≤ value ∨ value ≤ -2 ^ (8 * size - 1)) ∧
      ∀ payload, encode value (some (8 * size : Nat)) signed = .ok payload →
        payload.length = size ∧ (∀ b ∈ payload, 0 ≤ b ∧ b ≤ 255) ∧
        (decode payload true = .ok value ↔ value.natAbs < 2 ^ (8 * size - 1))) := by
  refine ⟨fun bits hbits => ⟨fun value => ?_, ?_⟩, fun size hsize value signed => ?_⟩
  · refine ⟨exists_toSignMagnitude_error_iff hbits, ?_⟩
    intro raw hraw
    rcases (toSignMagnitude_eq_ok_iff hbits).1 hraw with ⟨hrange, rfl⟩
    exact ⟨signMagnitude_bounds hbits hrange, toNat_signMagnitude hrange.1,
      fromSignMagnitude_signMagnitude_iff hbits hrange⟩
  · intro raw h₀ h₁
    rcases toSignMagnitude_fromSignMagnitude hbits h₀ h₁ with ⟨value, hvalue, hroom, hcode⟩
    have hmasked := hvalue.symm.trans (fromSignMagnitude_eq_bits hbits h₀ h₁)
    refine ⟨value, hvalue, Except.ok.inj hmasked, ?_⟩
    -- What is read leaves the sign bit free, so that it has a code.
    have hcast : ((2 ^ (bits - 1) : Nat) : Int) = 2 ^ (bits - 1) := Int.natCast_pow 2 (bits - 1)
    have hdouble := two_pow_eq_double hbits
    exact (toSignMagnitude_eq_ok_iff hbits).2 ⟨⟨by omega, by omega⟩, hcode.symm⟩
  · refine ⟨exists_encode_bytes_error_iff hsize, ?_⟩
    intro payload hpayload
    refine ⟨?_, ?_, decode_encode_bytes_iff hsize hpayload⟩
    · rw [((encode_bytes_eq_ok_iff hsize).1 hpayload).2, length_littleEndian]
    · intro b hb
      rw [((encode_bytes_eq_ok_iff hsize).1 hpayload).2] at hb
      have hbyte := mem_littleEndian hb
      omega

/-- The single bit that is a sign of nothing, a value over three bytes that is read back, and one over
the same bytes that is not. -/
theorem signMagnitude_codec_three_bytes :
    (∃ value : Int, fromSignMagnitude 1 (1 : Nat) = .ok value ∧
      toSignMagnitude value (1 : Nat) = .ok 0) ∧
    encode (-200) (some (8 * 3 : Nat)) true = .ok [0xC8, 0x00, 0x80] ∧
    decode [0xC8, 0x00, 0x80] true = .ok (-200) ∧
    encode 0x8000C8 (some (8 * 3 : Nat)) true = .ok [0xC8, 0x00, 0x80] ∧
    decode [0xC8, 0x00, 0x80] true ≠ .ok 0x8000C8 := by
  have hnegative : encode (-200) (some (8 * 3 : Nat)) true = .ok [0xC8, 0x00, 0x80] := by
    decide
  have hnatural : encode 0x8000C8 (some (8 * 3 : Nat)) true = .ok [0xC8, 0x00, 0x80] := by
    decide
  rcases signMagnitude_codec with ⟨hcodes, hpayloads⟩
  rcases (hcodes 1 (by decide)).2 1 (by decide) (by decide) with ⟨value, hread, _, hagain⟩
  refine ⟨⟨value, hread, hagain⟩, hnegative, ?_, hnatural, ?_⟩
  · exact ((hpayloads 3 (by decide) (-200) true).2 _ hnegative).2.2.2 (by decide)
  · intro hback
    exact absurd (((hpayloads 3 (by decide) 0x8000C8 true).2 _ hnatural).2.2.1 hback) (by decide)

end Payload
end HidDescriptor
