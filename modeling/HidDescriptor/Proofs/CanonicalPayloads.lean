import HidDescriptor.Proofs.SignMagnitude

/-!
# Canonical payloads

Reading a payload and writing its value again gives the canonical payload of the value, whatever bytes
were read. It is the payload that was read unless this one is longer than it has to be, or a zero with
the sign bit set.

- `Payload.littleEndian_ofLittleEndian`: bytes are told by their number
- `Payload.NegativeZero`: zero with the sign bit set
- `Payload.least_size_eq_iff`: which of the three sizes is the least one
- `Payload.encode_decode_signed`, `Payload.encode_decode_unsigned`: writing again what was read
- `Payload.encode_decode_canonical`: both
-/

namespace HidDescriptor
namespace Payload

variable {payload : Payload} {value : Int}

/-! ## Bytes and their number -/

/-- As many bytes of their number as there are give bytes back. -/
theorem littleEndian_ofLittleEndian (h : ∀ b ∈ payload, 0 ≤ b ∧ b < 256) :
    littleEndian payload.length (ofLittleEndian payload) = payload := by
  induction payload with
  | nil =>
      rfl
  | cons b rest ih =>
      have hb := h b List.mem_cons_self
      have hrest := ih fun c hc => h c (List.mem_cons_of_mem _ hc)
      -- The lowest byte is the remainder, and the number of all others is the quotient.
      have hlow : (b + 256 * ofLittleEndian rest) % 256 = b := by omega
      have hhigh : (b + 256 * ofLittleEndian rest) / 256 = ofLittleEndian rest := by omega
      rw [List.length_cons, ofLittleEndian, littleEndian, hlow, hhigh, hrest]

/-- Bytes of a number are given bytes if and only if there are as many of them, and they have this
number. -/
theorem littleEndian_eq_iff {size : Nat} {raw : Int} (h₀ : 0 ≤ raw) (h₁ : raw < 256 ^ size)
    (h : ∀ b ∈ payload, 0 ≤ b ∧ b < 256) :
    littleEndian size raw = payload ↔ size = payload.length ∧ raw = ofLittleEndian payload := by
  constructor
  · rintro rfl
    exact ⟨(length_littleEndian size raw).symm, (ofLittleEndian_littleEndian h₀ h₁).symm⟩
  · rintro ⟨rfl, rfl⟩
    exact littleEndian_ofLittleEndian h

/-! ## Negative zero -/

/-- All bytes are zero but the last one, which is the sign bit. -/
def NegativeZero (payload : Payload) : Prop :=
  ∃ k, payload = List.replicate k 0 ++ [0x80]

/-- The bytes of the sign bit alone. -/
theorem littleEndian_signBit (k : Nat) :
    littleEndian (k + 1) (2 ^ (8 * (k + 1) - 1)) = List.replicate k 0 ++ [0x80] := by
  induction k with
  | zero =>
      rfl
  | succ k ih =>
      -- With one more byte, the sign bit moves up by eight bits and a zero stands below it.
      have hshift : (2 : Int) ^ (8 * (k + 1 + 1) - 1) = 256 * 2 ^ (8 * (k + 1) - 1) := by
        have hexp : 8 * (k + 1 + 1) - 1 = 8 + (8 * (k + 1) - 1) := by omega
        rw [hexp, Int.pow_add]
        rfl
      rw [littleEndian, hshift, Int.mul_emod_right, Int.mul_ediv_cancel_left _ (by decide), ih]
      rfl

/-- Negative zero is the payload of the sign bit alone. -/
theorem negativeZero_iff (hne : payload ≠ []) (h : ∀ b ∈ payload, 0 ≤ b ∧ b < 256) :
    NegativeZero payload ↔ ofLittleEndian payload = 2 ^ (8 * payload.length - 1) := by
  have hcode (k : Nat) : littleEndian (k + 1) (2 ^ (8 * (k + 1) - 1)) = payload ↔
      k + 1 = payload.length ∧ 2 ^ (8 * (k + 1) - 1) = ofLittleEndian payload := by
    have hsign : (0 : Int) < 2 ^ (8 * (k + 1) - 1) := Int.pow_pos (by decide)
    have hroom : (2 : Int) ^ (8 * (k + 1) - 1) < 256 ^ (k + 1) := by
      rw [byte_pow_eq, two_pow_eq_double (show 0 < 8 * (k + 1) by omega)]
      omega
    exact littleEndian_eq_iff (Int.le_of_lt hsign) hroom h
  constructor
  · rintro ⟨k, hk⟩
    rcases (hcode k).1 ((littleEndian_signBit k).trans hk.symm) with ⟨hlen, hraw⟩
    rw [← hlen, ← hraw]
  · intro hraw
    obtain ⟨k, hk⟩ : ∃ k, k + 1 = payload.length := Nat.exists_add_one_eq.2 (List.length_pos_iff.2 hne)
    refine ⟨k, ?_⟩
    rw [← littleEndian_signBit k, (hcode k).2 ⟨hk, by rw [hk, hraw]⟩]

/-! ## Sizes -/

/-- A size that serves is the least one if and only if the next smaller one does not serve. -/
theorem least_size_eq_iff {P : Nat → Prop} {least n : Nat}
    (hleast : IsLeast {m | (m = 1 ∨ m = 2 ∨ m = 4) ∧ P m} least) (hmono : P 1 → P 2)
    (hn : n = 1 ∨ n = 2 ∨ n = 4) (hP : P n) :
    least = n ↔ n = 1 ∨ n = 2 ∧ ¬ P 1 ∨ n = 4 ∧ ¬ P 2 := by
  have hle : least ≤ n := hleast.2 ⟨hn, hP⟩
  rcases hleast.1 with ⟨hsize, hserves⟩
  constructor
  · rintro rfl
    rcases hn with rfl | rfl | rfl
    · exact Or.inl rfl
    · exact Or.inr (Or.inl ⟨rfl, fun h => absurd (hleast.2 ⟨Or.inl rfl, h⟩) (by decide)⟩)
    · refine Or.inr (Or.inr ⟨rfl, fun h => ?_⟩)
      exact absurd (hleast.2 ⟨Or.inr (Or.inl rfl), h⟩) (by decide)
  · -- A smaller size would serve as well, and so would the next one.
    rintro (rfl | ⟨rfl, hnot⟩ | ⟨rfl, hnot⟩)
    · omega
    · rcases hsize with rfl | rfl | rfl
      · exact absurd hserves hnot
      · rfl
      · omega
    · rcases hsize with rfl | rfl | rfl
      · exact absurd (hmono hserves) hnot
      · exact absurd hserves hnot
      · rfl

/-! ## Writing again what was read -/

/-- The payload of a value consists of given bytes if and only if the least width has this many of them
and the code over it is their number. -/
theorem encode_eq_iff {signed : Bool} {canonical : Payload}
    (h : encode value none signed = .ok canonical) :
    ∃ bits, LeastWidth value signed bits ∧ canonical.length = bits / 8 ∧
      ∀ payload : Payload, (∀ b ∈ payload, 0 ≤ b ∧ b < 256) →
        (canonical = payload ↔
          bits / 8 = payload.length ∧ signMagnitude value bits = ofLittleEndian payload) := by
  rcases encode_eq_ok_iff.1 h with ⟨bits, hleast, rfl⟩
  have hbounds := hleast.code_bounds
  exact ⟨bits, hleast, length_littleEndian _ _,
    fun payload hbytes => littleEndian_eq_iff hbounds.1 hbounds.2 hbytes⟩

section Again

variable (hbytes : ∀ b ∈ payload, 0 ≤ b ∧ b < 256)
  (hsize : payload.length = 1 ∨ payload.length = 2 ∨ payload.length = 4)

include hbytes hsize

/-- What is read with a sign is written as a payload that is not longer, and the same unless it was
padded or negative zero. -/
theorem encode_decode_signed :
    ∃ value canonical, decode payload true = .ok value ∧ encode value none true = .ok canonical ∧
      canonical.length ≤ payload.length ∧ decode canonical true = .ok value ∧
      (canonical = payload ↔ ¬ NegativeZero payload ∧
        (payload.length = 1 ∨ payload.length = 2 ∧ 2 ^ 7 ≤ value.natAbs ∨
          payload.length = 4 ∧ 2 ^ 15 ≤ value.natAbs)) := by
  have hne : payload ≠ [] := List.length_pos_iff.1 (by omega)
  have hpos : 0 < 8 * payload.length := by omega
  have hbounds := ofLittleEndian_bounds hbytes
  rw [byte_pow_eq] at hbounds
  rcases toSignMagnitude_fromSignMagnitude hpos hbounds.1 hbounds.2 with
    ⟨value, hvalue, hroom, hcode⟩
  have hdecode : decode payload true = .ok value := (decode_of_bytes hne hbytes).trans hvalue
  -- Four bytes are enough for all that is read.
  have hwide : value.natAbs < 2 ^ 31 :=
    Nat.lt_of_lt_of_le hroom (Nat.pow_le_pow_right (by decide) (by omega))
  rcases exists_encode_signed_iff.2 hwide with ⟨canonical, hcanonical⟩
  rcases encode_eq_iff hcanonical with ⟨bits, hleast, hlen, hsame⟩
  have hsmallest := hleast.isLeast_size (P := fun n => value.natAbs < 2 ^ (8 * n - 1))
    fun n _ => fits_signed_iff
  have hpadded := least_size_eq_iff hsmallest (fun h => by omega) hsize hroom
  simp only [Nat.not_lt] at hpadded
  refine ⟨value, canonical, hdecode, hcanonical, ?_, decode_of_encode_signed hcanonical, ?_⟩
  · rw [hlen]
    exact hsmallest.2 ⟨hsize, hroom⟩
  · rw [hsame payload hbytes, negativeZero_iff hne hbytes, ← hpadded, and_comm]
    refine and_congr_left ?_
    intro hbits
    -- Over as many bytes the code is the one that was read, but for the sign bit alone.
    rw [← hleast.eight_mul_div, hbits, hcode]
    have hsign : (0 : Int) < 2 ^ (8 * payload.length - 1) := Int.pow_pos (by decide)
    split <;> omega

/-- What is read without a sign is written as a payload that is not longer, and the same unless it was
padded. -/
theorem encode_decode_unsigned :
    ∃ value canonical, decode payload false = .ok value ∧ encode value none false = .ok canonical ∧
      canonical.length ≤ payload.length ∧ decode canonical false = .ok value ∧
      (canonical = payload ↔ payload.length = 1 ∨ payload.length = 2 ∧ 2 ^ 8 ≤ value ∨
        payload.length = 4 ∧ 2 ^ 16 ≤ value) := by
  have hne : payload ≠ [] := List.length_pos_iff.1 (by omega)
  have hbounds := ofLittleEndian_bounds hbytes
  have hdecode : decode payload false = .ok (ofLittleEndian payload) := decode_of_bytes hne hbytes
  have hwide : ofLittleEndian payload < 2 ^ 32 := by
    rcases hsize with hlen | hlen | hlen <;> rw [hlen] at hbounds <;> omega
  rcases exists_encode_unsigned_iff.2 ⟨by omega, hwide⟩ with ⟨canonical, hcanonical⟩
  rcases encode_eq_iff hcanonical with ⟨bits, hleast, hlen, hsame⟩
  have hsmallest := hleast.isLeast_size fun n hn => fits_natural_iff hbounds.1 hn
  have hpadded := least_size_eq_iff hsmallest (fun h => by omega) hsize hbounds.2
  simp only [Int.not_lt, byte_pow_eq] at hpadded
  refine ⟨_, canonical, hdecode, hcanonical, ?_, decode_of_encode_unsigned hbounds.1 hcanonical, ?_⟩
  · rw [hlen]
    exact hsmallest.2 ⟨hsize, hbounds.2⟩
  · -- The code of a natural number is the number.
    rw [hsame payload hbytes, signMagnitude_of_nonneg hbounds.1, eq_self, and_true]
    exact hpadded

end Again

/-- Reading one, two or four bytes and writing the value again gives a canonical payload: it is not
longer, and it is read as the same value. With a sign, it is the payload that was read if and only if
this is not negative zero and its size is needed for the magnitude. Without a sign, only its size
matters. -/
theorem encode_decode_canonical (payload : Payload) (hbytes : ∀ b ∈ payload, 0 ≤ b ∧ b ≤ 255)
    (hsize : payload.length = 1 ∨ payload.length = 2 ∨ payload.length = 4) :
    (∃ value canonical, decode payload true = .ok value ∧ encode value none true = .ok canonical ∧
      canonical.length ≤ payload.length ∧ decode canonical true = .ok value ∧
      (canonical = payload ↔ ¬ NegativeZero payload ∧
        (payload.length = 1 ∨ payload.length = 2 ∧ 2 ^ 7 ≤ value.natAbs ∨
          payload.length = 4 ∧ 2 ^ 15 ≤ value.natAbs))) ∧
    (∃ value canonical, decode payload false = .ok value ∧ encode value none false = .ok canonical ∧
      canonical.length ≤ payload.length ∧ decode canonical false = .ok value ∧
      (canonical = payload ↔ payload.length = 1 ∨ payload.length = 2 ∧ 2 ^ 8 ≤ value ∨
        payload.length = 4 ∧ 2 ^ 16 ≤ value)) := by
  have hbytes' : ∀ b ∈ payload, 0 ≤ b ∧ b < 256 := by
    intro b hb
    have hbyte := hbytes b hb
    omega
  exact ⟨encode_decode_signed hbytes' hsize, encode_decode_unsigned hbytes' hsize⟩

/-- Negative zero in two bytes: it is padded with a sign, and canonical without one. -/
theorem encode_decode_canonical_zero :
    NegativeZero [0x00, 0x80] ∧
    (∃ value canonical, decode [0x00, 0x80] true = .ok value ∧
      encode value none true = .ok canonical ∧ canonical.length ≤ 2 ∧ canonical ≠ [0x00, 0x80]) ∧
    ∃ value, decode [0x00, 0x80] false = .ok value ∧ encode value none false = .ok [0x00, 0x80] := by
  have hzero : NegativeZero [0x00, 0x80] := ⟨1, rfl⟩
  rcases encode_decode_canonical [0x00, 0x80] (by decide) (by decide) with
    ⟨⟨value, canonical, hread, hwritten, hshort, _, hsame⟩, natural, canonical', hread', hwritten', _, _,
      hsame'⟩
  refine ⟨hzero, ⟨value, canonical, hread, hwritten, hshort, fun h => (hsame.1 h).1 hzero⟩, natural,
    hread', ?_⟩
  have hvalue : (decode [0x00, 0x80] false) = .ok 0x8000 := by
    decide
  cases hvalue.symm.trans hread'
  rw [hwritten', hsame'.2 (by decide)]

end Payload
end HidDescriptor
