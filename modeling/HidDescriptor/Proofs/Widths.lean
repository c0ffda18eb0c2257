import HidDescriptor.Proofs.Payloads
import Mathlib.Order.Bounds.Basic

/-!
# Values and the width of their payloads

Which values have a payload, how many bytes it takes, and which value is read back from it.

- `Payload.LeastWidth`, `Payload.fitWidth_eq_ok_iff`: the width that is chosen is the least one
- `Payload.encode_eq_ok_iff`: a payload is the code of its value over the least width
- `Payload.exists_encode_iff`: the values that have a payload
- `Payload.fromSignMagnitude_signMagnitude`, `Payload.natAbs_lt_of_decode`: signed reading
- `Payload.decode_of_encode_signed`, `Payload.decode_of_encode_unsigned`: reading back
- `Payload.encode_signed_minimal`: signed payloads are exact and as short as can be
- `Payload.encode_unsigned_collisions`: so are unsigned ones, but for the sign bit of negative values
-/

namespace HidDescriptor

/-! ## First and least hits -/

/-- The first hit in an increasing list is the least one. -/
theorem isLeast_of_find?_eq_some {p : Nat → Bool} {xs : List Nat} {x : Nat}
    (hsorted : xs.Pairwise (· < ·)) (h : xs.find? p = some x) :
    IsLeast {y | y ∈ xs ∧ p y = true} x := by
  rcases List.find?_eq_some_iff_append.1 h with ⟨hx, before, after, rfl, hbefore⟩
  refine ⟨⟨by simp, hx⟩, ?_⟩
  rintro y ⟨hmem, hy⟩
  rcases List.mem_append.1 hmem with hmem | hmem
  · -- Nothing before the first hit is a hit.
    have hnot := hbefore y hmem
    rw [hy] at hnot
    cases hnot
  · rcases List.mem_cons.1 hmem with rfl | hmem
    · exact le_rfl
    · exact le_of_lt (List.rel_of_pairwise_cons (List.pairwise_append.1 hsorted).2.1 hmem)

theorem find?_eq_some_iff_isLeast {p : Nat → Bool} {xs : List Nat} {x : Nat}
    (hsorted : xs.Pairwise (· < ·)) :
    xs.find? p = some x ↔ IsLeast {y | y ∈ xs ∧ p y = true} x := by
  refine ⟨isLeast_of_find?_eq_some hsorted, ?_⟩
  intro hleast
  cases hfind : xs.find? p with
  | none =>
      exact absurd hleast.1.2 (List.find?_eq_none.1 hfind x hleast.1.1)
  | some y =>
      rw [(isLeast_of_find?_eq_some hsorted hfind).unique hleast]

namespace Payload

/-! ## The least width -/

/-- The least width of a short item that holds a value. -/
def LeastWidth (value : Int) (signed : Bool) (bits : Nat) : Prop :=
  IsLeast {bits | bits ∈ widths ∧ fits value signed bits = true} bits

theorem fitWidth_eq_ok_iff {value : Int} {signed : Bool} {bits : Nat} :
    fitWidth value signed = .ok (bits : Int) ↔ LeastWidth value signed bits := by
  -- The widths are tried in increasing order.
  have hsorted : widths.Pairwise (· < ·) := by
    decide
  rw [LeastWidth, ← find?_eq_some_iff_isLeast hsorted, fitWidth]
  cases widths.find? (fits value signed) with
  | none =>
      simp
  | some found =>
      simp

section Width

variable {value : Int} {signed : Bool} {bits : Nat}

theorem LeastWidth.fits (h : LeastWidth value signed bits) : fits value signed bits = true :=
  h.1.2

theorem LeastWidth.eq_or (h : LeastWidth value signed bits) : bits = 8 ∨ bits = 16 ∨ bits = 32 := by
  have hmem : bits ∈ [8, 16, 32] := h.1.1
  simpa using hmem

theorem LeastWidth.pos (h : LeastWidth value signed bits) : 0 < bits := by
  rcases h.eq_or with rfl | rfl | rfl <;> decide

/-- Widths are whole bytes. -/
theorem LeastWidth.eight_mul_div (h : LeastWidth value signed bits) : 8 * (bits / 8) = bits := by
  rcases h.eq_or with rfl | rfl | rfl <;> rfl

/-- The least number of bytes, if a condition on this number says which widths hold the value. -/
theorem LeastWidth.isLeast_size {P : Nat → Prop} (h : LeastWidth value signed bits)
    (hP : ∀ n, 0 < n → (Payload.fits value signed (8 * n) = true ↔ P n)) :
    IsLeast {n | (n = 1 ∨ n = 2 ∨ n = 4) ∧ P n} (bits / 8) := by
  have hbytes := h.eight_mul_div
  have hpos := h.pos
  refine ⟨⟨?_, ?_⟩, ?_⟩
  · rcases h.eq_or with rfl | rfl | rfl <;> decide
  · refine (hP _ (by omega)).1 ?_
    rw [hbytes]
    exact h.fits
  · rintro n ⟨hn, hPn⟩
    have hwidth : 8 * n ∈ widths := by
      rcases hn with rfl | rfl | rfl <;> decide
    have hle : bits ≤ 8 * n := h.2 ⟨hwidth, (hP n (by omega)).2 hPn⟩
    omega

end Width

/-! ## Payloads of values -/

/-- The payload of a value is its code over the least width. -/
theorem encode_eq_ok_iff {value : Int} {signed : Bool} {payload : Payload} :
    encode value none signed = .ok payload ↔
      ∃ bits, LeastWidth value signed bits ∧
        payload = littleEndian (bits / 8) (signMagnitude value bits) := by
  have hcode {bits : Nat} (h : LeastWidth value signed bits) :
      toSignMagnitude value bits = .ok (signMagnitude value bits) :=
    toSignMagnitude_of_fits h.pos h.fits
  have hsize {bits : Nat} (h : LeastWidth value signed bits) :
      (((bits : Int) + 7) / 8).toNat = bits / 8 := by
    have hbytes := h.eight_mul_div
    omega
  -- First the width is chosen, then the code over it is taken, and neither can be refused later.
  unfold encode
  simp only [bind_eq_ok_iff]
  constructor
  · rintro ⟨width, hwidth, raw, hraw, hpayload⟩
    rcases fitWidth_bounds hwidth with ⟨bits, rfl, _, _⟩
    have hleast := fitWidth_eq_ok_iff.1 hwidth
    cases (hcode hleast).symm.trans hraw
    cases hpayload
    exact ⟨bits, hleast, by rw [hsize hleast]⟩
  · rintro ⟨bits, hleast, rfl⟩
    exact ⟨bits, fitWidth_eq_ok_iff.2 hleast, _, hcode hleast, by rw [hsize hleast]⟩

/-- What fits a width fits every larger one. -/
theorem fits_mono {value : Int} {signed : Bool} {bits bits' : Nat} (hle : bits ≤ bits')
    (h : fits value signed bits = true) : fits value signed bits' = true := by
  have hroom : 2 ^ bits ≤ 2 ^ bits' := Nat.pow_le_pow_right (by decide) hle
  have hroom' : 2 ^ (bits - 1) ≤ 2 ^ (bits' - 1) := Nat.pow_le_pow_right (by decide) (by omega)
  simp only [fits, Bool.or_eq_true, Bool.and_eq_true, decide_eq_true_eq, Nat.pow_eq] at h ⊢
  rcases h with ⟨hunsigned, hlt⟩ | hlt
  · exact Or.inl ⟨hunsigned, by omega⟩
  · exact Or.inr (by omega)

/-- A value has a payload if and only if the largest width holds it. -/
theorem exists_encode_iff {value : Int} {signed : Bool} :
    (∃ payload, encode value none signed = .ok payload) ↔ fits value signed 32 = true := by
  constructor
  · rintro ⟨payload, h⟩
    rcases encode_eq_ok_iff.1 h with ⟨bits, hleast, _⟩
    refine fits_mono ?_ hleast.fits
    rcases hleast.eq_or with rfl | rfl | rfl <;> decide
  · intro hfits
    cases h : encode value none signed with
    | ok payload =>
        exact ⟨payload, rfl⟩
    | error fault =>
        have hnot := (encode_eq_error_iff.1 h).1 32 (by decide)
        rw [hfits] at hnot
        cases hnot

theorem exists_encode_signed_iff {value : Int} :
    (∃ payload, encode value none true = .ok payload) ↔ value.natAbs < 2 ^ 31 :=
  exists_encode_iff.trans fits_signed_iff

theorem exists_encode_unsigned_iff {value : Int} :
    (∃ payload, encode value none false = .ok payload) ↔ -2 ^ 31 < value ∧ value < 2 ^ 32 :=
  exists_encode_iff.trans (fits_unsigned_iff (by decide))

/-! ## Reading payloads -/

theorem byte_pow_eq (n : Nat) : (256 : Int) ^ n = 2 ^ (8 * n) := by
  rw [Int.pow_mul]
  rfl

theorem ofLittleEndian_bounds {payload : Payload} (h : ∀ b ∈ payload, 0 ≤ b ∧ b < 256) :
    0 ≤ ofLittleEndian payload ∧ ofLittleEndian payload < 256 ^ payload.length := by
  induction payload with
  | nil =>
      simp [ofLittleEndian]
  | cons b rest ih =>
      have hb := h b List.mem_cons_self
      have hrest := ih fun c hc => h c (List.mem_cons_of_mem _ hc)
      rw [ofLittleEndian, List.length_cons, Int.pow_succ]
      omega

/-- With the sign bit set, a code stands for the negated bits below it. -/
theorem fromSignMagnitude_eq {raw : Int} {bits : Nat} (hpos : 0 < bits) (h₀ : 0 ≤ raw)
    (h₁ : raw < 2 ^ bits) :
    fromSignMagnitude raw bits =
      .ok (if raw < 2 ^ (bits - 1) then raw else 2 ^ (bits - 1) - raw) := by
  have hbits : (bits : Int) - 1 = (bits - 1 : Nat) := by omega
  have hsign : (0 : Int) < 2 ^ (bits - 1) := Int.pow_pos (by decide)
  rw [two_pow_eq_double hpos] at h₁
  rw [fromSignMagnitude, hbits, powerOfTwo_natCast, Int.natCast_pow]
  show (if raw / 2 ^ (bits - 1) % 2 = 1 then Except.ok (-(raw % 2 ^ (bits - 1)))
    else Except.ok raw) = _
  by_cases hlow : raw < 2 ^ (bits - 1)
  · rw [if_pos hlow, Int.ediv_eq_zero_of_lt h₀ hlow]
    rfl
  · -- The sign bit is there once, and what is left lies below it.
    obtain ⟨low, rfl⟩ : ∃ low, raw = low + 1 * 2 ^ (bits - 1) := ⟨raw - 2 ^ (bits - 1), by omega⟩
    have hset : (low + 1 * 2 ^ (bits - 1)) / 2 ^ (bits - 1) % 2 = 1 := by
      rw [Int.add_mul_ediv_right _ _ (by omega), Int.ediv_eq_zero_of_lt (by omega) (by omega)]
      rfl
    have hrest : (low + 1 * 2 ^ (bits - 1)) % 2 ^ (bits - 1) = low := by
      rw [Int.add_mul_emod_self_right, Int.emod_eq_of_lt (by omega) (by omega)]
    rw [if_neg hlow, if_pos hset, hrest]
    congr 1
    omega

theorem fromSignMagnitude_signMagnitude {value : Int} {bits : Nat} (hpos : 0 < bits)
    (h : value.natAbs < 2 ^ (bits - 1)) :
    fromSignMagnitude (signMagnitude value bits) bits = .ok value := by
  have hcast : ((2 ^ (bits - 1) : Nat) : Int) = 2 ^ (bits - 1) := Int.natCast_pow 2 (bits - 1)
  have hdouble := two_pow_eq_double hpos
  have hbounds : 0 ≤ signMagnitude value bits ∧ signMagnitude value bits < 2 ^ bits :=
    signMagnitude_bounds hpos ⟨by omega, by omega⟩
  rw [fromSignMagnitude_eq hpos hbounds.1 hbounds.2]
  congr 1
  -- The magnitude lies below the sign bit, so only the code of a negative value has that bit set.
  unfold signMagnitude
  split <;> split <;> omega

/-- Bytes are read as their number, or as the value whose code it is. -/
theorem decode_of_bytes {payload : Payload} {signed : Bool} (hne : payload ≠ [])
    (h : ∀ b ∈ payload, 0 ≤ b ∧ b < 256) :
    decode payload signed =
      if signed then fromSignMagnitude (ofLittleEndian payload) (8 * payload.length)
      else .ok (ofLittleEndian payload) := by
  have hbytes : payload.all isByte = true := by
    rw [List.all_eq_true]
    intro b hb
    exact isByte_iff.2 (h b hb)
  have hempty : payload.isEmpty = false := by
    simpa using hne
  simp [decode, hbytes, hempty]

theorem bytes_of_decode {payload : Payload} {signed : Bool} {value : Int}
    (h : decode payload signed = .ok value) : ∀ b ∈ payload, 0 ≤ b ∧ b < 256 := by
  intro b hb
  have hne : payload.isEmpty = false := by
    simpa using List.ne_nil_of_mem hb
  unfold decode at h
  rw [hne] at h
  by_cases hall : payload.all isByte = true
  · exact isByte_iff.1 (List.all_eq_true.1 hall b hb)
  · simp [hall] at h

/-- Bytes of a number are read as the number, or as the value whose code it is. -/
theorem decode_littleEndian {size : Nat} {raw : Int} (hsize : 0 < size) (h₀ : 0 ≤ raw)
    (h₁ : raw < 256 ^ size) (signed : Bool) :
    decode (littleEndian size raw) signed =
      if signed then fromSignMagnitude raw (8 * size : Nat) else .ok raw := by
  have hlen := length_littleEndian size raw
  have hne : littleEndian size raw ≠ [] := by
    rw [← List.length_pos_iff, hlen]
    exact hsize
  rw [decode_of_bytes hne fun b hb => mem_littleEndian hb, ofLittleEndian_littleEndian h₀ h₁, hlen]
  rfl

/-- A value that is read from `n` bytes with a sign leaves one of their bits free. -/
theorem natAbs_lt_of_decode {payload : Payload} {value : Int} (hne : payload ≠ [])
    (h : decode payload true = .ok value) : value.natAbs < 2 ^ (8 * payload.length - 1) := by
  have hbytes := bytes_of_decode h
  have hlen : 0 < 8 * payload.length := by
    have := List.length_pos_iff.2 hne
    omega
  have hbounds := ofLittleEndian_bounds hbytes
  rw [byte_pow_eq] at hbounds
  have hbits : (8 * payload.length : Int) = (8 * payload.length : Nat) := by omega
  rw [decode_of_bytes hne hbytes, if_pos rfl, hbits,
    fromSignMagnitude_eq hlen hbounds.1 hbounds.2] at h
  cases h
  -- Below the sign bit the value is the code, and from there on it is the distance to the sign bit.
  have hcast : ((2 ^ (8 * payload.length - 1) : Nat) : Int) = 2 ^ (8 * payload.length - 1) :=
    Int.natCast_pow 2 _
  have hdouble := two_pow_eq_double hlen
  split <;> omega

/-! ## Reading back -/

section Back

variable {value : Int} {signed : Bool} {bits : Nat} {payload : Payload}

/-- The bytes of the least width have room for the code. -/
theorem LeastWidth.code_bounds (h : LeastWidth value signed bits) :
    0 ≤ signMagnitude value bits ∧ signMagnitude value bits < 256 ^ (bits / 8) := by
  have hrange := (fits_unsigned_iff h.pos).1 (fits_unsigned_of_fits h.fits)
  rw [byte_pow_eq, h.eight_mul_div]
  exact signMagnitude_bounds h.pos hrange

/-- The payload of a value is read as its code over the least width. -/
theorem decode_encode (h : encode value none signed = .ok payload) (asSigned : Bool) :
    ∃ bits, LeastWidth value signed bits ∧ payload.length = bits / 8 ∧
      decode payload asSigned =
        if asSigned then fromSignMagnitude (signMagnitude value bits) bits
        else .ok (signMagnitude value bits) := by
  rcases encode_eq_ok_iff.1 h with ⟨bits, hleast, rfl⟩
  have hbytes := hleast.eight_mul_div
  have hsize : 0 < bits / 8 := by
    have hpos := hleast.pos
    omega
  refine ⟨bits, hleast, length_littleEndian _ _, ?_⟩
  rw [decode_littleEndian hsize hleast.code_bounds.1 hleast.code_bounds.2, hbytes]

theorem decode_of_encode_signed (h : encode value none true = .ok payload) :
    decode payload true = .ok value := by
  rcases decode_encode h true with ⟨bits, hleast, _, hdecode⟩
  rw [hdecode, if_pos rfl]
  exact fromSignMagnitude_signMagnitude hleast.pos (fits_signed_iff.1 hleast.fits)

theorem decode_of_encode_unsigned (hvalue : 0 ≤ value) (h : encode value none false = .ok payload) :
    decode payload false = .ok value := by
  rcases decode_encode h false with ⟨bits, _, _, hdecode⟩
  rw [hdecode, signMagnitude_of_nonneg hvalue]
  rfl

end Back

/-- A value has a signed payload if and only if its magnitude takes less than 32 bits. The payload
gives the value back, and it has as few bytes as leave a bit for the sign: shorter payloads give
other values. -/
theorem encode_signed_minimal (value : Int) :
    ((∃ fault, encode value none true = .error fault) ↔ 2 ^ 31 ≤ value.natAbs) ∧
      (value.natAbs < 2 ^ 31 → ∃ payload, encode value none true = .ok payload ∧
        (∀ b ∈ payload, 0 ≤ b ∧ b ≤ 255) ∧ decode payload true = .ok value ∧
        IsLeast {n | (n = 1 ∨ n = 2 ∨ n = 4) ∧ value.natAbs < 2 ^ (8 * n - 1)} payload.length ∧
        ∀ shorter : Payload, shorter.length = 1 ∨ shorter.length = 2 →
          shorter.length < payload.length → decode shorter true ≠ .ok value) := by
  refine ⟨?_, ?_⟩
  · rw [exists_error_iff, exists_encode_signed_iff, Nat.not_lt]
  · intro hvalue
    rcases exists_encode_signed_iff.2 hvalue with ⟨payload, hpayload⟩
    rcases decode_encode hpayload true with ⟨bits, hleast, hlen, _⟩
    have hsize := hleast.isLeast_size (P := fun n => value.natAbs < 2 ^ (8 * n - 1))
      fun n _ => fits_signed_iff
    rw [← hlen] at hsize
    refine ⟨payload, hpayload, ?_, decode_of_encode_signed hpayload, hsize, ?_⟩
    · intro b hb
      have hbyte := (encode_emittable hpayload).bytes b hb
      omega
    · -- A value that is read from fewer bytes leaves a bit of them free.
      intro shorter hshort hlt hdecode
      have hne : shorter ≠ [] := by
        rw [← List.length_pos_iff]
        omega
      have hle := hsize.2 ⟨by omega, natAbs_lt_of_decode hne hdecode⟩
      omega

/-- The least magnitude that takes four bytes, with a sign. -/
theorem encode_signed_minimal_four :
    (-32768 : Int).natAbs < 2 ^ 31 ∧ ∃ payload, encode (-32768) none true = .ok payload ∧
      payload = [0x00, 0x80, 0x00, 0x80] ∧ decode payload true = .ok (-32768) ∧
      ∀ b : Int, decode [0x00, b] true ≠ .ok (-32768) := by
  rcases (encode_signed_minimal (-32768)).2 (by decide) with ⟨payload, hpayload, _, hdecode, _, hshort⟩
  have hbytes : encode (-32768) none true = .ok [0x00, 0x80, 0x00, 0x80] := by
    decide
  cases hbytes.symm.trans hpayload
  exact ⟨by decide, _, hpayload, rfl, hdecode, fun b => hshort [0x00, b] (Or.inr rfl) (by simp)⟩

/-! ## Collisions -/

/-- Without a sign, a negative value has the payload of the value that its code is. -/
def Collides (value other : Int) : Prop :=
  value < 0 ∧ ∃ bits : Nat, fitWidth value false = .ok (bits : Int) ∧
    other = value.natAbs + 2 ^ (bits - 1)

/-- The code of a negative value takes as many bits as the value: its sign bit is the top one. -/
theorem LeastWidth.signMagnitude {value : Int} {bits : Nat} (h : LeastWidth value false bits)
    (hneg : value < 0) : LeastWidth (signMagnitude value bits) false bits := by
  have hdouble := two_pow_eq_double h.pos
  have hrange := (fits_unsigned_iff h.pos).1 h.fits
  rw [signMagnitude_of_neg hneg]
  refine ⟨⟨h.1.1, (fits_unsigned_iff h.pos).2 ⟨by omega, by omega⟩⟩, ?_⟩
  -- Smaller widths end below the sign bit, and the code has that bit set.
  rintro width ⟨hwidth, hfits⟩
  by_contra hlt
  have hpos : 0 < width := by
    have hmem : width ∈ [8, 16, 32] := hwidth
    simp only [List.mem_cons, List.not_mem_nil, or_false] at hmem
    omega
  have hroom : (2 : Int) ^ width ≤ 2 ^ (bits - 1) := by
    have hnat : 2 ^ width ≤ 2 ^ (bits - 1) := Nat.pow_le_pow_right (by decide) (by omega)
    exact_mod_cast hnat
  have hbelow := (fits_unsigned_iff hpos).1 hfits
  omega

theorem Collides.encode_eq {value other : Int} (h : Collides value other) :
    encode other none false = encode value none false := by
  rcases h with ⟨hneg, bits, hwidth, hother⟩
  have hleast := fitWidth_eq_ok_iff.1 hwidth
  have hsign : (0 : Int) < 2 ^ (bits - 1) := Int.pow_pos (by decide)
  have hcode : other = signMagnitude value bits := by
    rw [signMagnitude_of_neg hneg]
    omega
  have hvalue : encode value none false = .ok (littleEndian (bits / 8) other) :=
    encode_eq_ok_iff.2 ⟨bits, hleast, by rw [hcode]⟩
  rw [hvalue]
  refine encode_eq_ok_iff.2 ⟨bits, ?_, ?_⟩
  · rw [hcode]
    exact hleast.signMagnitude hneg
  · rw [signMagnitude_of_nonneg (by omega)]

/-- Values of one payload have one width and one code. -/
theorem signMagnitude_eq_of_encode_eq {value other : Int} {payload : Payload}
    (h : encode value none false = .ok payload) (h' : encode other none false = .ok payload) :
    ∃ bits, LeastWidth value false bits ∧ LeastWidth other false bits ∧
      signMagnitude value bits = signMagnitude other bits := by
  rcases decode_encode h false with ⟨bits, hleast, hlen, hdecode⟩
  rcases decode_encode h' false with ⟨bits', hleast', hlen', hdecode'⟩
  obtain rfl : bits = bits' := by
    rw [← hleast.eight_mul_div, ← hleast'.eight_mul_div, ← hlen, ← hlen']
  rw [hdecode] at hdecode'
  exact ⟨bits, hleast, hleast', Except.ok.inj hdecode'⟩

/-- Two values of one sign have different codes, so of two values with one payload just one is
negative. -/
theorem collides_of_encode_eq {value other : Int} {payload : Payload} (hne : value ≠ other)
    (h : encode value none false = .ok payload) (h' : encode other none false = .ok payload) :
    Collides value other ∨ Collides other value := by
  rcases signMagnitude_eq_of_encode_eq h h' with ⟨bits, hleast, hleast', hcode⟩
  -- The sign bit cancels between two negative values, and no bit is added to natural numbers.
  rcases lt_or_ge value 0 with hvalue | hvalue
  · rw [signMagnitude_of_neg hvalue] at hcode
    rcases lt_or_ge other 0 with hother | hother
    · rw [signMagnitude_of_neg hother] at hcode
      omega
    · rw [signMagnitude_of_nonneg hother] at hcode
      exact Or.inl ⟨hvalue, bits, fitWidth_eq_ok_iff.2 hleast, by omega⟩
  · rw [signMagnitude_of_nonneg hvalue] at hcode
    rcases lt_or_ge other 0 with hother | hother
    · rw [signMagnitude_of_neg hother] at hcode
      exact Or.inr ⟨hother, bits, fitWidth_eq_ok_iff.2 hleast', by omega⟩
    · rw [signMagnitude_of_nonneg hother] at hcode
      exact absurd hcode hne

theorem fits_natural_iff {value : Int} {n : Nat} (hvalue : 0 ≤ value) (hn : 0 < n) :
    fits value false (8 * n) = true ↔ value < 256 ^ n := by
  have hsign : (0 : Int) < 2 ^ (8 * n - 1) := Int.pow_pos (by decide)
  rw [fits_unsigned_iff (by omega), byte_pow_eq]
  omega

/-- The values from above `-2 ^ 31` to below `2 ^ 32` have an unsigned payload. That of a natural
number gives the number back and has as few bytes as hold it. Two values share a payload if and only
if one of them is negative and the other one is its code. -/
theorem encode_unsigned_collisions :
    (∀ value, (∃ fault, encode value none false = .error fault) ↔
      2 ^ 32 ≤ value ∨ value ≤ -2 ^ 31) ∧
    (∀ value, 0 ≤ value → value < 2 ^ 32 → ∃ payload, encode value none false = .ok payload ∧
      IsLeast {n | (n = 1 ∨ n = 2 ∨ n = 4) ∧ value < 256 ^ n} payload.length ∧
      decode payload false = .ok value) ∧
    (∀ value other payload payload', value ≠ other → encode value none false = .ok payload →
      encode other none false = .ok payload' →
      (payload = payload' ↔ Collides value other ∨ Collides other value)) := by
  refine ⟨?_, ?_, ?_⟩
  · intro value
    rw [exists_error_iff, exists_encode_unsigned_iff]
    omega
  · intro value hvalue hlt
    rcases exists_encode_unsigned_iff.2 ⟨by omega, hlt⟩ with ⟨payload, hpayload⟩
    rcases decode_encode hpayload false with ⟨bits, hleast, hlen, _⟩
    have hsize := hleast.isLeast_size fun n hn => fits_natural_iff hvalue hn
    rw [← hlen] at hsize
    exact ⟨payload, hpayload, hsize, decode_of_encode_unsigned hvalue hpayload⟩
  · intro value other payload payload' hne hvalue hother
    constructor
    · rintro rfl
      exact collides_of_encode_eq hne hvalue hother
    · rintro (hcollides | hcollides)
      · rw [hcollides.encode_eq] at hother
        exact Except.ok.inj (hvalue.symm.trans hother)
      · rw [hcollides.encode_eq] at hvalue
        exact Except.ok.inj (hvalue.symm.trans hother)

/-- Two bytes that are the payload of a negative value and of a natural number, and read as the
latter. -/
theorem encode_unsigned_collisions_two :
    encode (-200) none false = .ok [0xC8, 0x80] ∧ encode 0x80C8 none false = .ok [0xC8, 0x80] ∧
      (Collides (-200) 0x80C8 ∨ Collides 0x80C8 (-200)) ∧
      ∃ payload, encode 0x80C8 none false = .ok payload ∧ decode payload false = .ok 0x80C8 := by
  have hvalue : encode (-200) none false = .ok [0xC8, 0x80] := by
    decide
  have hother : encode 0x80C8 none false = .ok [0xC8, 0x80] := by
    decide
  rcases encode_unsigned_collisions with ⟨_, hnatural, hcollide⟩
  rcases hnatural 0x80C8 (by decide) (by decide) with ⟨payload, hpayload, _, hdecode⟩
  exact ⟨hvalue, hother, (hcollide _ _ _ _ (by decide) hvalue hother).1 rfl, payload, hpayload, hdecode⟩

end Payload
end HidDescriptor
