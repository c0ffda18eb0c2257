import HidDescriptor.Payload
import Mathlib.Algebra.Ring.Int.Defs
import Mathlib.Algebra.Ring.Nat

/-!
# Payload bytes

What the encoder of values guarantees about its bytes:

- `Payload.Emittable`: the payloads of short items
- `Payload.toSignMagnitude_eq_ok_iff`: the values with a code over a number of bits
- `Payload.fitWidth_bounds`: a chosen width holds the value
- `Payload.ofLittleEndian_littleEndian`: a value that fits is not cut
- `Payload.exists_code_of_encode`: no value overflows its bytes
- `Payload.encode_emittable`: an encoded value is the payload of a short item
- `Payload.encode_eq_error_iff`: which values have no payload, and with which fault
- `Table.Denotes`, `Payload.resolve_eq_some_iff`: payloads of literals and names
-/

namespace HidDescriptor

/-! ## Computations that may fail -/

section Checked

variable {α β : Type} {x : Except Fault α} {k : α → Except Fault β} {f : α → β} {b : β}
  {fault : Fault}

theorem bind_eq_ok_iff : x >>= k = .ok b ↔ ∃ a, x = .ok a ∧ k a = .ok b := by
  cases x with
  | error fault =>
      simp [Bind.bind, Except.bind]
  | ok a =>
      simp [Bind.bind, Except.bind]

theorem bind_eq_error_iff :
    x >>= k = .error fault ↔ x = .error fault ∨ ∃ a, x = .ok a ∧ k a = .error fault := by
  cases x with
  | error fault =>
      simp [Bind.bind, Except.bind]
  | ok a =>
      simp [Bind.bind, Except.bind]

theorem map_eq_ok_iff : x.map f = .ok b ↔ ∃ a, x = .ok a ∧ f a = b := by
  cases x with
  | error fault =>
      simp [Except.map]
  | ok a =>
      simp [Except.map]

theorem map_eq_error_iff : x.map f = .error fault ↔ x = .error fault := by
  cases x with
  | error fault =>
      simp [Except.map]
  | ok a =>
      simp [Except.map]

/-- A computation fails if and only if it has no result. -/
theorem exists_error_iff : (∃ fault, x = .error fault) ↔ ¬ ∃ a, x = .ok a := by
  cases x with
  | error fault =>
      simp
  | ok a =>
      simp

theorem guard_eq_ok_iff {c : Prop} [Decidable c] {a : α} :
    (if c then .error fault else x) = .ok a ↔ ¬ c ∧ x = .ok a := by
  split
  next h =>
    simp [h]
  next h =>
    simp [h]

end Checked

namespace Payload

/-! ## Payloads of short items -/

/-- Zero, one, two or four bytes. -/
structure Emittable (payload : Payload) : Prop where
  bytes : ∀ b ∈ payload, 0 ≤ b ∧ b < 256
  size : payload.length = 0 ∨ payload.length = 1 ∨ payload.length = 2 ∨ payload.length = 4

theorem isByte_iff {b : Int} : isByte b = true ↔ 0 ≤ b ∧ b < 256 := by
  simp only [isByte, Bool.and_eq_true, decide_eq_true_eq]
  omega

theorem emittable_nil : Emittable [] :=
  ⟨by simp, Or.inl rfl⟩

theorem emittable_singleton {b : Int} (h₀ : 0 ≤ b) (h₁ : b < 256) : Emittable [b] := by
  refine ⟨?_, Or.inr (Or.inl rfl)⟩
  intro c hc
  rw [List.mem_singleton] at hc
  subst hc
  exact ⟨h₀, h₁⟩

/-! ## Little endian -/

theorem length_littleEndian (size : Nat) (value : Int) :
    (littleEndian size value).length = size := by
  induction size generalizing value with
  | zero =>
      rfl
  | succ size ih =>
      simp [littleEndian, ih]

theorem mem_littleEndian {size : Nat} {value b : Int} (h : b ∈ littleEndian size value) :
    0 ≤ b ∧ b < 256 := by
  induction size generalizing value with
  | zero =>
      simp [littleEndian] at h
  | succ size ih =>
      rcases List.mem_cons.1 h with rfl | h
      · exact ⟨Int.emod_nonneg _ (by omega), Int.emod_lt_of_pos _ (by omega)⟩
      · exact ih h

/-- Bytes enough for a value give it back. -/
theorem ofLittleEndian_littleEndian {size : Nat} {value : Int} (h₀ : 0 ≤ value)
    (h₁ : value < 256 ^ size) : ofLittleEndian (littleEndian size value) = value := by
  induction size generalizing value with
  | zero =>
      simp [littleEndian, ofLittleEndian] at h₁ ⊢
      omega
  | succ size ih =>
      -- The lowest byte is cut off, and the bytes that are left are enough for the quotient.
      have hdiv : value / 256 < 256 ^ size := by
        rw [Int.pow_succ] at h₁
        exact Int.ediv_lt_of_lt_mul (by omega) h₁
      have hrest := ih (Int.ediv_nonneg h₀ (by omega)) hdiv
      simp only [littleEndian, ofLittleEndian, hrest]
      omega

/-! ## Sign and magnitude -/

theorem powerOfTwo_natCast (n : Nat) : powerOfTwo n = .ok ((2 ^ n : Nat) : Int) := by
  simp [powerOfTwo]

/-- The code of a value over `bits` bits: the value itself, or its magnitude and the sign bit. -/
def signMagnitude (value : Int) (bits : Nat) : Int :=
  if 0 ≤ value then value else -value + 2 ^ (bits - 1)

theorem signMagnitude_of_nonneg {value : Int} (h : 0 ≤ value) (bits : Nat) :
    signMagnitude value bits = value :=
  if_pos h

theorem signMagnitude_of_neg {value : Int} (h : value < 0) (bits : Nat) :
    signMagnitude value bits = -value + 2 ^ (bits - 1) :=
  if_neg (Int.not_le.2 h)

theorem two_pow_eq_double {bits : Nat} (hpos : 0 < bits) : (2 : Int) ^ bits = 2 * 2 ^ (bits - 1) := by
  obtain ⟨n, rfl⟩ : ∃ n, bits = n + 1 := ⟨bits - 1, by omega⟩
  rw [Nat.add_sub_cancel, Int.pow_succ, Int.mul_comm]

/-- Values from above the negated sign bit to below twice the sign bit have a code. -/
theorem toSignMagnitude_eq_ok_iff {value raw : Int} {bits : Nat} (hpos : 0 < bits) :
    toSignMagnitude value bits = .ok raw ↔
      (-2 ^ (bits - 1) < value ∧ value < 2 ^ bits) ∧ raw = signMagnitude value bits := by
  have hbits : (bits : Int) - 1 = (bits - 1 : Nat) := by omega
  have hdouble := two_pow_eq_double hpos
  have hsign : (0 : Int) < 2 ^ (bits - 1) := Int.pow_pos (by decide)
  unfold toSignMagnitude signMagnitude
  by_cases hvalue : 0 ≤ value
  · rw [if_pos hvalue, if_pos hvalue, powerOfTwo_natCast]
    refine guard_eq_ok_iff.trans (and_congr ?_ (by simp [eq_comm]))
    push_cast
    omega
  · rw [if_neg hvalue, if_neg hvalue, hbits, powerOfTwo_natCast]
    refine guard_eq_ok_iff.trans (and_congr ?_ (by simp [eq_comm]))
    push_cast
    omega

/-- A code over `bits` bits lies below the power of two for them. -/
theorem signMagnitude_bounds {value : Int} {bits : Nat} (hpos : 0 < bits)
    (h : -2 ^ (bits - 1) < value ∧ value < 2 ^ bits) :
    0 ≤ signMagnitude value bits ∧ signMagnitude value bits < 2 ^ bits := by
  have hdouble := two_pow_eq_double hpos
  unfold signMagnitude
  split <;> omega

/-! ## Widths -/

theorem fits_signed_iff {value : Int} {bits : Nat} :
    fits value true bits = true ↔ value.natAbs < 2 ^ (bits - 1) := by
  simp [fits]

/-- Without a sign to keep, a width holds what has a code over it. -/
theorem fits_unsigned_iff {value : Int} {bits : Nat} (hpos : 0 < bits) :
    fits value false bits = true ↔ -2 ^ (bits - 1) < value ∧ value < 2 ^ bits := by
  have hdouble := two_pow_eq_double hpos
  have hsign : (0 : Int) < 2 ^ (bits - 1) := Int.pow_pos (by decide)
  have hcast : ((2 ^ (bits - 1) : Nat) : Int) = 2 ^ (bits - 1) := Int.natCast_pow 2 (bits - 1)
  simp only [fits, Bool.not_false, Bool.and_true, Bool.or_eq_true, Bool.and_eq_true,
    decide_eq_true_eq, Nat.pow_eq]
  push_cast
  omega

/-- A width that leaves room for the sign holds the value without it too. -/
theorem fits_unsigned_of_fits {value : Int} {signed : Bool} {bits : Nat}
    (h : fits value signed bits = true) : fits value false bits = true := by
  cases signed with
  | false =>
      exact h
  | true =>
      have hroom := fits_signed_iff.1 h
      simp [fits, hroom]

/-- Signed or not, a width that holds a value has a code for it. -/
theorem toSignMagnitude_of_fits {value : Int} {signed : Bool} {bits : Nat} (hpos : 0 < bits)
    (h : fits value signed bits = true) :
    toSignMagnitude value bits = .ok (signMagnitude value bits) :=
  (toSignMagnitude_eq_ok_iff hpos).2 ⟨(fits_unsigned_iff hpos).1 (fits_unsigned_of_fits h), rfl⟩

/-- The width that is chosen is one of a short item, and it holds the value. -/
theorem fitWidth_bounds {value width : Int} {signed : Bool} (h : fitWidth value signed = .ok width) :
    ∃ bits : Nat, width = bits ∧ (bits = 8 ∨ bits = 16 ∨ bits = 32) ∧
      fits value signed bits = true := by
  unfold fitWidth at h
  split at h
  next bits hfind =>
    cases h
    have hmem : bits ∈ [8, 16, 32] := List.mem_of_find?_eq_some hfind
    refine ⟨bits, rfl, by simpa using hmem, ?_⟩
    simpa using List.find?_some hfind
  next =>
    cases h

theorem fitWidth_eq_error_iff {value : Int} {signed : Bool} {fault : Fault} :
    fitWidth value signed = .error fault ↔
      (∀ bits ∈ widths, fits value signed bits = false) ∧
        fault = .ofCause (.doesNotFit value 32) := by
  unfold fitWidth
  split
  next bits hfind =>
    have hfits : fits value signed bits = true := by simpa using List.find?_some hfind
    constructor
    · intro h
      cases h
    · rintro ⟨hnone, _⟩
      rw [hnone bits (List.mem_of_find?_eq_some hfind)] at hfits
      cases hfits
  next hfind =>
    rw [List.find?_eq_none] at hfind
    constructor
    · intro h
      exact ⟨fun bits hbits => by simpa using hfind bits hbits, (Except.error.inj h).symm⟩
    · rintro ⟨_, hfault⟩
      rw [hfault]

/-! ## Encoded values -/

/-- An encoded value is written over a width of a short item, and all of it is in the bytes. -/
theorem encode_eq_ok {value : Int} {signed : Bool} {payload : Payload}
    (h : encode value none signed = .ok payload) :
    ∃ (bits : Nat) (raw : Int), (bits = 8 ∨ bits = 16 ∨ bits = 32) ∧
      toSignMagnitude value bits = .ok raw ∧ 0 ≤ raw ∧ raw < 256 ^ (bits / 8) ∧
      payload = littleEndian (bits / 8) raw := by
  rcases bind_eq_ok_iff.1 h with ⟨width, hwidth, h⟩
  rcases fitWidth_bounds hwidth with ⟨bits, rfl, hbits, _⟩
  rcases bind_eq_ok_iff.1 h with ⟨raw, hraw, h⟩
  cases h
  -- Widths are whole bytes, so the bits of the value and the bytes of the payload agree.
  have hsize : (((bits : Int) + 7) / 8).toNat = bits / 8 := by
    rcases hbits with rfl | rfl | rfl <;> rfl
  have hroom : (2 : Int) ^ bits = 256 ^ (bits / 8) := by
    rcases hbits with rfl | rfl | rfl <;> rfl
  rcases (toSignMagnitude_eq_ok_iff (by omega)).1 hraw with ⟨hrange, rfl⟩
  have hbounds := signMagnitude_bounds (by omega) hrange
  rw [hroom] at hbounds
  exact ⟨bits, _, hbits, hraw, hbounds.1, hbounds.2, by rw [hsize]⟩

/-- No value overflows the bytes of its payload. -/
theorem exists_code_of_encode {value : Int} {signed : Bool} {payload : Payload}
    (h : encode value none signed = .ok payload) :
    ∃ bits raw : Int, toSignMagnitude value bits = .ok raw ∧ 0 ≤ raw ∧
      raw < 256 ^ payload.length ∧ ofLittleEndian payload = raw := by
  rcases encode_eq_ok h with ⟨bits, raw, _, hraw, hnonneg, hroom, rfl⟩
  refine ⟨bits, raw, hraw, hnonneg, ?_, ofLittleEndian_littleEndian hnonneg hroom⟩
  rwa [length_littleEndian]

theorem encode_emittable {value : Int} {signed : Bool} {payload : Payload}
    (h : encode value none signed = .ok payload) : Emittable payload := by
  rcases encode_eq_ok h with ⟨bits, raw, hbits, _, _, _, rfl⟩
  refine ⟨fun b hb => mem_littleEndian hb, ?_⟩
  rw [length_littleEndian]
  rcases hbits with rfl | rfl | rfl <;> simp

/-- Only a value without a width has no payload: every chosen width can write its value. -/
theorem encode_eq_error_iff {value : Int} {signed : Bool} {fault : Fault} :
    encode value none signed = .error fault ↔
      (∀ bits ∈ widths, fits value signed bits = false) ∧
        fault = .ofCause (.doesNotFit value 32) := by
  rw [← fitWidth_eq_error_iff]
  refine bind_eq_error_iff.trans ⟨?_, Or.inl⟩
  rintro (h | ⟨width, hwidth, h⟩)
  · exact h
  · -- Once a width is chosen nothing can fail.
    rcases fitWidth_bounds hwidth with ⟨bits, rfl, hbits, hfits⟩
    simp only [toSignMagnitude_of_fits (by omega) hfits] at h
    cases h

end Payload

/-! ## Literals and names -/

/-- What a token stands for beside a table: a literal for itself, and all else for its code. -/
inductive Table.Denotes (table : Table) (token : String) (value : Int) : Prop
  | literal (hread : Literal.read token = .ok (some value))
  | code (hread : Literal.read token = .ok none) (hcode : table.get? token = some value)

theorem Payload.resolve_eq_some_iff {table : Table} {token : String} {payload : Payload} :
    resolve (some table) token none = .ok (some payload) ↔
      ∃ value, table.Denotes token value ∧ encode value none false = .ok payload := by
  have hsome (value : Int) : (encode value none false).map some = .ok (some payload) ↔
      encode value none false = .ok payload := by
    simp [map_eq_ok_iff]
  constructor
  · intro h
    rcases bind_eq_ok_iff.1 h with ⟨literal, hread, h⟩
    cases literal with
    | some value =>
        exact ⟨value, .literal hread, (hsome value).1 h⟩
    | none =>
        cases hcode : table.get? token with
        | some code =>
            simp only [Option.bind_some, hcode] at h
            exact ⟨code, .code hread hcode, (hsome code).1 h⟩
        | none =>
            simp only [Option.bind_some, hcode] at h
            cases h
  · rintro ⟨value, hread | ⟨hread, hcode⟩, hpayload⟩
    · exact bind_eq_ok_iff.2 ⟨some value, hread, (hsome value).2 hpayload⟩
    · refine bind_eq_ok_iff.2 ⟨none, hread, ?_⟩
      simp only [Option.bind_some, hcode]
      exact (hsome value).2 hpayload

end HidDescriptor
