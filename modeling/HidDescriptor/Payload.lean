import HidDescriptor.Dictionary
import HidDescriptor.Literal

/-!
# Payloads

The values that follow the header of an item, least significant byte first. A negative value is
written as its magnitude with the top bit set.

- `toSignMagnitude`, `fromSignMagnitude`: the sign convention over a number of bits
- `fitWidth`: the smallest width of a short item that holds a value
- `encode`, `decode`: values to bytes and back
- `resolve`: the payload of a literal or of a name of a table
- `unionBits`, `composeFlags`: the union of flag values
-/

namespace HidDescriptor

/-- Payload values, least significant first. Only values below 256 can be emitted. -/
abbrev Payload := List Int

/-- A lookup table: names and their codes. -/
abbrev Table := Dictionary Int

namespace Payload

/-! ## Sign and magnitude -/

def powerOfTwo (n : Int) : Except Fault Int :=
  if n < 0 then .error .negativeShift else .ok (Nat.pow 2 n.toNat)

/-- Writes a value over `bits` bits: a negative one as its magnitude plus the sign bit, which is
the top bit. The magnitude lies below the sign bit, so the sum sets that bit and no other. -/
def toSignMagnitude (value bits : Int) : Except Fault Int :=
  if 0 ≤ value then do
    let bound ← powerOfTwo bits
    if bound ≤ value then .error (.ofCause (.doesNotFit value bits)) else .ok value
  else do
    let signBit ← powerOfTwo (bits - 1)
    if signBit ≤ -value then .error (.ofCause (.doesNotFit value bits)) else .ok (-value + signBit)

/-- Reads a value over `bits` bits: with the sign bit set, the negated lower bits. Integers count
as endless two's complement, so division and remainder by the sign bit give its bit and the bits
below it. -/
def fromSignMagnitude (raw bits : Int) : Except Fault Int := do
  let signBit ← powerOfTwo (bits - 1)
  if raw / signBit % 2 = 1 then .ok (-(raw % signBit)) else .ok raw

/-! ## Widths -/

/-- The payload widths of short items, in bits. -/
def widths : List Nat := [8, 16, 32]

/-- Whether a value fits a width. Signed values leave the top bit to the sign. -/
def fits (value : Int) (signed : Bool) (bits : Nat) : Bool :=
  (decide (0 ≤ value) && !signed && decide (value < Nat.pow 2 bits)) ||
    decide (value.natAbs < Nat.pow 2 (bits - 1))

def fitWidth (value : Int) (signed : Bool) : Except Fault Int :=
  match widths.find? (fits value signed) with
  | some bits => .ok bits
  | none => .error (.ofCause (.doesNotFit value 32))

/-! ## Bytes -/

/-- The lowest `size` bytes of a value, least significant first. -/
def littleEndian : (size : Nat) → Int → Payload
  | 0, _ => []
  | size + 1, value => value % 256 :: littleEndian size (value / 256)

def ofLittleEndian : Payload → Int
  | [] => 0
  | b :: rest => b + 256 * ofLittleEndian rest

/-- Encodes a value over the given number of bits, or over the smallest width that holds it. -/
def encode (value : Int) (bits : Option Int) (signed : Bool) : Except Fault Payload := do
  let bits ←
    match bits with
    | some bits => .ok bits
    | none => fitWidth value signed
  let raw ← toSignMagnitude value bits
  .ok (littleEndian ((bits + 7) / 8).toNat raw)

def isByte (value : Int) : Bool :=
  decide (0 ≤ value) && decide (value ≤ 0xFF)

def decode (payload : Payload) (signed : Bool) : Except Fault Int :=
  if payload.isEmpty then .ok 0
  else if !payload.all isByte then .error .byteRange
  else
    let value := ofLittleEndian payload
    if signed then fromSignMagnitude value (8 * payload.length) else .ok value

/-! ## Names -/

/-- The payload of a token: a literal stands for itself, all else is looked up. Both are unsigned.
There is none for an unknown name. -/
def resolve (table : Option Table) (token : String) (bits : Option Int) :
    Except Fault (Option Payload) := do
  match ← Literal.read token with
  | some value => (encode value bits false).map some
  | none =>
      match table.bind (·.get? token) with
      | some code => (encode code bits false).map some
      | none => .ok none

/-- The union of the bits of two integers as endless two's complement. -/
def unionBits : Int → Int → Int
  -- `.negSucc a` is the complement of `a`, and a union is the complement of what complements share.
  | .ofNat a, .ofNat b => .ofNat (a ||| b)
  | .ofNat a, .negSucc b => .negSucc (b - (a &&& b))
  | .negSucc a, .ofNat b => .negSucc (a - (a &&& b))
  | .negSucc a, .negSucc b => .negSucc (a &&& b)

/-- The union of the values of flags, none if a flag is unknown. -/
def composeFlags (table : Table) (flags : List String) : Option Int :=
  flags.foldlM (fun union flag => (table.get? flag).map (unionBits union)) 0

/-- A union fails only at a flag that the table lacks, so there is a first one. -/
theorem isSome_find?_of_composeFlags_eq_none {table : Table} {flags : List String}
    (h : composeFlags table flags = none) : (flags.find? (!table.contains ·)).isSome := by
  unfold composeFlags at h
  generalize (0 : Int) = union at h
  induction flags generalizing union with
  | nil =>
      simp at h
  | cons flag rest ih =>
      cases hflag : table.contains flag with
      | false =>
          simp [hflag]
      | true =>
          obtain ⟨code, hcode⟩ := Option.isSome_iff_exists.1
            ((Dictionary.contains_eq_isSome_get? table flag).symm.trans hflag)
          have hrest : rest.foldlM (fun union flag => (table.get? flag).map (unionBits union))
              (unionBits union code) = none := by
            rw [List.foldlM_cons, hcode] at h
            exact h
          simpa [hflag] using ih (unionBits union code) hrest

end Payload
end HidDescriptor
