import HidDescriptor.Item

/-!
# Short items

The binary form of an item: a header byte with tag, type and size code, then 0, 1, 2 or 4 payload
bytes. The size code of four bytes is three. Long items are not supported.

- `Item.header`: the header byte for a payload size
- `Item.encode`: the bytes of an item
- `ShortItem.decode`: the items of a byte sequence
-/

namespace HidDescriptor

/-! ## Encoding -/

namespace Item

def sizeCode? (size : Int) : Option Int :=
  if size = 0 then some 0
  else if size = 1 then some 1
  else if size = 2 then some 2
  else if size = 4 then some 3
  else none

def maxShortPayload : Int := 4

/-- Long items are refused, whatever they hold. -/
def encodeLong (item : Item) (size : Int) : Except Fault (List UInt8) :=
  .error (.ofCause (.longItem size item.name))

/-- The header byte of an item for a payload of `size` bytes. -/
def header (item : Item) (size : Int) : Except Fault Int :=
  match sizeCode? size with
  | some code => .ok (item.tag % 16 * 16 + item.type % 4 * 4 + code)
  | none => do
      if maxShortPayload < size then
        let _ ← item.encodeLong size
      .error (.ofCause (.payloadSize size item.name))

def byte (value : Int) : UInt8 := UInt8.ofNat value.toNat

def encode (item : Item) (payload : Payload) : Except Fault (List UInt8) :=
  match payload.find? (!Payload.isByte ·) with
  | some value => .error (.ofCause (.payloadValue value item.name))
  | none => do
      let head ← item.header payload.length
      .ok (byte head :: payload.map byte)

end Item

/-! ## Decoding -/

/-- What a header and its payload bytes say. -/
structure ShortItem where
  tag : Nat
  type : Nat
  payload : Payload
  deriving DecidableEq, Repr

namespace ShortItem

def sizeOf (code : Nat) : Nat :=
  if code = 3 then 4 else code

/-- The short items of a byte sequence, none if it ends within an item. -/
def decode : List UInt8 → Option (List ShortItem)
  | [] => some []
  | head :: rest =>
      let size := sizeOf (head.toNat % 4)
      if size ≤ rest.length then
        let payload := (rest.take size).map fun b => (b.toNat : Int)
        (decode (rest.drop size)).map (⟨head.toNat / 16, head.toNat / 4 % 4, payload⟩ :: ·)
      else none
termination_by bytes => bytes.length
decreasing_by
  rw [List.length_drop, List.length_cons]
  exact Nat.lt_succ_of_le (Nat.sub_le _ _)

end ShortItem
end HidDescriptor
