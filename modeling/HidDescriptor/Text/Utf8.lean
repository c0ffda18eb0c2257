/-!
# UTF-8

Decoding of bytes, with the place and nature of the first fault.

- `Utf8.Fault`: where decoding stops and why
- `Utf8.decode`: the text up to the end or up to the first fault
- `Utf8.decodeBlocks`: the same for bytes that are read block by block
- `Utf8.encode`: the bytes of a text
-/

namespace HidDescriptor
namespace Text
namespace Utf8

/-- Why a byte sequence is no character. -/
inductive Defect
  | startByte
  | continuationByte
  | unexpectedEnd
  deriving DecidableEq, Repr

/-- A faulty sequence: its first byte, the position of that byte, and how many of its bytes belong
together. -/
structure Fault where
  byte : UInt8
  position : Nat
  length : Nat
  defect : Defect
  deriving DecidableEq, Repr

/-- The length of the sequence that a byte starts, and the bounds of the byte after it. -/
def lead? (b : UInt8) : Option (Nat × Nat × Nat) :=
  let n := b.toNat
  -- The bounds leave out overlong forms, surrogates and what lies above U+10FFFF.
  if 0xC2 ≤ n && n ≤ 0xDF then some (2, 0x80, 0xBF)
  else if n == 0xE0 then some (3, 0xA0, 0xBF)
  else if n == 0xED then some (3, 0x80, 0x9F)
  else if 0xE1 ≤ n && n ≤ 0xEF then some (3, 0x80, 0xBF)
  else if n == 0xF0 then some (4, 0x90, 0xBF)
  else if 0xF1 ≤ n && n ≤ 0xF3 then some (4, 0x80, 0xBF)
  else if n == 0xF4 then some (4, 0x80, 0x8F)
  else none

/-- Reads `count` continuation bytes, the first of them within the bounds. Gives the value and the
rest, or the number of bytes that fit and what is wrong with the next one. -/
def continuation : (count value low high : Nat) → List UInt8 → (read : Nat) →
    Except (Nat × Defect) (Nat × List UInt8)
  | 0, value, _, _, rest, _ => .ok (value, rest)
  | _ + 1, _, _, _, [], read => .error (read, .unexpectedEnd)
  | count + 1, value, low, high, b :: rest, read =>
      if low ≤ b.toNat && b.toNat ≤ high then
        continuation count (value * 64 + b.toNat % 64) 0x80 0xBF rest (read + 1)
      else .error (read, .continuationByte)

def character (position : Nat) (b : UInt8) (rest : List UInt8) :
    Except Fault (Char × List UInt8) :=
  if b.toNat < 0x80 then .ok (Char.ofNat b.toNat, rest)
  else
    match lead? b with
    | none => .error ⟨b, position, 1, .startByte⟩
    | some (size, low, high) =>
        let payload := b.toNat % (if size = 2 then 0x20 else if size = 3 then 0x10 else 0x08)
        match continuation (size - 1) payload low high rest 1 with
        | .ok (value, rest) => .ok (Char.ofNat value, rest)
        | .error (read, defect) => .error ⟨b, position, read, defect⟩

/-- Decodes bytes from a position on, at most `fuel` characters of them. -/
def decodeFrom : (fuel position : Nat) → List UInt8 → List Char × Option Fault
  | 0, _, _ => ([], none)
  | _ + 1, _, [] => ([], none)
  | fuel + 1, position, b :: rest =>
      match character position b rest with
      | .error fault => ([], some fault)
      | .ok (c, rest') =>
          let (cs, fault) := decodeFrom fuel (position + 1 + (rest.length - rest'.length)) rest'
          (c :: cs, fault)

/-- The text of the bytes up to the first fault, and that fault. A character takes at least one
byte, so the length of the input bounds the number of steps. -/
def decode (bytes : List UInt8) : List Char × Option Fault :=
  decodeFrom bytes.length 0 bytes

/-! ## Blocks -/

def blockSize : Nat := 8192

def blocksFrom : (fuel : Nat) → List UInt8 → List (List UInt8)
  | 0, _ => []
  | _ + 1, [] => []
  | fuel + 1, bytes => bytes.take blockSize :: blocksFrom fuel (bytes.drop blockSize)

/-- The blocks of a byte sequence. A block has at least one byte. -/
def blocks (bytes : List UInt8) : List (List UInt8) :=
  blocksFrom bytes.length bytes

/-- Decodes blocks in turn. A sequence that the end of a block cuts off is `held` for the next one.
A fault spoils its whole block, and its position is counted from the bytes that were held when the
block was read. -/
def decodeFromBlocks (held : List UInt8) : List (List UInt8) → List Char × Option Fault
  | [] => decode held
  | block :: rest =>
      let bytes := held ++ block
      match decode bytes with
      | (cs, none) =>
          let (more, fault) := decodeFromBlocks [] rest
          (cs ++ more, fault)
      | (cs, some fault) =>
          if fault.defect = .unexpectedEnd then
            let (more, fault) := decodeFromBlocks (bytes.drop fault.position) rest
            (cs ++ more, fault)
          else ([], some fault)

/-- The text of bytes that are read block by block, up to the block of the first fault, and that
fault. -/
def decodeBlocks (bytes : List UInt8) : List Char × Option Fault :=
  decodeFromBlocks [] (blocks bytes)

def encode (cs : List Char) : List UInt8 :=
  cs.flatMap String.utf8EncodeChar

end Utf8
end Text
end HidDescriptor
