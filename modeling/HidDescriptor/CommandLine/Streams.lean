import HidDescriptor.Fault
import HidDescriptor.Text.LineBreak

/-!
# Standard streams

Text is read and written in bytes. Files are in UTF-8. The standard streams have the encodings that
the environment gives them, some of which cannot write every character.

- `Decoder`, `Encoder`: bytes as text, and text as bytes
- `Streams`: the encodings of the standard input and the standard output
- `inputLines`: the lines of an input
- `writePieces`: an output that is written piece by piece
-/

namespace HidDescriptor
namespace CommandLine

/-- The text of bytes up to the first that stand for no character, and why they do not. -/
abbrev Decoder := List UInt8 → List Char × Option String

/-- The bytes of a text that is written behind others, or why it has none. -/
abbrev Encoder := (written : List String) → (text : String) → Except String (List UInt8)

/-- The encoding of files, read block by block. -/
def Decoder.utf8 : Decoder := fun bytes =>
  let (cs, fault) := Text.Utf8.decodeBlocks bytes
  (cs, fault.map (·.message))

def Encoder.utf8 : Encoder := fun _ text => .ok (Text.Utf8.encode text.toList)

/-- The encodings of the standard streams, with what they do about faults. Decoding gives characters
only: an encoding that passes faulty bytes on as surrogates is not among these. -/
structure Streams where
  decode : Decoder
  encode : Encoder

def Streams.utf8 : Streams := ⟨Decoder.utf8, Encoder.utf8⟩

/-! ## Input -/

/-- The text without a carriage return at its end, which might be the first half of a line end. -/
def holdReturn (cs : List Char) : List Char :=
  if cs.getLast? = some '\r' then cs.dropLast else cs

/-- The lines of a decoded input, and the fault that ends it. Before a fault the lines are read that
are complete by then. -/
def inputLines (decoded : List Char × Option String) : List String × Option String :=
  let lines (cs : List Char) : List (List Char) := Text.splitAfterFeed (Text.unifyReturns cs)
  match decoded with
  | (cs, none) => ((lines cs).map String.ofList, none)
  | (cs, some fault) =>
      (((lines (holdReturn cs)).filter (·.getLast? = some '\n')).map String.ofList, some fault)

/-! ## Output -/

/-- Writes pieces of text in turn, behind those that have been written. The first one that cannot be
made or has no bytes ends this, and the bytes of those in front of it stay written. -/
def writePieces (encode : Encoder) (written : List String) :
    List (Except Fault String) → List UInt8 × Except Fault Unit
  | [] => ([], .ok ())
  | .error fault :: _ => ([], .error fault)
  | .ok piece :: rest =>
      match encode written piece with
      | .error message => ([], .error (.unencodable message))
      | .ok bytes =>
          let (others, result) := writePieces encode (written ++ [piece]) rest
          (bytes ++ others, result)

end CommandLine
end HidDescriptor
