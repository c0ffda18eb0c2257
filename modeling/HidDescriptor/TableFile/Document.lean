import HidDescriptor.TableFile.Node
import HidDescriptor.TableFile.Scalar
import HidDescriptor.Text.LineBreak

/-!
# Table files

A table file is a list of entries, a mapping, or a single value, in a subset of YAML 1.1 without
directives, tags, anchors and literal blocks.

- `Node.faults`: what is wrong with scalars and keys, from the outside inwards
- `Node.datum`: the value of a document without faults
- `document`: the value of a text
- `read`: the value of the bytes of a file
-/

namespace HidDescriptor
namespace TableFile

/-! ## Faults -/

def joinLevels : List (List ReadFault) → List (List ReadFault) → List (List ReadFault)
  | [], levels => levels
  | levels, [] => levels
  | level :: levels, level' :: levels' => (level ++ level') :: joinLevels levels levels'

def plainFaults (s : List Char) : List (List ReadFault) :=
  match plainValue s with
  | .ok _ => []
  | .error fault => [[fault]]

/-- The fault of a key. Collections are no keys. -/
def Node.keyFaults : Node → List (List ReadFault)
  | text _ => []
  | plain s => plainFaults s
  | _ => [[.malformed]]

mutual

/-- The faults of a document at each depth. The items of a collection lie one level deeper. -/
def Node.faults : Node → List (List ReadFault)
  | .text _ => []
  | .plain s => plainFaults s
  | .list items => [] :: Node.itemFaults items
  | .mapping pairs => [] :: Node.pairFaults pairs
  -- It is found when the pairs are entered, one level down.
  | .brokenMapping => [[], [.malformed]]

def Node.itemFaults : List Node → List (List ReadFault)
  | [] => []
  | item :: rest => joinLevels item.faults (Node.itemFaults rest)

def Node.pairFaults : List (Node × Node) → List (List ReadFault)
  | [] => []
  | (key, value) :: rest =>
      joinLevels key.keyFaults (joinLevels value.faults (Node.pairFaults rest))

end

/-! ## Values -/

/-- Whether two keys of a file are one and the same. The undefined number is one key. -/
def sameKey (a b : Datum) : Bool :=
  match a, b with
  | .real .undefined, .real .undefined => true
  | a, b => a.sameKey b

mutual

/-- The value of a document without faults. Of equal keys the first keeps its place, and the last
value counts. -/
def Node.datum : Node → Datum
  | .text s => .text (String.ofList s)
  -- Faulty nodes have no value. What stands here for them is not used.
  | .plain s => (plainValue s).toOption.getD .null
  | .list items => .list (Node.itemData items)
  | .mapping pairs => .map (Node.pairData [] pairs)
  | .brokenMapping => .null

def Node.itemData : List Node → List Datum
  | [] => []
  | item :: rest => item.datum :: Node.itemData rest

def Node.pairData (entered : List (Datum × Datum)) : List (Node × Node) → List (Datum × Datum)
  | [] => entered
  | (key, value) :: rest =>
      Node.pairData (Datum.insertPair sameKey key.datum value.datum entered) rest

end

/-! ## Documents -/

/-- The value of a text. Of several faults the outermost counts, and of those the first. -/
def document (cs : List Char) : Except ReadFault Datum :=
  if !cs.all isAllowed then .error .malformed
  else do
    let tokens ← Token.ofText cs
    let node ← Node.ofTokens tokens
    match node.faults.flatten with
    | [] => .ok node.datum
    | fault :: _ => .error fault

def read (bytes : List UInt8) : Except ReadFault Datum :=
  match Text.Utf8.decodeBlocks bytes with
  | (_, some fault) => .error (.encoding fault)
  | (cs, none) => document (Text.unifyReturns cs)

end TableFile
end HidDescriptor
