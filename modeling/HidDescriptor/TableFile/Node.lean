import HidDescriptor.TableFile.Token

/-!
# Structure of table files

The scalars and collections that tokens stand for, before scalars are given their values.

- `Node`: scalars, lists and mappings
- `Node.ofPairs`: a mapping, with the pairs of merged mappings in front
- `Node.block`, `Node.flow`: collections shown by indentation and collections in brackets
- `Node.ofTokens`: the structure of a document
-/

namespace HidDescriptor
namespace TableFile

inductive Node
  /-- A scalar that is text whatever its spelling. -/
  | text (s : List Char)
  /-- A scalar without quotes. -/
  | plain (s : List Char)
  | list (items : List Node)
  | mapping (pairs : List (Node × Node))
  /-- A mapping into which something other than mappings is merged. -/
  | brokenMapping
  deriving Repr

namespace Node

/-- A value that is left out. -/
def empty : Node := .plain []

/-! ## Mappings -/

/-- Whether a key stands for the pairs of its value. -/
def isMerge : Node → Bool
  | plain s => s = ['<', '<']
  | _ => false

/-- A key with its reserved meaning taken away: a lone equals sign is text. -/
def asKey : Node → Node
  | plain s => if s = ['='] then .text s else .plain s
  | other => other

def pairs? : Node → Option (List (Node × Node))
  | mapping pairs => some pairs
  | _ => none

/-- The pairs that a value merges into a mapping: its own, or those of its items, the last item
first. -/
def mergedPairs? : Node → Option (List (Node × Node))
  | list items => (items.mapM pairs?).map fun all => all.reverse.flatten
  | other => other.pairs?

/-- A mapping. The pairs that are merged come in front, so that the others replace them. -/
def ofPairs (pairs : List (Node × Node)) : Node :=
  let merges := pairs.filter (·.1.isMerge)
  let others := pairs.filter (!·.1.isMerge)
  match merges.mapM fun pair => pair.2.mergedPairs? with
  | none => .brokenMapping
  | some merged => .mapping (merged.flatten ++ others.map fun pair => (pair.1.asKey, pair.2))

/-! ## Collections -/

/-- Whether no value stands before a token that ends a part of a collection. -/
def isLeftOut (ends : List Token) : List Token → Bool
  | [] => false
  | t :: _ => ends.contains t

/-- The tokens after the comma that parts all but the first of the items. -/
def afterComma (first : Bool) (tokens : List Token) : Except ReadFault (List Token) :=
  match first, tokens with
  | true, tokens => .ok tokens
  | false, .comma :: rest => .ok rest
  | false, _ => .error .malformed

mutual

def flow (fuel : Nat) (tokens : List Token) : Except ReadFault (Node × List Token) :=
  match fuel, tokens with
  | _ + 1, .scalar isPlain s :: rest => .ok (if isPlain then .plain s else .text s, rest)
  | fuel + 1, .openList :: rest => do
      let (items, rest) ← flowItems fuel true rest
      .ok (.list items, rest)
  | fuel + 1, .openMapping :: rest => do
      let (pairs, rest) ← flowPairs fuel true rest
      .ok (.ofPairs pairs, rest)
  | _, _ => .error .malformed

/-- A scalar or a collection in brackets, or nothing before one of the given tokens. -/
def flowOrEmpty (fuel : Nat) (ends tokens : List Token) : Except ReadFault (Node × List Token) :=
  match fuel with
  | 0 => .error .malformed
  | fuel + 1 => if isLeftOut ends tokens then .ok (.empty, tokens) else flow fuel tokens

def flowValue (fuel : Nat) (close : Token) (tokens : List Token) :
    Except ReadFault (Node × List Token) :=
  match fuel, tokens with
  | fuel + 1, .value :: rest => flowOrEmpty fuel [.comma, close] rest
  | _, tokens => .ok (.empty, tokens)

/-- The items of a list in brackets up to its end. An item with a key is a mapping of one pair. -/
def flowItems (fuel : Nat) (first : Bool) (tokens : List Token) :
    Except ReadFault (List Node × List Token) :=
  match fuel, tokens with
  | 0, _ => .error .malformed
  | _ + 1, .closeList :: rest => .ok ([], rest)
  | fuel + 1, tokens => do
      match ← afterComma first tokens with
      | .closeList :: rest => .ok ([], rest)
      | .key :: rest => do
          let (key, rest) ← flowOrEmpty fuel [.value, .comma, .closeList] rest
          let (value, rest) ← flowValue fuel .closeList rest
          let (items, rest) ← flowItems fuel false rest
          .ok (.ofPairs [(key, value)] :: items, rest)
      | tokens => do
          let (item, rest) ← flow fuel tokens
          let (items, rest) ← flowItems fuel false rest
          .ok (item :: items, rest)

def flowPairs (fuel : Nat) (first : Bool) (tokens : List Token) :
    Except ReadFault (List (Node × Node) × List Token) :=
  match fuel, tokens with
  | 0, _ => .error .malformed
  | _ + 1, .closeMapping :: rest => .ok ([], rest)
  | fuel + 1, tokens => do
      match ← afterComma first tokens with
      | .closeMapping :: rest => .ok ([], rest)
      | .key :: rest => do
          let (key, rest) ← flowOrEmpty fuel [.value, .comma, .closeMapping] rest
          let (value, rest) ← flowValue fuel .closeMapping rest
          let (pairs, rest) ← flowPairs fuel false rest
          .ok ((key, value) :: pairs, rest)
      | tokens => do
          -- A key without a colon has no value.
          let (key, rest) ← flow fuel tokens
          let (pairs, rest) ← flowPairs fuel false rest
          .ok ((key, .empty) :: pairs, rest)

end

def startsEntry : List Token → Bool
  | .entry :: _ => true
  | _ => false

mutual

/-- A scalar or a collection. A list need not lie deeper than the mapping around it, and then has no
token at its start and end. -/
def block (fuel : Nat) (inMapping : Bool) (tokens : List Token) :
    Except ReadFault (Node × List Token) :=
  match fuel, tokens with
  | 0, _ => .error .malformed
  | fuel + 1, .listStart :: rest => do
      match ← entries fuel [.entry, .blockEnd] rest with
      | (items, .blockEnd :: rest) => .ok (.list items, rest)
      | _ => .error .malformed
  | fuel + 1, .mappingStart :: rest => do
      let (pairs, rest) ← keyedPairs fuel rest
      .ok (.ofPairs pairs, rest)
  | fuel + 1, tokens =>
      if inMapping && startsEntry tokens then do
        let (items, rest) ← entries fuel [.entry, .key, .value, .blockEnd] tokens
        .ok (.list items, rest)
      else flow (fuel + 1) tokens

/-- A scalar or a collection, or nothing before one of the given tokens. -/
def blockOrEmpty (fuel : Nat) (inMapping : Bool) (ends tokens : List Token) :
    Except ReadFault (Node × List Token) :=
  match fuel with
  | 0 => .error .malformed
  | fuel + 1 =>
      if isLeftOut ends tokens then .ok (.empty, tokens) else block fuel inMapping tokens

/-- The entries of a list. An entry may be left out before one of the given tokens. -/
def entries (fuel : Nat) (ends tokens : List Token) : Except ReadFault (List Node × List Token) :=
  match fuel, tokens with
  | 0, _ => .error .malformed
  | fuel + 1, .entry :: rest => do
      let (item, rest) ← blockOrEmpty fuel false ends rest
      let (items, rest) ← entries fuel ends rest
      .ok (item :: items, rest)
  | _ + 1, tokens => .ok ([], tokens)

/-- The pairs of a mapping that is shown by indentation, up to its end. -/
def keyedPairs (fuel : Nat) (tokens : List Token) :
    Except ReadFault (List (Node × Node) × List Token) :=
  match fuel, tokens with
  | fuel + 1, .key :: rest => do
      let (key, rest) ← blockOrEmpty fuel true [.key, .value, .blockEnd] rest
      let (value, rest) ←
        match rest with
        | .value :: rest => blockOrEmpty fuel true [.key, .value, .blockEnd] rest
        | rest => .ok (.empty, rest)
      let (pairs, rest) ← keyedPairs fuel rest
      .ok ((key, value) :: pairs, rest)
  | _ + 1, .blockEnd :: rest => .ok ([], rest)
  | _, _ => .error .malformed

end

/-! ## Documents -/

/-- The structure of a document, without the mark before it. Marks may follow it. Every second step
takes a token. -/
def content (tokens : List Token) : Except ReadFault Node := do
  let (node, rest) ← block (3 * tokens.length + 3) false tokens
  if rest.all (· = .documentEnd) then .ok node else .error .malformed

/-- The structure of the only document of a file. It may be left out. -/
def ofTokens : List Token → Except ReadFault Node
  | [] => .ok .empty
  | .documentStart :: rest =>
      if rest.all (· = .documentEnd) then .ok .empty else content rest
  | tokens => content tokens

end Node
end TableFile
end HidDescriptor
