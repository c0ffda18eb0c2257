import HidDescriptor.Text.LowerCase.Data
import HidDescriptor.Text.Ranges

/-!
# Lower case

Full lower-casing of text. Every character has a lower case of its own but for two: the capital
I with a dot becomes two characters, and the capital sigma has a second form at the end of a word.

- `lowerLetter`: the lower case of a character that stands alone
- `lower`: the lower case of a text
-/

namespace HidDescriptor
namespace Text

/-- Whether a character has case and is not passed over by the sigma rule. -/
def isCased (c : Char) : Bool :=
  inRanges casedRanges c.toNat

def isCaseIgnorable (c : Char) : Bool :=
  inRanges caseIgnorableRanges c.toNat

def capitalSigma : Char := 'Σ'

/-- The lower case of a character without regard to its neighbours. -/
def lowerLetter (c : Char) : List Char :=
  if c.toNat < 0x80 then [c.toLower]
  -- The capital I with a dot keeps it as a combining character.
  else if c.toNat = 0x130 then ['i', Char.ofNat 0x307]
  else
    match caseRuns.find? (·.covers c.toNat) with
    | some run => [Char.ofNat ((c.toNat : Int) + run.offset).toNat]
    | none => [c]

/-- Whether the first character that is not passed over is a cased one. -/
def meetsCased (cs : List Char) : Bool :=
  match cs.dropWhile isCaseIgnorable with
  | [] => false
  | c :: _ => isCased c

/-- The lower case of a capital sigma: the final form after a cased character that no cased
character follows. `before` is read backwards. -/
def lowerSigma (before after : List Char) : Char :=
  if meetsCased before && !meetsCased after then 'ς' else 'σ'

/-- Lower-cases the rest of a text whose part already read is `before`, last character first. -/
def lowerAfter (before : List Char) : List Char → List Char
  | [] => []
  | c :: rest =>
      -- The neighbours of a sigma count as they were written, not as they have become.
      (if c = capitalSigma then [lowerSigma before rest] else lowerLetter c) ++
        lowerAfter (c :: before) rest

def lower (cs : List Char) : List Char :=
  lowerAfter [] cs

end Text
end HidDescriptor
