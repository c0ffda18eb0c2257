/-!
# Ranges of characters

Classes of characters are given by the inclusive ranges of their code points.

- `inRanges`: membership of a code point
-/

namespace HidDescriptor
namespace Text

def inRanges (ranges : List (Nat × Nat)) (n : Nat) : Bool :=
  ranges.any fun r => r.1 ≤ n && n ≤ r.2

end Text
end HidDescriptor
