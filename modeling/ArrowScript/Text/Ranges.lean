/-!
# Ranges of characters

Classes of characters are given by the ranges of their code points.
-/

namespace ArrowScript.Text

/-- Whether a character is in one of some ranges of code points, ends included. -/
def inRanges (ranges : List (Nat × Nat)) (c : Char) : Bool :=
  ranges.any fun range => range.1 ≤ c.toNat && c.toNat ≤ range.2

end ArrowScript.Text
