/-
# Classes of characters

rflink specification, §10: texts in messages and tables.

A class is given by the ranges of its code points.
-/

namespace PacketRadio
namespace Text

/-- The character lies in one of the ranges, both ends included. -/
def inRanges (ranges : List (Nat × Nat)) (c : Char) : Bool :=
  ranges.any fun r => r.1 ≤ c.toNat && c.toNat ≤ r.2

end Text
end PacketRadio
