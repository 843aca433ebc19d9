/-!
# Sets of characters given by ranges

A character class beyond ASCII is a list of ranges of code points, first and last. Membership is
decided by one predicate, shared by every class.
-/

namespace BankCodes.Text

/-- Whether the code point of `c` lies in one of the ranges. -/
def inRanges (ranges : List (Nat × Nat)) (c : Char) : Bool :=
  ranges.any fun (first, last) => first ≤ c.toNat && c.toNat ≤ last

end BankCodes.Text
