/-!
# Sets of characters given by ranges

A Unicode property is published as a list of ranges of code points.  Such a
list is kept as it is: an array of closed ranges, in increasing order, and a
character belongs to the set when its code point lies in one of them.
-/

namespace AppResources

/-- A set of code points: closed ranges, first and last. -/
abbrev CodePointRanges := Array (Nat × Nat)

/-- The character's code point lies in one of the ranges. -/
def CodePointRanges.contains (ranges : CodePointRanges) (c : Char) : Bool :=
  ranges.any fun (first, last) => first ≤ c.toNat && c.toNat ≤ last

end AppResources
