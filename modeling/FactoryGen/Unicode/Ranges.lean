/-! Character properties as tables.

A property of characters is given by the code points that have it, as ranges in
ascending order. `Ranges.contains` walks the table from the low end and stops at
the first range that lies above the code point, so for the characters that texts
are mostly made of only a few ranges are looked at. -/
namespace FactoryGen.Unicode

/-- Ranges of code points, both ends included, in ascending order. -/
abbrev Ranges := List (Nat × Nat)

/-- Membership in a table. -/
def Ranges.contains : Ranges → Nat → Bool
  | [], _ => false
  | (low, high) :: rest, n =>
    if n < low then false else if n ≤ high then true else Ranges.contains rest n

end FactoryGen.Unicode
