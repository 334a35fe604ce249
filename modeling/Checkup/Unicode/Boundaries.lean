/-!
# Character sets by their boundaries

A set of characters is given by the code points, in increasing order, at which membership changes:
a character is in the set when the number of boundaries up to it is odd.
-/

namespace Checkup.Unicode

/-- The first index in `lo ..< hi` whose point lies above `x`, or `hi`, for points that increase.
Each round halves the interval, so any `rounds` from its length on is enough. -/
def firstAbove (point : Nat → Nat) (x : Nat) : (rounds lo hi : Nat) → Nat
  | 0, lo, _ => lo
  | rounds + 1, lo, hi =>
    if lo < hi then
      let mid := (lo + hi) / 2
      if point mid ≤ x then firstAbove point x rounds (mid + 1) hi
      else firstAbove point x rounds lo mid
    else lo

/-- Whether the set with these boundaries has the code point `x`. -/
def inside (points : Array Nat) (x : Nat) : Bool :=
  firstAbove (points.getD · 0) x points.size 0 points.size % 2 == 1

end Checkup.Unicode
