/-!
Sets of code points, written as the ascending list of the points where membership changes: a point
before the first change is outside, and each change flips the answer for the points from there on.
-/

namespace EventMesh.Text

/-- Whether `n` lies in one of the half-open ranges `[lo, hi)` listed as `lo, hi, lo, hi, …`. -/
def inRanges : List Nat → Nat → Bool
  | lo :: hi :: rest, n => n ≥ lo && (n < hi || inRanges rest n)
  | _, _ => false

end EventMesh.Text
