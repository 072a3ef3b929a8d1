/-!
# Tables of code points

Character properties are listed as ascending ranges of code points, and character mappings as
runs: every `step`-th code point from `first` to `last` is moved by the same distance.
-/

namespace RequestRouting.Text

/-- Whether a code point lies in one of the ranges, which ascend, so that the search ends at
the first range beyond it. -/
def inRanges : List (Nat × Nat) → Nat → Bool
  | [], _ => false
  | (first, last) :: rest, n =>
    if n < first then false else n ≤ last || inRanges rest n

/-- The image of a code point under the runs `(first, last, step, image of first)`, if one of
them covers it. -/
def imageInRuns? : List (Nat × Nat × Nat × Nat) → Nat → Option Nat
  | [], _ => none
  | (first, last, step, image) :: rest, n =>
    if first ≤ n ∧ n ≤ last ∧ (n - first) % step = 0 then some (image + (n - first))
    else imageInRuns? rest n

end RequestRouting.Text
