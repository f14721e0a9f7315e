import Mathlib.Order.Basic

/-!
# Spans of time

A span is given by its ends. What it shares with a window adds up over adjoining spans, and is
nothing for a span that lies outside.
-/

namespace Spans

/-- The length of what the span from `a` to `b` shares with the window from `lo` to `hi`. -/
def overlap (lo hi a b : Nat) : Nat := min b hi - max a lo

variable {lo hi a b c : Nat}

theorem overlap_append (first : a ≤ b) (second : b ≤ c) :
    overlap lo hi a b + overlap lo hi b c = overlap lo hi a c := by
  unfold overlap
  omega

theorem overlap_le : overlap lo hi a b ≤ b - a := by
  unfold overlap
  omega

theorem overlap_mono (longer : b ≤ c) : overlap lo hi a b ≤ overlap lo hi a c := by
  unfold overlap
  omega

theorem overlap_empty (empty : b ≤ a) : overlap lo hi a b = 0 := by
  unfold overlap
  omega

/-- A span that reaches less than `n` into what follows a window's start. -/
theorem overlap_lt {n : Nat} (positive : 0 < n) (early : b < lo + n) : overlap lo hi a b < n := by
  unfold overlap
  omega

/-- A span that begins after the window. -/
theorem overlap_after (late : hi ≤ a) : overlap lo hi a b = 0 := by
  unfold overlap
  omega

end Spans
