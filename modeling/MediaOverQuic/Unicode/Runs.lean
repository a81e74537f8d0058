/-!
# Runs of numbers

A set of numbers with few gaps is given by the numbers at which its runs begin and end, in turn: the
runs of `[3, 5, 9]` are `3, 4` and everything from `9` on.
-/
namespace MediaOverQuic.Unicode

/-- Whether a number is in one of the runs that begin and end at the given numbers. -/
def inRuns (n : Nat) : List Nat → Bool
  | [] => false
  | bound :: rest => bound ≤ n && !inRuns n rest

end MediaOverQuic.Unicode
