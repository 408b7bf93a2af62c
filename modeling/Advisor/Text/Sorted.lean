/-!
# Sorted names

Names in the order of their code points, each once.
-/

namespace Advisor.Text

/-- Names in order. -/
def sorted (names : List String) : List String := names.mergeSort fun a b => decide (a ≤ b)

/-- Names in order, each once. -/
def distinct (names : List String) : List String := (sorted names).eraseReps

end Advisor.Text
