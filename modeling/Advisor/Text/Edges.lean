/-!
# Sets of code points by their edges

A set of numbers given by the increasing list of its edges: the first number that is in it, then the
first that is out again, and so on. A number is inside if an odd number of edges are not above it.
-/

namespace Advisor.Text

/-- Whether a number is in the set with the given edges. -/
def inside : List Nat → Nat → Bool
  | [], _ => false
  | e :: rest, n => if n < e then false else !inside rest n

example : [0, 9, 10, 19, 20].map (inside [10, 20]) = [false, false, true, true, false] := rfl

end Advisor.Text
