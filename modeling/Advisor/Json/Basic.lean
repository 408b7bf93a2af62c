/-!
# JSON values

The data of manifests and reports. Objects keep their members in order; a number with a fraction or
an exponent is kept as it is written.
-/

namespace Advisor

/-- A JSON value. -/
inductive Json where
  | null
  | bool (b : Bool)
  | int (i : Int)
  /-- A number that is no plain integer, as it is written. -/
  | real (literal : String)
  | str (s : String)
  | list (items : List Json)
  | object (members : List (String × Json))
  deriving Inhabited

namespace Json

/-- Sets a member: a name that is already there keeps its position and takes the new value. -/
def put (members : List (String × Json)) (name : String) (value : Json) : List (String × Json) :=
  match members with
  | [] => [(name, value)]
  | (n, v) :: rest => if n = name then (n, value) :: rest else (n, v) :: put rest name value

/-- The members of an object. -/
def members? : Json → Option (List (String × Json))
  | object ms => some ms
  | _ => none

/-- The names after `put` are the old ones, followed by the new one if it was not among them. -/
theorem map_fst_put (members : List (String × Json)) (name : String) (value : Json) :
    (put members name value).map Prod.fst =
      if name ∈ members.map Prod.fst then members.map Prod.fst else members.map Prod.fst ++ [name] := by
  induction members with
  | nil => simp [put]
  | cons m rest ih =>
    obtain ⟨n, v⟩ := m
    by_cases h : n = name
    · simp [put, h]
    · have h' : ¬ name = n := fun e => h e.symm
      simp only [put, h, if_false, List.map_cons, ih, List.mem_cons, h', false_or]
      split <;> simp

end Json

end Advisor
