import Advisor.Config.Moment
import Advisor.Decimal.Double
import Advisor.Text.Integer
import Advisor.Text.Quoted

/-!
# Settings

The values that a configuration file may hold. Nothing says that a value has the kind its place asks
for, so the readings of a setting as a flag, a number or a list may fail: `Setting.Misfit` says how.
-/

namespace Advisor

/-- A value of a configuration. Tables keep their entries in order. -/
inductive Setting where
  | flag (b : Bool)
  | int (i : Int)
  | real (x : Double)
  | text (s : String)
  | moment (m : Moment)
  | list (items : List Setting)
  | table (entries : List (String × Setting))
  deriving Inhabited

namespace Setting

/-! ## Texts of settings -/

mutual

/-- A setting as it is shown inside a list or a table: texts in quotes, moments as terms. -/
def quoted : Setting → String
  | flag b => if b then "True" else "False"
  | int i => i.repr
  | real x => x.text
  | text s => Text.quoted s
  | moment m => m.constructed
  | list items => "[" ++ ", ".intercalate (quotedItems items) ++ "]"
  | table entries => "\x7b" ++ ", ".intercalate (quotedEntries entries) ++ "\x7d"

/-- The items of a list as they are shown. -/
def quotedItems : List Setting → List String
  | [] => []
  | s :: rest => s.quoted :: quotedItems rest

/-- The entries of a table as they are shown. -/
def quotedEntries : List (String × Setting) → List String
  | [] => []
  | (k, s) :: rest => (Text.quoted k ++ ": " ++ s.quoted) :: quotedEntries rest

end

/-- A setting as plain text. -/
def shown : Setting → String
  | text s => s
  | moment m => m.shown
  | s => s.quoted

/-! ## Readings of settings -/

/-- How a setting can fail to be what its place asks for. -/
inductive Misfit where
  /-- It has no entries to look up. -/
  | notTable
  /-- It cannot be gone through item by item. -/
  | notList
  /-- It is no number at all. -/
  | notNumber
  /-- It is a text that no number is written like, or not a number by its own account. -/
  | badNumber
  /-- It is an infinite number. -/
  | infinite
  /-- It cannot be compared with a number. -/
  | notComparable
  /-- It is a list or table where only a single value can stand. -/
  | notScalar
  /-- It has no letters whose case could be changed. -/
  | notText
  deriving DecidableEq

/-- Whether a setting counts as yes: what is neither zero nor empty. -/
def truth : Setting → Bool
  | flag b => b
  | int i => i != 0
  | real x => !x.isZero
  | text s => !s.isEmpty
  | moment _ => true
  | list items => !items.isEmpty
  | table entries => !entries.isEmpty

/-- The entries of a table. -/
def entries : Setting → Except Misfit (List (String × Setting))
  | table es => .ok es
  | _ => .error .notTable

/-- The items of a setting: those of a list, the names in a table, the characters of a text. -/
def items : Setting → Except Misfit (List Setting)
  | list xs => .ok xs
  | table es => .ok (es.map fun e => text e.1)
  | text s => .ok (s.toList.map fun c => text (String.singleton c))
  | _ => .error .notList

/-- A setting as an integer: fractions are cut off and texts are read. -/
def toInt : Setting → Except Misfit Int
  | flag b => .ok b.toNat
  | int i => .ok i
  | real (.infinite _) => .error .infinite
  | real x =>
    match x.truncate? with
    | some i => .ok i
    | none => .error .badNumber
  | text s =>
    match Text.readInteger? s with
    | some i => .ok i
    | none => .error .badNumber
  | _ => .error .notNumber

/-- Whether a setting is a single value: neither a list nor a table. -/
def isScalar : Setting → Bool
  | list _ => false
  | table _ => false
  | _ => true

/-- Whether a setting is negative. -/
def isNegative : Setting → Except Misfit Bool
  | flag _ => .ok false
  | int i => .ok (i < 0)
  | real x => .ok x.isNegative
  | _ => .error .notComparable

/-- Whether a setting is below a count. -/
def isBelow (s : Setting) (count : Nat) : Except Misfit Bool :=
  match s with
  | flag b => .ok (b.toNat < count)
  | int i => .ok (i < count)
  | real x => .ok (x.ltNat count)
  | _ => .error .notComparable

/-- Whether two settings are the same. Numbers are compared by value, and flags are numbers. -/
def same : Setting → Setting → Bool
  | text a, text b => a == b
  | moment a, moment b => a.same b
  | real x, real y => x.same y
  | real x, int i => x.isInt i
  | int i, real x => x.isInt i
  | real x, flag b => x.isInt b.toNat
  | flag b, real x => x.isInt b.toNat
  | int i, int j => i == j
  | int i, flag b => i == b.toNat
  | flag b, int i => i == b.toNat
  | flag a, flag b => a == b
  | _, _ => false

end Setting

end Advisor
