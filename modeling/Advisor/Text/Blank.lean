/-!
# Blanks, lines and words

White space and line ends as the Unicode standard has them. `strip` drops blanks at both ends of a
text, `firstLine` takes what stands before the first line end, and `splitOn` cuts a text at every
occurrence of one character, losing nothing (`joinWith_splitOn`). `word?` takes a given word off the
front of a text.
-/

namespace Advisor.Text

/-- White space: the controls that move the cursor or separate records, and all space separators. -/
def isBlank (c : Char) : Bool :=
  let n := c.toNat
  (0x09 ≤ n && n ≤ 0x0d) || (0x1c ≤ n && n ≤ 0x20) || n == 0x85 || n == 0xa0 || n == 0x1680
    || (0x2000 ≤ n && n ≤ 0x200a) || n == 0x2028 || n == 0x2029 || n == 0x202f || n == 0x205f
    || n == 0x3000

/-- A space or a tabulator: what blanks inside a line are in the formats that are read. -/
def isInlineBlank (c : Char) : Bool := c == ' ' || c == '\t'

/-- Characters that end a line. -/
def isLineEnd (c : Char) : Bool :=
  let n := c.toNat
  (0x0a ≤ n && n ≤ 0x0d) || (0x1c ≤ n && n ≤ 0x1e) || n == 0x85 || n == 0x2028 || n == 0x2029

/-- Every blank of the first 128 that Lean's own class knows is one here. -/
theorem isBlank_of_isWhitespace {c : Char} (h : c.isWhitespace = true) : isBlank c = true := by
  simp only [Char.isWhitespace, Bool.or_eq_true, decide_eq_true_eq] at h
  rcases h with ((rfl | rfl) | rfl) | rfl <;> decide

/-- Drops the blanks at the end. -/
def stripEnd (cs : List Char) : List Char := (cs.reverse.dropWhile isBlank).reverse

/-- Drops the blanks at both ends. -/
def strip (cs : List Char) : List Char := stripEnd (cs.dropWhile isBlank)

/-- The same on strings. -/
def stripString (s : String) : String := String.ofList (strip s.toList)

/-- The first line. -/
def firstLine (cs : List Char) : List Char := cs.takeWhile fun c => !isLineEnd c

/-- Takes a word off the front of a text. -/
def word? (word : String) (cs : List Char) : Option (List Char) := word.toList.isPrefixOf? cs

/-- Cuts a text at every separator. The piece at hand and the pieces before it come in reverse. -/
def splitFrom (sep : Char) (piece : List Char) (pieces : List (List Char)) :
    List Char → List (List Char)
  | [] => (piece.reverse :: pieces).reverse
  | c :: rest =>
    if c = sep then splitFrom sep [] (piece.reverse :: pieces) rest
    else splitFrom sep (c :: piece) pieces rest

/-- Cuts a text at every separator: there is one piece more than there are separators. -/
def splitOn (sep : Char) (cs : List Char) : List (List Char) := splitFrom sep [] [] cs

/-- Joins pieces with a separator between them. -/
def joinWith (sep : Char) : List (List Char) → List Char
  | [] => []
  | [l] => l
  | l :: rest => l ++ sep :: joinWith sep rest

theorem splitFrom_eq (sep : Char) (piece : List Char) (pieces : List (List Char)) (cs : List Char) :
    splitFrom sep piece pieces cs =
      pieces.reverse ++ (splitOn sep cs).modifyHead (piece.reverse ++ ·) := by
  induction cs generalizing piece pieces with
  | nil => simp [splitFrom, splitOn]
  | cons c rest ih =>
    simp only [splitOn, splitFrom]
    split
    · rw [ih, ih]; simp
    · rw [ih, ih]; simp [List.modifyHead_modifyHead, Function.comp_def]

@[simp] theorem splitOn_nil (sep : Char) : splitOn sep [] = [[]] := rfl

theorem splitOn_cons (sep c : Char) (cs : List Char) :
    splitOn sep (c :: cs) =
      if c = sep then [] :: splitOn sep cs else (splitOn sep cs).modifyHead (c :: ·) := by
  conv => lhs; rw [splitOn, splitFrom, splitFrom_eq, splitFrom_eq]
  split
  · cases splitOn sep cs <;> simp
  · simp

theorem splitOn_ne_nil (sep : Char) (cs : List Char) : splitOn sep cs ≠ [] := by
  induction cs with
  | nil => simp
  | cons c rest ih => rw [splitOn_cons]; split <;> simp [ih]

/-- **Cutting loses nothing**: the pieces joined again are the text. -/
theorem joinWith_splitOn (sep : Char) (cs : List Char) : joinWith sep (splitOn sep cs) = cs := by
  induction cs with
  | nil => rfl
  | cons c rest ih =>
    rw [splitOn_cons]
    cases hs : splitOn sep rest with
    | nil => exact absurd hs (splitOn_ne_nil sep rest)
    | cons l ls =>
      rw [hs] at ih
      split
      · rename_i h; simp [joinWith, ih, h]
      · cases ls <;> simp [joinWith] at ih ⊢ <;> exact ih

end Advisor.Text
