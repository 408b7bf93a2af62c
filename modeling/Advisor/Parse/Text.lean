/-!
# Texts and places

A text as the parser reads it: its characters in an array. A `Span` measures a piece of text in
characters, in bytes of its UTF-8 form and in line feeds, and a place in the text is the span from
its beginning.
-/

namespace Advisor.Parse

/-- A length, or a place counted from the beginning of the text. -/
structure Span where
  chars : Nat
  bytes : Nat
  rows : Nat
  deriving BEq, Inhabited

namespace Span

/-- Nothing. -/
def zero : Span := ⟨0, 0, 0⟩

/-- One piece after another. -/
@[inline] def add (a b : Span) : Span := ⟨a.chars + b.chars, a.bytes + b.bytes, a.rows + b.rows⟩

/-- The piece from `b` up to `a`. -/
@[inline] def sub (a b : Span) : Span := ⟨a.chars - b.chars, a.bytes - b.bytes, a.rows - b.rows⟩

/-- The place after the character `c`. -/
@[inline] def push (a : Span) (c : Char) : Span :=
  ⟨a.chars + 1, a.bytes + c.utf8Size, if c == '\n' then a.rows + 1 else a.rows⟩

end Span

/-- The characters of a text. -/
abbrev Text := Array Char

end Advisor.Parse
