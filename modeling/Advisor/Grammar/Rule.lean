import Advisor.Grammar.Lexeme

/-!
# Grammar rules

The notation in which a language is described. A `Rule` is built from leaves (tokens and references
to other rules) by sequence, choice and repetition, and carries the marks that steer the automaton:
precedence, associativity, dynamic precedence, the name under which a child appears in the tree,
field names, and the set of words that may not be used as identifiers.
-/

namespace Advisor.Grammar

/-- How tightly a piece of a rule binds. -/
inductive Precedence where
  | none
  | level (n : Int)
  | named (name : String)
  deriving BEq, Hashable, Inhabited, Repr

/-- Which way equal precedence resolves. -/
inductive Associativity where
  | left
  | right
  deriving BEq, Hashable, Inhabited, Repr

/-- The name a child carries in the tree instead of its own; `named` tells a rule's name from a
literal text. -/
structure Alias where
  name : String
  named : Bool
  deriving BEq, Hashable, Inhabited, Repr

/-- A token. An immediate token may not be preceded by separators. -/
structure Token where
  /-- The literal text, for a token that matches exactly one text. -/
  literal : Option String
  lexeme : Lexeme
  immediate : Bool
  precedence : Int
  deriving BEq, Hashable, Inhabited

/-- Literal tokens win over patterns, immediate ones over others of the same kind. -/
def Token.rank (t : Token) : Nat := (if t.literal.isSome then 2 else 0) + (if t.immediate then 1 else 0)

/-- A rule over leaves of type `α`. -/
inductive Rule (α : Type) where
  | blank
  | leaf (a : α)
  | seq (a b : Rule α)
  | choice (a b : Rule α)
  /-- One or more times. -/
  | many (a : Rule α)
  | prec (p : Precedence) (assoc : Option Associativity) (a : Rule α)
  | dynamic (n : Int) (a : Rule α)
  | as (name : Alias) (a : Rule α)
  | field (name : String) (a : Rule α)
  | inContext (context : Nat) (a : Rule α)
  deriving BEq, Hashable, Inhabited

/-- What stands at the leaves of a written rule. -/
inductive Leaf where
  | token (t : Token)
  | ref (name : String)
  deriving BEq, Hashable, Inhabited

/-- An entry of a precedence list: a name, or all productions of a rule. -/
inductive Ranked where
  | name (s : String)
  | rule (s : String)
  deriving BEq, Inhabited

/-- The description of a language. The first rule is the start. -/
structure Description where
  rules : List (String × Rule Leaf)
  /-- Tokens that a hand-written scanner recognises, or may recognise. -/
  externals : List Leaf
  /-- Tokens that may stand between any two others. -/
  extras : List String
  /-- Characters skipped before a token that is not immediate. -/
  separators : CharSet
  /-- Rules that stand for a choice and never appear in the tree. -/
  supertypes : List String
  /-- Rules replaced by their alternatives wherever they are used. -/
  inlined : List String
  /-- The token of which keywords are special cases. -/
  word : String
  /-- Words that are not identifiers in context 0; in any other context every word may be one. -/
  reserved : List String
  /-- Each list names, in decreasing order, what binds more tightly. -/
  precedences : List (List Ranked)

namespace Rule

/-- Rewrites every leaf. -/
def map {α β : Type} (f : α → β) : Rule α → Rule β
  | blank => blank
  | leaf a => leaf (f a)
  | seq a b => seq (a.map f) (b.map f)
  | choice a b => choice (a.map f) (b.map f)
  | many a => many (a.map f)
  | prec p s a => prec p s (a.map f)
  | dynamic n a => dynamic n (a.map f)
  | as n a => as n (a.map f)
  | field n a => field n (a.map f)
  | inContext k a => inContext k (a.map f)

/-- The rules one after another. -/
def inOrder {α : Type} : List (Rule α) → Rule α
  | [] => blank
  | [a] => a
  | a :: rest => seq a (inOrder rest)

/-- Any one of the rules. -/
def oneOf {α : Type} : List (Rule α) → Rule α
  | [] => blank
  | [a] => a
  | a :: rest => choice a (oneOf rest)

/-- The rule or nothing. -/
def opt {α : Type} (a : Rule α) : Rule α := choice a blank

/-- Any number of times. -/
def star {α : Type} (a : Rule α) : Rule α := choice (many a) blank

/-- A rule by name. -/
def ref (name : String) : Rule Leaf := leaf (.ref name)

/-- A literal token. -/
def lit (s : String) : Rule Leaf := leaf (.token ⟨some s, Lexeme.text s, false, 0⟩)

/-- A token given by a pattern. -/
def pattern (l : Lexeme) : Rule Leaf := leaf (.token ⟨none, l, false, 0⟩)

/-- A token given by a pattern that admits no separators in front. -/
def immediate (precedence : Int) (l : Lexeme) : Rule Leaf := leaf (.token ⟨none, l, true, precedence⟩)

/-- One or more of `a`, with commas between them. -/
def commaList1 (a : Rule Leaf) : Rule Leaf := seq a (star (seq (lit ",") a))

/-- Any number of `a`, with commas between them. -/
def commaList (a : Rule Leaf) : Rule Leaf := opt (commaList1 a)

end Rule

end Advisor.Grammar
