import Advisor.Parse.Parser
import Advisor.Script.Description
import Advisor.Script.Scanner
import Advisor.SyntaxTree

/-!
# The syntax tree of a script

Parses a script and shows the result as a `SyntaxTree`: hidden nodes give way to their children, and
renamed nodes get their new names. Rows and byte columns come from the line feeds of the text.
-/

namespace Advisor.Script

open Advisor.Grammar Advisor.Parse

/-- The language of scripts. Its table is built on first use. -/
def language : Thunk Language := Thunk.mk fun _ => ⟨Table.ofDescription description, scan⟩

/-- The byte offsets at which the lines of a text begin. -/
def lineStarts (source : ByteArray) : Array Nat := Id.run do
  let mut starts := #[0]
  for i in [0:source.size] do
    if source.get! i == 10 then starts := starts.push (i + 1)
  return starts

/-- The number of the line in which a byte stands: the last one that begins at or before it. -/
def rowOf (starts : Array Nat) (offset : Nat) : Nat := Id.run do
  let mut lo := 0
  let mut hi := starts.size
  for _ in [0:starts.size] do
    if hi ≤ lo + 1 then break
    let mid := (lo + hi) / 2
    if starts.getD mid 0 ≤ offset then lo := mid else hi := mid
  return lo

/-- A step of the conversion: to look at a subtree that begins at a byte, or to close a node. -/
inductive Task where
  | enter (tree : Subtree) (renamed : Option SymbolInfo) (start : Nat)
  | leave (label : NodeLabel)

/-- The steps for the children of a subtree, from right to left. -/
def childTasks (tb : Table) (t : Subtree) (start : Nat) : List Task := Id.run do
  let mut tasks : List Task := []
  let mut offset := start
  let mut place := 0
  for child in t.children do
    let renamed := if child.extra then none else Subtree.aliasAt tb t.info.shape place
    tasks := .enter child renamed offset :: tasks
    offset := offset + child.total.bytes
    if !child.extra then place := place + 1
  return tasks

/-- Shows a parser's tree. -/
def present (tb : Table) (starts : Array Nat) (tree : Subtree) : SyntaxTree := Id.run do
  let mut tasks : List Task := [.enter tree none 0]
  let mut pending : List (List SyntaxTree) := [[]]
  for _ in [0:2 * tree.info.nodes + 1] do
    match tasks with
    | [] => break
    | .leave label :: rest =>
      tasks := rest
      match pending with
      | inner :: outer :: more => pending := (.node label inner :: outer) :: more
      | _ => break
    | .enter t renamed start :: rest =>
      let children := childTasks tb t start
      if renamed.isSome || t.shown tb then
        let first := start + t.info.padding.bytes
        let row := rowOf starts first
        let kind :=
          if t.isError then "ERROR"
          else match renamed with
            | some a => a.name
            | none => (tb.symbols.getD t.symbol default).name
        let label : NodeLabel :=
          { kind, startByte := first, endByte := first + t.info.size.bytes, row
            byteColumn := first - starts.getD row 0
            missing := t.info.missing, hasError := t.errorCost > 0 }
        tasks := children ++ .leave label :: rest
        pending := [] :: pending
      else tasks := children ++ rest
  match pending with
  | (root :: _) :: _ => return root
  | _ => return .node default []

/-- Parses a script. -/
def parse (code : String) : SyntaxTree :=
  let l := language.get
  match Parser.parse l code.toList.toArray with
  | some tree => present l.table (lineStarts code.toUTF8) tree
  | none => .node default []

end Advisor.Script
