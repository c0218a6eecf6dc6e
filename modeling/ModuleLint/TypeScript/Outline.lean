import ModuleLint.Syntax.Node

/-!
# Outlines

An outline is a syntax tree whose nodes only know where their text begins and ends. Together
with the source text it gives the tree itself: the text of a node is the slice between the two
places, and its row is the number of line feeds before the first.
-/

namespace ModuleLint.TypeScript

open ModuleLint.Syntax

/-- A node that stands between two places of a source text. -/
structure Outline where
  /-- What the node is. -/
  kind : Kind
  /-- The part it plays in its parent. -/
  slot : Option Slot
  /-- The place of its first character. -/
  start : Nat
  /-- The place after its last character. -/
  stop : Nat
  /-- Its children, in source order. -/
  children : List Outline
  deriving Inhabited

/-- The node in a part of its parent. -/
def Outline.as (o : Outline) (slot : Slot) : Outline :=
  { o with slot := some slot }

/-- A source text with the number of line feeds before each place. -/
structure Source where
  /-- The characters. -/
  text : Array Char
  /-- The rows of the characters, in order. -/
  rows : Array Nat
  /-- The row after the last character. -/
  lastRow : Nat

/-- The rows of characters, the first of which is on the given row. -/
def rowsFrom (row : Nat) : List Char → List Nat
  | [] => []
  | c :: cs => row :: rowsFrom (if c = '\n' then row + 1 else row) cs

/-- The source text made of the given characters. -/
def Source.ofList (cs : List Char) : Source :=
  ⟨cs.toArray, (rowsFrom 0 cs).toArray, cs.count '\n'⟩

/-- The row of a place, and that of the end for a place beyond it. -/
def Source.rowAt (s : Source) (place : Nat) : Nat :=
  min (s.rows[place]?.getD s.lastRow) s.lastRow

/-- The text between two places. -/
def Source.slice (s : Source) (start stop : Nat) : String :=
  String.ofList (s.text.extract start stop).toList

mutual

/-- The syntax tree that an outline gives for a source text. -/
def Outline.toNode (s : Source) : Outline → Node
  | ⟨kind, slot, start, stop, children⟩ =>
    ⟨kind, slot, s.rowAt start, s.slice start stop, toNodes s children⟩

/-- The syntax trees that outlines give for a source text. -/
def toNodes (s : Source) : List Outline → List Node
  | [] => []
  | o :: os => o.toNode s :: toNodes s os

end

end ModuleLint.TypeScript
