import ModuleLint.Text.Blank
import ModuleLint.TypeScript.Outline

/-!
# Parsers over a source text

A parser reads from a place of the source text on and either fails or gives a value and the
place after what it has read. Every parser of a phrase leaves the place directly after the last
token, so blanks and comments are passed over before a token and never after it.
-/

namespace ModuleLint.TypeScript

open ModuleLint.Syntax

/-- The text that is read, and the dialect it is in. -/
structure Input where
  /-- The characters. -/
  text : Array Char
  /-- Whether markup elements are expressions. -/
  markup : Bool

/-- A parser of values of type `α`. -/
abbrev Parser (α : Type) := ReaderT Input (StateT Nat Option) α

namespace Parser

/-- The current place. -/
def place : Parser Nat := get

/-- The character at the current place. -/
def peek? : Parser (Option Char) := do
  return (← read).text[← get]?

/-- The character some places ahead. -/
def peekAt? (ahead : Nat) : Parser (Option Char) := do
  return (← read).text[(← get) + ahead]?

/-- Goes on by some places. -/
def advance (count : Nat) : Parser Unit := modify (· + count)

/-- Fails unless the condition holds. -/
def require (condition : Bool) : Parser Unit :=
  if condition then pure () else failure

/-- Whether the parser would succeed. Nothing is read. -/
def sees {α : Type} (p : Parser α) : Parser Bool := fun input place =>
  some ((p input place).isSome, place)

/-- Fails if the parser would succeed. Nothing is read. -/
def absent {α : Type} (p : Parser α) : Parser Unit := do
  require (!(← sees p))

/-- The values of a parser applied as often as it succeeds and reads on, at most `fuel` times.
-/
def manyFrom {α : Type} (p : Parser α) (done : List α) : Nat → Parser (List α)
  | 0 => pure done.reverse
  | fuel + 1 => do
    let start ← place
    match ← optional p with
    | none => return done.reverse
    | some a => if (← place) ≤ start then return done.reverse else manyFrom p (a :: done) fuel

/-- The values of a parser applied as often as it succeeds and reads on. -/
def many {α : Type} (p : Parser α) : Parser (List α) := do
  manyFrom p [] ((← read).text.size + 1)

/-- The values of a parser between separators, and a separator at the end if there is one. -/
def separated {α : Type} (separator : Parser Unit) (p : Parser α) : Parser (List α) := do
  match ← optional p with
  | none => return []
  | some a =>
    let rest ← many (separator *> p)
    let _ ← optional separator
    return a :: rest

/-- Reads characters as long as they satisfy `p`, at most `fuel` of them. -/
def skipWhileFrom (p : Char → Bool) : Nat → Parser Unit
  | 0 => pure ()
  | fuel + 1 => do
    match ← peek? with
    | some c => if p c then do advance 1; skipWhileFrom p fuel else pure ()
    | none => pure ()

/-- Reads characters as long as they satisfy `p`. -/
def skipWhile (p : Char → Bool) : Parser Unit := do
  skipWhileFrom p ((← read).text.size + 1)

end Parser

/-- A blank between tokens. -/
def isSpace (c : Char) : Bool :=
  let n := c.toNat
  (Text.isBlank c && n != 0x85 && (n < 28 || 31 < n)) || n == 0xfeff || n == 0x2060 || n == 0x200b

/-- A character that ends a line comment. -/
def endsLine (c : Char) : Bool :=
  c == '\n' || c == '\r' || c.toNat == 0x2028 || c.toNat == 0x2029

/-- The place of the first character from `place` on that ends a line, or the end. -/
def lineEnd (text : Array Char) : Nat → Nat → Nat
  | 0, place => place
  | fuel + 1, place =>
    match text[place]? with
    | some c => if endsLine c then place else lineEnd text fuel (place + 1)
    | none => place

/-- The place after the first `*/` from `place` on. -/
def commentEnd? (text : Array Char) : Nat → Nat → Option Nat
  | 0, _ => none
  | fuel + 1, place =>
    match text[place]?, text[place + 1]? with
    | some '*', some '/' => some (place + 2)
    | none, _ => none
    | _, _ => commentEnd? text fuel (place + 1)

/-- Passes over blanks and comments from `place` on; `done` holds the places of the comments,
last first. -/
def gapFrom (text : Array Char) (done : List (Nat × Nat)) : Nat → Nat → Nat × List (Nat × Nat)
  | 0, place => (place, done.reverse)
  | fuel + 1, place =>
    match text[place]? with
    | none => (place, done.reverse)
    | some c =>
      if isSpace c then gapFrom text done fuel (place + 1)
      else if c = '/' then
        match text[place + 1]? with
        | some '/' =>
          let stop := lineEnd text text.size (place + 2)
          gapFrom text ((place, stop) :: done) fuel stop
        | some '*' =>
          match commentEnd? text text.size (place + 2) with
          | some stop => gapFrom text ((place, stop) :: done) fuel stop
          | none => (place, done.reverse)
        | _ => (place, done.reverse)
      else (place, done.reverse)

/-- Whether a line ends between two places, outside the comments that stand between them. -/
def breaksLine (text : Array Char) (stop start : Nat) : List (Nat × Nat) → Bool
  | [] => (text.extract start stop).any (· == '\n')
  | (first, last) :: rest =>
    (text.extract start first).any (· == '\n') || breaksLine text stop last rest

namespace Parser

/-- Passes over blanks and comments. -/
def blank : Parser Unit := do
  let text := (← read).text
  set (gapFrom text [] (text.size + 1) (← place)).1

/-- Passes over blanks and comments, and gives the comments. -/
def comments : Parser (List Outline) := do
  let text := (← read).text
  let (stop, found) := gapFrom text [] (text.size + 1) (← place)
  set stop
  return found.map fun (start, stop) => ⟨.comment, none, start, stop, []⟩

/-- Whether a line ends before the next token, outside the comments before it. -/
def lineBreak : Parser Bool := do
  let text := (← read).text
  let start ← place
  let (stop, found) := gapFrom text [] (text.size + 1) start
  return breaksLine text stop start found

/-- Reads the next token, which must be a mark that stands as given. -/
def exact (cs : List Char) : Parser Unit := do
  let text := (← read).text
  let start ← place
  require ((text.extract start (start + cs.length)).toList == cs)
  advance cs.length

/-- Reads a mark after blanks and comments. -/
def mark (s : String) : Parser Unit := do
  blank
  exact s.toList

/-- Whether the next token begins with the given text. -/
def seesMark (s : String) : Parser Bool := sees (mark s)

/-- A node around what the parser reads, the blanks before it left out. -/
def node (kind : Kind) (p : Parser (List Outline)) : Parser Outline := do
  blank
  let start ← place
  let children ← p
  return ⟨kind, none, start, ← place, children⟩

/-- A node from an earlier place up to here. -/
def nodeFrom (kind : Kind) (start : Nat) (children : List Outline) : Parser Outline := do
  return ⟨kind, none, start, ← place, children⟩

/-- The values of a parser between brackets. -/
def between {α : Type} (opening closing : String) (p : Parser α) : Parser α := do
  mark opening
  let a ← p
  mark closing
  return a

/-- The outlines that parsers read one after another. -/
def inOrder (ps : List (Parser (List Outline))) : Parser (List Outline) :=
  ps.foldr (fun p rest => do return (← p) ++ (← rest)) (pure [])

/-- The outlines of a parser, none if it fails. -/
def maybe (p : Parser (List Outline)) : Parser (List Outline) :=
  p <|> pure []

/-- The outline of a parser as a list. -/
def one (p : Parser Outline) : Parser (List Outline) :=
  List.singleton <$> p

/-- The outlines of a parser applied as often as it succeeds. -/
def manyOutlines (p : Parser (List Outline)) : Parser (List Outline) :=
  List.flatten <$> many p

/-- The outlines of a parser between commas. -/
def commaList (p : Parser (List Outline)) : Parser (List Outline) :=
  List.flatten <$> separated (mark ",") p

end Parser

/-- The kinds of phrase that are read inside one another. -/
inductive Phrase
  /-- A statement or declaration. -/
  | statement
  /-- Expressions between commas. -/
  | expression
  /-- One expression. -/
  | assignment
  /-- One expression, and if it is an arrow function, one that declares no result type. -/
  | plainAssignment
  /-- An operand with the operators before and after it. -/
  | operand
  /-- A type. -/
  | type
  /-- What a value is bound to. -/
  | binding
  /-- A markup element. -/
  | element
  /-- What follows `new`, up to its arguments. -/
  | constructed
  deriving DecidableEq, Repr

/-- The parsers of the phrases inside a phrase. -/
abbrev Inner := Phrase → Parser Outline

end ModuleLint.TypeScript
