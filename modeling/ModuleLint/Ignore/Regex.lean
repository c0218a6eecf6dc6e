import ModuleLint.Text.Blank
import ModuleLint.Text.Letters

/-!
# Regular expressions of ignore patterns

The regular expressions that glob patterns stand for, with all that may stand in their texts. A
matcher goes through an expression from left to right, with a cursor in the text and with what is
to come after; where there is a choice, it comes back for the next possibility.
-/

namespace ModuleLint.Ignore

/-- How the parts of an expression are to be read and matched. -/
structure Mode where
  /-- Whether letters that differ by their case alone are the same. -/
  ignoreCase : Bool := false
  /-- Whether the properties and cases of letters are those of ASCII only. -/
  ascii : Bool := false
  /-- Whether every line has a start and an end to be matched. -/
  multiline : Bool := false
  /-- Whether a dot stands for the line feed as well. -/
  dotAll : Bool := false
  /-- Whether blanks and comments in the expression mean nothing. -/
  verbose : Bool := false
  deriving DecidableEq, Repr

/-- The characters that are the same as a character. -/
def Mode.variants (m : Mode) (c : Char) : List Char :=
  if !m.ignoreCase then [c] else if m.ascii then [c.toLower, c.toUpper] else Text.variants c

/-- A character as it is compared with another one. -/
def Mode.folded (m : Mode) (c : Char) : Char :=
  if !m.ignoreCase then c else if m.ascii then c.toLower else Text.lower c

/-- Whether a character is part of a word. -/
def Mode.isWord (m : Mode) (c : Char) : Bool :=
  if m.ascii then c.isAlphanum || c == '_' else Text.isWord c

/-- A named property of characters that an expression may refer to. -/
inductive Property
  | digit
  | blank
  | word
  deriving DecidableEq, Repr

/-- Whether a character has the property. -/
def Property.holds (p : Property) (c : Char) (m : Mode := {}) : Bool :=
  match p with
  | digit => if m.ascii then c.isDigit else Text.isDigit c
  | blank => if m.ascii then c == ' ' || (9 ≤ c.toNat && c.toNat ≤ 13) else Text.isBlank c
  | word => m.isWord c

/-- One item between the brackets of a class. -/
inductive ClassItem
  /-- The character with this code point. -/
  | point (n : Nat)
  /-- The characters from the first code point to the second. -/
  | range (low high : Nat)
  /-- The characters with the property, or without it if `negated`. -/
  | property (p : Property) (negated : Bool)
  deriving DecidableEq, Repr

/-- Whether an item stands for the character. -/
def ClassItem.holds (i : ClassItem) (c : Char) (m : Mode := {}) : Bool :=
  match i with
  | point n => c.toNat == n
  | range low high => low ≤ c.toNat && c.toNat ≤ high
  | property p negated => p.holds c m != negated

/-- A set of characters. -/
inductive Atom
  /-- Every character but the line feed. -/
  | any
  /-- One character. -/
  | char (c : Char)
  /-- The characters that an item stands for, or all others if `negated`. -/
  | set (negated : Bool) (items : List ClassItem)
  deriving DecidableEq, Repr

/-- Whether a character belongs to the set. -/
def Atom.holds (a : Atom) (c : Char) (m : Mode := {}) : Bool :=
  match a with
  | any => m.dotAll || c != '\n'
  | char d => (m.variants c).contains d
  | set negated items => ((m.variants c).any fun v => items.any fun i => i.holds v m) != negated

/-- Where a cursor is in a text, and what was captured on its way there. -/
structure Cursor where
  /-- The characters before the cursor, the nearest first. -/
  before : List Char
  /-- The characters after the cursor. -/
  rest : List Char
  /-- Where the groups begin and end, the latest first: group `g` begins at its mark `2 * g` and
  ends at its mark `2 * g + 1`. -/
  marks : List (Nat × Nat) := []
  deriving DecidableEq, Repr

namespace Cursor

/-- How many characters are before the cursor. -/
def offset (s : Cursor) : Nat := s.before.length

/-- The cursor with a mark set. -/
def mark (s : Cursor) (number : Nat) : Cursor :=
  { s with marks := (number, s.offset) :: s.marks }

/-- The text of a group, unless it has none so far. -/
def captured? (s : Cursor) (group : Nat) : Option (List Char) := do
  let start ← s.marks.lookup (2 * group)
  let stop ← s.marks.lookup (2 * group + 1)
  if start ≤ stop then
    some (((s.before.reverse ++ s.rest).drop start).take (stop - start))
  else none

/-- The cursor behind a text, if this text comes next. -/
def past? (m : Mode) : List Char → Cursor → Option Cursor
  | [], s => some s
  | d :: ds, s =>
    match s.rest with
    | [] => none
    | c :: cs =>
      if m.folded c == m.folded d then past? m ds { s with before := c :: s.before, rest := cs }
      else none

/-- The cursor so many characters earlier, if there are as many. -/
def back? (s : Cursor) (n : Nat) : Option Cursor :=
  if n ≤ s.before.length then
    some { s with
      before := s.before.drop n
      rest := (s.before.take n).reverse ++ s.rest }
  else none

end Cursor

/-- A place in a text. -/
inductive Anchor
  | textStart
  | textEnd
  | lineStart
  | lineEnd
  | wordEdge
  | notWordEdge
  deriving DecidableEq, Repr

/-- Whether a word begins or ends at the cursor. -/
def isWordEdge (m : Mode) (s : Cursor) : Bool :=
  (s.before.head?.any m.isWord) != (s.rest.head?.any m.isWord)

/-- Whether the cursor is at such a place. A text without characters has no words, and no places
outside of words either. -/
def Anchor.holds (m : Mode) (s : Cursor) : Anchor → Bool
  | textStart => s.before.isEmpty
  | textEnd => s.rest.isEmpty
  | lineStart => s.before.isEmpty || (m.multiline && s.before.head? == some '\n')
  | lineEnd =>
    s.rest.isEmpty || s.rest == ['\n'] || (m.multiline && s.rest.head? == some '\n')
  | wordEdge => isWordEdge m s
  | notWordEdge => !(s.before.isEmpty && s.rest.isEmpty) && !isWordEdge m s

/-- In which order the numbers of repetitions are tried. -/
inductive Greed
  /-- As many as possible first. -/
  | greedy
  /-- As few as possible first. -/
  | lazy
  /-- As many as possible, and no other number. -/
  | possessive
  deriving DecidableEq, Repr

/-- How many characters the texts of an expression have: at least, and at most unless there is no
bound. -/
structure Width where
  /-- The least number of characters. -/
  least : Nat
  /-- The greatest number of characters. -/
  most : Option Nat
  deriving DecidableEq, Repr

/-- A regular expression. -/
inductive Regex
  /-- Nothing. -/
  | nothing
  /-- One character of a set. -/
  | one (a : Atom) (m : Mode)
  /-- A place. -/
  | place (p : Anchor) (m : Mode)
  /-- The text of a group once more. -/
  | again (group : Nat) (m : Mode)
  /-- One after the other. -/
  | andThen (first second : Regex)
  /-- One or the other. -/
  | either (first second : Regex)
  /-- Repetitions, at least so many and at most so many unless there is no bound. -/
  | repeated (greed : Greed) (least : Nat) (most : Option Nat) (body : Regex)
  /-- A group, whose text is kept. -/
  | captured (group : Nat) (body : Regex)
  /-- The first possibility and no other. -/
  | alone (body : Regex)
  /-- What comes next, or does not come next unless `positive`; or what came last, if its texts
  have a width. -/
  | looking (width : Option Width) (positive : Bool) (body : Regex)
  /-- One or the other, by whether a group has a text. -/
  | given (group : Nat) (yes no : Regex)
  deriving DecidableEq, Repr

/-- How a part of an expression is matched: from a cursor on, with what is to be matched after. -/
abbrev Matcher := Cursor → (Cursor → Option Cursor) → Option Cursor

namespace Matcher

/-- The first possibility and no other. -/
def alone (body : Matcher) : Matcher := fun s next =>
  (body s some).bind next

/-- So many times. -/
def times (body : Matcher) : Nat → Matcher
  | 0, s, next => next s
  | n + 1, s, next => body s fun s => times body n s next

/-- As many times as possible first, but at most so many. A repetition that takes nothing is the
last. What remains of the text bounds the number of the others, so it is fuel enough. -/
def greedily (body : Matcher) : Nat → Option Nat → Matcher
  | 0, _, s, next => next s
  | fuel + 1, left, s, next =>
    if left = some 0 then next s
    else
      (body s fun s' =>
        if s'.offset = s.offset then next s'
        else greedily body fuel (left.map (· - 1)) s' next) <|>
      next s

/-- As few times as possible first, but at most so many. -/
def lazily (body : Matcher) : Nat → Option Nat → Matcher
  | 0, _, s, next => next s
  | fuel + 1, left, s, next =>
    next s <|>
      if left = some 0 then none
      else
        body s fun s' =>
          if s'.offset = s.offset then next s'
          else lazily body fuel (left.map (· - 1)) s' next

/-- Repetitions, at least so many and at most so many. -/
def repeated (greed : Greed) (least : Nat) (most : Option Nat) (body : Matcher) : Matcher :=
  let left := most.map (· - least)
  match greed with
  | .greedy => fun s next => body.times least s fun s =>
    body.greedily (s.rest.length + 1) left s next
  | .lazy => fun s next => body.times least s fun s =>
    body.lazily (s.rest.length + 1) left s next
  | .possessive => alone fun s next => body.alone.times least s fun s =>
    body.alone.greedily (s.rest.length + 1) left s next

end Matcher

namespace Regex

/-- Matches an expression from a cursor on. -/
def run : Regex → Matcher
  | nothing, s, next => next s
  | one a m, s, next =>
    match s.rest with
    | [] => none
    | c :: cs =>
      if a.holds c m then next { s with before := c :: s.before, rest := cs } else none
  | place p m, s, next => if p.holds m s then next s else none
  | again group m, s, next => (s.captured? group).bind fun text => (s.past? m text).bind next
  | andThen first second, s, next => first.run s fun s => second.run s next
  | either first second, s, next => first.run s next <|> second.run s next
  | repeated greed least most body, s, next => Matcher.repeated greed least most body.run s next
  | captured group body, s, next =>
    body.run (s.mark (2 * group)) fun s => next (s.mark (2 * group + 1))
  | alone body, s, next => Matcher.alone body.run s next
  | looking width positive body, s, next =>
    let found := (s.back? ((width.map Width.least).getD 0)).bind fun s => body.run s some
    if positive then found.bind fun s' => next { s with marks := s'.marks }
    else if found.isSome then none else next s
  | given group yes no, s, next =>
    if (s.captured? group).isSome then yes.run s next else no.run s next

/-- Whether an expression matches a whole text. -/
def fullMatch (r : Regex) (text : List Char) : Bool :=
  (r.run ⟨[], text, []⟩ fun s => if s.rest.isEmpty then some s else none).isSome

/-- How many characters the texts of an expression have, where `groups` tells it of its groups. -/
def width (groups : Nat → Width) : Regex → Width
  | nothing | place _ _ | looking _ _ _ => ⟨0, some 0⟩
  | one _ _ => ⟨1, some 1⟩
  | again group _ => groups group
  | andThen first second =>
    let v := first.width groups
    let w := second.width groups
    ⟨v.least + w.least, v.most.bind fun a => w.most.map (a + ·)⟩
  | either first second | given _ first second =>
    let v := first.width groups
    let w := second.width groups
    ⟨min v.least w.least, v.most.bind fun a => w.most.map (max a ·)⟩
  | repeated _ least most body =>
    let w := body.width groups
    let top := match w.most, most with
      | some a, some n => some (a * n)
      | some 0, none => some 0
      | none, some 0 => some 0
      | _, _ => none
    ⟨w.least * least, top⟩
  | captured _ body | alone body => body.width groups

end Regex

end ModuleLint.Ignore
