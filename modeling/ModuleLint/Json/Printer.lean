import ModuleLint.Json.Value
import ModuleLint.Text.Quoted

/-!
# Writing JSON

The printed form of a JSON value: two columns of indentation per level, one member or item a
line, and ASCII only, so that a character above U+007E is written by its UTF-16 units.
-/

namespace ModuleLint.Json

open ModuleLint.Text (hexDigits)

/-- The escape of one UTF-16 unit. -/
def unitEscape (n : Nat) : List Char :=
  '\\' :: 'u' :: hexDigits 4 n

/-- A character as it stands in a JSON string. -/
def stringChar (c : Char) : List Char :=
  let n := c.toNat
  if c = '"' then ['\\', '"']
  else if c = '\\' then ['\\', '\\']
  else if c = '\n' then ['\\', 'n']
  else if c = '\r' then ['\\', 'r']
  else if c = '\t' then ['\\', 't']
  else if n = 8 then ['\\', 'b']
  else if n = 12 then ['\\', 'f']
  else if 0x20 ≤ n ∧ n ≤ 0x7e then [c]
  else if n < 0x10000 then unitEscape n
  else
    let m := n - 0x10000
    unitEscape (0xd800 + m / 0x400) ++ unitEscape (0xdc00 + m % 0x400)

/-- A JSON string with its quotation marks. -/
def printString (s : String) : List Char :=
  '"' :: s.toList.flatMap stringChar ++ ['"']

/-- A new line that is indented to the given level. -/
def newLine (level : Nat) : List Char :=
  '\n' :: List.replicate (2 * level) ' '

mutual

/-- The printed form of a value that stands at the given level. -/
def printAt (level : Nat) : Value → List Char
  | .null => "null".toList
  | .bool true => "true".toList
  | .bool false => "false".toList
  | .int n => (toString n).toList
  | .decimal negative coefficient exponent =>
    (if negative then ['-'] else []) ++ (toString coefficient).toList ++ 'e' ::
      (toString exponent).toList
  | .string s => printString s
  | .array [] => ['[', ']']
  | .array (v :: vs) =>
    '[' :: newLine (level + 1) ++ printAt (level + 1) v ++ printItems (level + 1) vs ++
      newLine level ++ [']']
  | .object [] => ['\x7b', '\x7d']
  | .object ((name, v) :: ms) =>
    '\x7b' :: newLine (level + 1) ++ printString name ++ [':', ' '] ++ printAt (level + 1) v ++
      printMembers (level + 1) ms ++ newLine level ++ ['\x7d']

/-- The items after the first of an array, each on a line of its own. -/
def printItems (level : Nat) : List Value → List Char
  | [] => []
  | v :: vs => ',' :: newLine level ++ printAt level v ++ printItems level vs

/-- The members after the first of an object, each on a line of its own. -/
def printMembers (level : Nat) : List (String × Value) → List Char
  | [] => []
  | (name, v) :: ms =>
    ',' :: newLine level ++ printString name ++ [':', ' '] ++ printAt level v ++
      printMembers level ms

end

/-- The printed form of a value. -/
def print (v : Value) : String :=
  String.ofList (printAt 0 v)

end ModuleLint.Json
