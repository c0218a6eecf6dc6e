/-!
# Names of characters

Every character has a name, and a text may mention a character by it. Which names there are
depends on the version of Unicode, so the names are left open: whoever reads a name is given a table
of them. Where none is given, the names are those of the printable characters of ASCII.
-/

namespace ModuleLint.Text

/-- A table of the names of characters. -/
class CharacterNames where
  /-- The character that has a name, unless there is no such character. -/
  find? : String → Option Char

/-- Names for the characters from a code point on. -/
def namedFrom (first : Nat) (names : List String) : List (String × Char) :=
  (names.zipIdx first).map fun (name, n) => (name, Char.ofNat n)

/-- The names of the printable characters of ASCII. -/
def asciiNames : List (String × Char) :=
  namedFrom 0x20 [
    "SPACE", "EXCLAMATION MARK", "QUOTATION MARK", "NUMBER SIGN", "DOLLAR SIGN", "PERCENT SIGN",
    "AMPERSAND", "APOSTROPHE", "LEFT PARENTHESIS", "RIGHT PARENTHESIS", "ASTERISK", "PLUS SIGN",
    "COMMA", "HYPHEN-MINUS", "FULL STOP", "SOLIDUS", "DIGIT ZERO", "DIGIT ONE", "DIGIT TWO",
    "DIGIT THREE", "DIGIT FOUR", "DIGIT FIVE", "DIGIT SIX", "DIGIT SEVEN", "DIGIT EIGHT",
    "DIGIT NINE", "COLON", "SEMICOLON", "LESS-THAN SIGN", "EQUALS SIGN", "GREATER-THAN SIGN",
    "QUESTION MARK", "COMMERCIAL AT"] ++
  namedFrom 0x5b [
    "LEFT SQUARE BRACKET", "REVERSE SOLIDUS", "RIGHT SQUARE BRACKET", "CIRCUMFLEX ACCENT",
    "LOW LINE", "GRAVE ACCENT"] ++
  namedFrom 0x7b ["LEFT CURLY BRACKET", "VERTICAL LINE", "RIGHT CURLY BRACKET", "TILDE"] ++
  "ABCDEFGHIJKLMNOPQRSTUVWXYZ".toList.flatMap fun c =>
    [("LATIN CAPITAL LETTER " ++ c.toString, c), ("LATIN SMALL LETTER " ++ c.toString, c.toLower)]

/-- The names that are known where no others are given. Case makes no difference in a name. -/
instance : CharacterNames where
  find? name := asciiNames.lookup (name.map Char.toUpper)

end ModuleLint.Text
