import ModuleLint.Text.Quoted

/-!
# Faults of regular expressions

What can be wrong with the text of a regular expression, and how it is told: with the place in the
text where it lies, if it lies at a place.
-/

namespace ModuleLint.Ignore

/-- What is wrong with a regular expression. -/
inductive Flaw
  /-- Something is not there. -/
  | missing (what : String)
  /-- A backslash ends the text. -/
  | trailingBackslash
  /-- No bracket closes a class. -/
  | unterminatedSet
  /-- The ends of a range, as written, are out of order or no single characters. -/
  | badRange (low high : String)
  /-- A backslash stands before something it cannot escape. -/
  | badEscape (escape : String)
  /-- An escape by code point has too few digits. -/
  | incompleteEscape (escape : String)
  /-- An octal escape is above 0o377. -/
  | octalOutOfRange (escape : String)
  /-- No character has the name. -/
  | undefinedName (name : String)
  /-- There is nothing that could be repeated. -/
  | nothingToRepeat
  /-- Repetitions are repeated. -/
  | multipleRepeat
  /-- The least number of repetitions is above the greatest. -/
  | reversedRepeat
  /-- A number of repetitions is too large. -/
  | repeatTooLarge
  /-- A number has too many digits to be read. -/
  | tooManyDigits (digits : Nat)
  /-- The text ends within a group. -/
  | unexpectedEnd
  /-- A group begins like no known sort of groups. -/
  | unknownExtension (beginning : String)
  /-- The name of a group is no name. -/
  | badGroupName (name : String)
  /-- No group has the name. -/
  | unknownGroup (name : String)
  /-- Two groups have the same name. -/
  | redefinedGroup (name : String) (group earlier : Nat)
  /-- A group is numbered with zero. -/
  | badGroupNumber
  /-- No group has the number. -/
  | invalidGroup (group : Nat)
  /-- A group is mentioned before its end. -/
  | openGroup
  /-- A group is mentioned within the look behind that it lies in. -/
  | groupInSameLookbehind
  /-- A condition has more than two branches. -/
  | tooManyBranches
  /-- Switches for the whole expression do not come first. -/
  | misplacedFlags
  /-- A switch is none. -/
  | unknownFlag
  /-- Switches cannot be set like this. -/
  | badFlags (reason : String)
  /-- A parenthesis closes nothing. -/
  | unbalancedParenthesis
  /-- A look behind goes back too far. -/
  | lookbehindTooFar
  /-- A look behind may go back by different numbers of characters. -/
  | lookbehindWithoutWidth
  deriving DecidableEq, Repr

/-- The wording of a flaw. -/
def Flaw.message : Flaw → String
  | missing what => "missing " ++ what
  | trailingBackslash => "bad escape (end of pattern)"
  | unterminatedSet => "unterminated character set"
  | badRange low high => "bad character range " ++ low ++ "-" ++ high
  | badEscape escape => "bad escape " ++ escape
  | incompleteEscape escape => "incomplete escape " ++ escape
  | octalOutOfRange escape => "octal escape value " ++ escape ++ " outside of range 0-0o377"
  | undefinedName name => "undefined character name " ++ Text.quoted name
  | nothingToRepeat => "nothing to repeat"
  | multipleRepeat => "multiple repeat"
  | reversedRepeat => "min repeat greater than max repeat"
  | repeatTooLarge => "the repetition number is too large"
  | tooManyDigits digits =>
    "Exceeds the limit (4300 digits) for integer string conversion: value has " ++
      toString digits ++ " digits; use sys.set_int_max_str_digits() to increase the limit"
  | unexpectedEnd => "unexpected end of pattern"
  | unknownExtension beginning => "unknown extension ?" ++ beginning
  | badGroupName name => "bad character in group name " ++ Text.quoted name
  | unknownGroup name => "unknown group name " ++ Text.quoted name
  | redefinedGroup name group earlier =>
    "redefinition of group name " ++ Text.quoted name ++ " as group " ++ toString group ++
      "; was group " ++ toString earlier
  | badGroupNumber => "bad group number"
  | invalidGroup group => "invalid group reference " ++ toString group
  | openGroup => "cannot refer to an open group"
  | groupInSameLookbehind =>
    "cannot refer to group defined in the same lookbehind subpattern"
  | tooManyBranches => "conditional backref with more than two branches"
  | misplacedFlags => "global flags not at the start of the expression"
  | unknownFlag => "unknown flag"
  | badFlags reason => "bad inline flags: " ++ reason
  | unbalancedParenthesis => "unbalanced parenthesis"
  | lookbehindTooFar => "looks too much behind"
  | lookbehindWithoutWidth => "look-behind requires fixed-width pattern"

/-- Whether a flaw is told with its place. -/
def Flaw.hasPlace : Flaw → Bool
  | repeatTooLarge | tooManyDigits _ | lookbehindTooFar | lookbehindWithoutWidth => false
  | _ => true

/-- A flaw together with its place in the text. -/
structure RegexFault where
  /-- What is wrong. -/
  flaw : Flaw
  /-- Offset of the flaw. -/
  offset : Nat
  /-- The text of the regular expression. -/
  text : List Char
  deriving DecidableEq, Repr

/-- The line and the column of an offset, both counted from one. -/
def lineAndColumn (text : List Char) (offset : Nat) : Nat × Nat :=
  let before := text.take offset
  (before.count '\n' + 1, (before.reverse.takeWhile (· != '\n')).length + 1)

/-- The wording of a fault. A text of several lines has the place told by line and column as
well. -/
def RegexFault.message (f : RegexFault) : String :=
  let place := f.flaw.message ++ " at position " ++ toString f.offset
  if !f.flaw.hasPlace then f.flaw.message
  else if '\n' ∈ f.text then
    let (line, column) := lineAndColumn f.text f.offset
    place ++ " (line " ++ toString line ++ ", column " ++ toString column ++ ")"
  else place

/-- A regular expression being read: its whole text, for the places of faults. -/
abbrev RegexText := List Char

/-- The offset of what is left of a text. -/
def offsetOf (text rest : List Char) : Nat :=
  text.length - rest.length

/-- The fault that lies `back` characters before what is left. -/
def faultAt (text rest : List Char) (back : Nat) (flaw : Flaw) : RegexFault :=
  ⟨flaw, offsetOf text rest - back, text⟩

end ModuleLint.Ignore
