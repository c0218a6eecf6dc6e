import ModuleLint.Ignore.RegexReader

/-!
# Glob patterns

A glob pattern is a sequence of wild cards, bracket classes and literal characters. Each of
them stands for a piece of a regular expression, in whose text the body of a bracket class is
as it was written.
-/

namespace ModuleLint.Ignore

/-- A unit of a glob pattern. -/
inductive GlobToken
  /-- `**/`: any directories, or none. -/
  | subtree
  /-- `**`: anything. -/
  | anything
  /-- `*`: any part of a segment. -/
  | part
  /-- `?`: one character of a segment. -/
  | single
  /-- A bracket class with the given body. -/
  | bracket (body : List Char)
  /-- A character that stands for itself. -/
  | literal (c : Char)
  deriving DecidableEq, Repr

/-- The body of a class after its opening bracket: at least one character, and all up to the
closing bracket. -/
def bracketBody? : List Char → Option (List Char)
  | [] => none
  | c :: cs =>
    match cs.span (· != ']') with
    | (_, []) => none
    | (body, _ :: _) => some (c :: body)

/-- The units of a glob pattern after its next `passed` characters. -/
def globTokensFrom : Nat → List Char → List GlobToken
  | _, [] => []
  | passed + 1, _ :: cs => globTokensFrom passed cs
  | 0, '*' :: cs =>
    match cs with
    | '*' :: '/' :: _ => .subtree :: globTokensFrom 2 cs
    | '*' :: _ => .anything :: globTokensFrom 1 cs
    | _ => .part :: globTokensFrom 0 cs
  | 0, '?' :: cs => .single :: globTokensFrom 0 cs
  | 0, '[' :: cs =>
    match bracketBody? cs with
    | none => .literal '[' :: globTokensFrom 0 cs
    | some body => .bracket body :: globTokensFrom (body.length + 1) cs
  | 0, '\\' :: cs =>
    match cs with
    | [] => [.literal '\\']
    | c :: _ => .literal c :: globTokensFrom 1 cs
  | 0, c :: cs => .literal c :: globTokensFrom 0 cs

/-- The units of a glob pattern. -/
def globTokens (pattern : List Char) : List GlobToken :=
  globTokensFrom 0 pattern

/-- Characters that a regular expression gives a meaning of their own. -/
def isSpecial (c : Char) : Bool :=
  "()[]\x7b\x7d?*+-|^$\\.&~# \t\n\r".toList.contains c || c.toNat == 11 || c.toNat == 12

/-- The text that stands for the character itself. -/
def escapeChar (c : Char) : List Char :=
  if isSpecial c then ['\\', c] else [c]

/-- The body of a class with its negation written as regular expressions write it. -/
def regexBody : List Char → List Char
  | '!' :: cs => '^' :: cs
  | cs => cs

/-- The text of the regular expression for a unit. -/
def GlobToken.regexText : GlobToken → List Char
  | subtree => "(?:.*/)?".toList
  | anything => ".*".toList
  | part => "[^/]*".toList
  | single => "[^/]".toList
  | bracket body => '[' :: regexBody body ++ [']']
  | literal c => escapeChar c

/-- The text of the regular expression for a glob pattern. -/
def regexText (pattern : List Char) : List Char :=
  (globTokens pattern).flatMap GlobToken.regexText

/-- The regular expression of a glob pattern, or the fault that keeps it from being read. -/
def compile [Text.CharacterNames] (pattern : String) : Except RegexFault Regex :=
  readRegex (regexText pattern.toList)

end ModuleLint.Ignore
