import ModuleLint.Ignore.Glob
import ModuleLint.Path

/-!
# Ignore patterns

A line of an ignore file holds one pattern: a glob, with marks that negate it, tie it to the
project root, or restrict it to directories. A path is matched together with the directories it
lies in, and of the patterns that match, the last one decides.
-/

namespace ModuleLint.Ignore

open ModuleLint.Text (strip dropEndWhile)

/-- One pattern of an ignore file. -/
structure Pattern where
  /-- The glob. -/
  glob : String
  /-- Whether a match takes the path in again. -/
  negated : Bool
  /-- Whether the glob is matched from the root on, not with single segments. -/
  anchored : Bool
  /-- Whether only directories are matched. -/
  directoryOnly : Bool
  deriving DecidableEq, Repr

/-- The glob without a final `/**`. -/
def dropSubtreeEnd (line : List Char) : List Char :=
  if ['/', '*', '*'].isSuffixOf line then line.take (line.length - 3) else line

/-- The pattern on a line; a blank line and a comment have none. -/
def patternOfLine? (raw : String) : Option Pattern :=
  let line := strip raw.toList
  if line.isEmpty || line.head? == some '#' then none
  else
    let negated := line.head? == some '!'
    let line := if negated then line.drop 1 else line
    let directoryOnly := line.getLast? == some '/'
    let line := dropEndWhile (· == '/') line
    let anchored := line.contains '/'
    let glob := dropSubtreeEnd (line.dropWhile (· == '/'))
    if glob.isEmpty then none
    else some ⟨String.ofList glob, negated, anchored, directoryOnly⟩

/-- The patterns of a list of lines. -/
def patternsOfLines (lines : List String) : List Pattern :=
  lines.filterMap patternOfLine?

/-- The paths made of the first segments, from the first segment alone to all of them. -/
def beginnings (segments : List String) : List String :=
  (List.range segments.length).map fun i => "/".intercalate (segments.take (i + 1))

/-- The texts that a pattern is matched with for a path, each with whether it is a directory:
the path and the directories it lies in, by their whole paths or by their names. -/
def Pattern.candidates (p : Pattern) (path : String) (isDirectory : Bool) :
    List (String × Bool) :=
  let segments := Path.segments path
  (if p.anchored then beginnings segments else segments).zip
    (List.replicate (segments.length - 1) true ++ [isDirectory])

section Matching

variable [Text.CharacterNames]

/-- Whether a path, or a directory it lies in, matches the pattern. -/
def Pattern.hits (p : Pattern) (path : String) (isDirectory : Bool) :
    Except RegexFault Bool :=
  match p.candidates path isDirectory with
  | [] => .ok false
  | candidates => do
    let regex ← compile p.glob
    return candidates.any fun (text, isDirectory) =>
      (isDirectory || !p.directoryOnly) && regex.fullMatch text.toList

/-- Whether a list of patterns leaves a path out: the last pattern that matches decides. -/
def ignores (patterns : List Pattern) (path : String) (isDirectory : Bool) :
    Except RegexFault Bool :=
  patterns.foldlM (fun ignored p => do
    return if ← p.hits path isDirectory then !p.negated else ignored) false

end Matching

end ModuleLint.Ignore
