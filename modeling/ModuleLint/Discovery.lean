import ModuleLint.Ignore.Pattern
import ModuleLint.Tree
import ModuleLint.Grouping

/-!
# Discovery of source files

Walks a project tree and lists the paths of the source files in it, in the order of their
texts. Directories of dependencies and of build results, test suites, and whatever the ignore
patterns leave out are passed over; a directory that is passed over is not entered.
-/

namespace ModuleLint.Discovery

open ModuleLint.Ignore (Pattern RegexFault)

/-- Directories passed over wherever they lie. -/
def isForeign (name : String) : Bool :=
  name == "node_modules" || name == ".git"

/-- Directories passed over directly below the root. -/
def isBuildResult (name : String) : Bool :=
  name == "dist" || name == "build" || name == "coverage"

/-- The ignore file that is read unless a configuration says otherwise. -/
def defaultIgnoreFile : String := ".gitignore"

/-- What is looked for, and what is left out. -/
structure Settings where
  /-- Endings of the names of source files. -/
  extensions : List String := Grouping.defaultExtensions
  /-- The ignore file, from the root; `none` and the empty text stand for no file. -/
  ignoreFile : Option String := some defaultIgnoreFile
  /-- Further ignore lines, after those of the file. -/
  extraIgnores : List String := []
  deriving DecidableEq, Repr

/-- A name cut before its last dot, unless only dots come before it. -/
def splitEnding (name : String) : List Char × List Char :=
  match Path.cutAtLastDot? name.toList with
  | some (before, after) =>
    if before.all (· == '.') then (name.toList, []) else (before, '.' :: after)
  | none => (name.toList, [])

/-- Whether a name is that of a test suite. -/
def isTestFile (extensions : List String) (name : String) : Bool :=
  let (stem, ending) := splitEnding name
  extensions.contains (String.ofList ending) &&
    (".spec".toList.isSuffixOf stem || ".test".toList.isSuffixOf stem)

/-- Whether a name is that of a source file to look at. -/
def isSourceName (extensions : List String) (name : String) : Bool :=
  (extensions.any fun e => e.toList.isSuffixOf name.toList) && !isTestFile extensions name

/-- The path of an entry of the directory at `base`, which is empty for the root. -/
def childPath (base name : String) : String :=
  if base.isEmpty then name else base ++ "/" ++ name

/-- Whether the directory at `base` is the root. -/
def isAtRoot (base : String) : Bool := base.isEmpty

/-- Whether the name of a directory alone keeps it from being entered. -/
def isSkipped (base name : String) : Bool :=
  isForeign name || (isAtRoot base && isBuildResult name)

section Walk

variable [Text.CharacterNames]

mutual

/-- The source files of the entry `name` in the directory at `base`. -/
def walkEntry (settings : Settings) (patterns : List Pattern) (base name : String) :
    Entry → Except RegexFault (List String)
  | .file _ =>
    if isSourceName settings.extensions name then do
      let path := childPath base name
      if ← Ignore.ignores patterns path false then return [] else return [path]
    else .ok []
  | .directory entries =>
    if isSkipped base name then .ok []
    else do
      let path := childPath base name
      if ← Ignore.ignores patterns path true then return []
      else walkEntries settings patterns path entries

/-- The source files of the entries of the directory at `base`. -/
def walkEntries (settings : Settings) (patterns : List Pattern) (base : String) :
    List (String × Entry) → Except RegexFault (List String)
  | [] => .ok []
  | (name, e) :: es => do
    let found ← walkEntry settings patterns base name e
    let rest ← walkEntries settings patterns base es
    return found ++ rest

end

end Walk

/-- The lines of the ignore file below the directory that `root` leads to. A file that cannot
be read has none. -/
def ignoreLines (tree : Directory) (root : String) : Option String → List String
  | none => []
  | some "" => []
  | some name =>
    match tree.text (Path.join root name) with
    | .ok text => (Text.lines text.toList).map String.ofList
    | .error _ => []

/-- The ignore patterns that apply below `root`, the further ones last. -/
def patterns (tree : Directory) (root : String) (settings : Settings) : List Pattern :=
  Ignore.patternsOfLines (ignoreLines tree root settings.ignoreFile) ++
    Ignore.patternsOfLines settings.extraIgnores

/-- Puts paths in the order of their texts. -/
def sortPaths (paths : List String) : List String :=
  paths.mergeSort fun a b => decide (a ≤ b)

/-- The paths of the source files below the directory that `root` leads to. -/
def discover [Text.CharacterNames] (tree : Directory) (root : String) (settings : Settings) :
    Except RegexFault (List String) :=
  match tree.find? (Path.segments root) with
  | some (.directory entries) =>
    (walkEntries settings (patterns tree root settings) "" entries).map sortPaths
  | _ => .ok []

end ModuleLint.Discovery
