import ModuleLint.Role

/-!
# Modules of a project

A source file belongs to the logical module that its path names: the directory below a
container of modules, else the directory below the source root, else a directory that its
file or a subdirectory is named after, else the name of a bare categorised file. Files that
name no module belong to none.
-/

namespace ModuleLint.Grouping

/-- The module of the application itself. -/
def applicationModule : String := "app"

/-- Directories whose children are modules. -/
def isContainer (segment : String) : Bool :=
  segment == "modules" || segment == "domains"

/-- The directory that holds the sources of a project. -/
def sourceRoot : String := "src"

/-- The extensions that are looked at unless a configuration says otherwise. -/
def defaultExtensions : List String := [".ts"]

/-- Whether a segment has a dot. -/
def isDotted (segment : String) : Bool :=
  segment.toList.contains '.'

/-- Segments beside the segments that follow them. -/
def neighbours (segments : List String) : List (String × String) :=
  segments.zip segments.tail

/-- The module below a container. -/
def belowContainer? (segments : List String) : Option String :=
  ((neighbours segments).find? fun (s, next) => isContainer s && !isDotted next).map (·.2)

/-- The module below the source root. -/
def belowSourceRoot? (segments : List String) : Option String :=
  ((neighbours segments).find? fun (s, next) =>
    s == sourceRoot && !isContainer next && !isDotted next).map (·.2)

/-- The directory that the next segment is named after. -/
def namesake? (segments : List String) : Option String :=
  ((neighbours segments).find? fun (s, next) =>
    isDotted next && String.ofList (next.toList.takeWhile (· != '.')) == s).map (·.1)

/-- The categories that make a bare file name tell its module. -/
def bareCategories : List String :=
  ["input", "response", "model", "module", "resolver", "service"]

/-- A character of a module name in a bare file name. -/
def isModuleChar (c : Char) : Bool :=
  ('a' ≤ c && c ≤ 'z') || c == '-'

/-- An extension without the dots before it. -/
def bareExtension (extension : String) : List Char :=
  extension.toList.dropWhile (· == '.')

/-- Whether a name may end so after its category: in one of the extensions, and in nothing if
there are none. One line feed may follow. -/
def isBareEnding (extensions : List String) (ending : List Char) : Bool :=
  (if extensions.isEmpty then [[]] else extensions.map bareExtension).any fun e =>
    ending == e || ending == e ++ ['\n']

/-- The module that a bare file name `name.category.ext` tells. -/
def bareModule? (extensions : List String) (fileName : String) : Option String :=
  match (fileName.toList).span (· != '.') with
  | (_, []) => none
  | (stem, _ :: rest) =>
    match rest.span (· != '.') with
    | (_, []) => none
    | (category, _ :: ending) =>
      if !stem.isEmpty && stem.all isModuleChar &&
          bareCategories.contains (String.ofList category) && isBareEnding extensions ending
      then some (String.ofList stem)
      else none

/-- The module that segments name. -/
def moduleOfSegments? (extensions : List String) (segments : List String) : Option String :=
  belowContainer? segments <|> belowSourceRoot? segments <|> namesake? segments <|>
    segments.getLast?.bind (bareModule? extensions)

/-- The module that the file at `path` belongs to. -/
def moduleOf? (extensions : List String) (path : String) : Option String :=
  moduleOfSegments? extensions (Path.segments path)

/-- A module together with its files. -/
structure Group where
  /-- Name of the module. -/
  name : String
  /-- Its files, in the order in which they were met. -/
  files : List SourceFile
  deriving DecidableEq, Repr, Inhabited

/-- Adds a file to its module, which goes to the end if it is new. -/
def insert (name : String) (file : SourceFile) : List Group → List Group
  | [] => [⟨name, [file]⟩]
  | g :: gs =>
    if g.name = name then ⟨g.name, g.files ++ [file]⟩ :: gs else g :: insert name file gs

/-- The modules of a list of files, in the order of their first files. -/
def groups (extensions : List String) (files : List SourceFile) : List Group :=
  files.foldl (fun gs file =>
    match moduleOf? extensions file.path with
    | none => gs
    | some name => insert name file gs) []

end ModuleLint.Grouping
