import ModuleLint.Text.Lines

/-!
# Paths

A path is a text whose segments are separated by `/`. Empty segments and segments `.` mean
nothing, and a leading `/` makes a root segment. Names, stems and extensions are read off the
last segment.
-/

namespace ModuleLint.Path

open ModuleLint.Text (split)

/-- The root segment of a path, if it has one. Exactly two leading slashes make a root of their
own. -/
def root : List Char → List (List Char)
  | '/' :: '/' :: '/' :: _ => [['/']]
  | '/' :: '/' :: _ => [['/', '/']]
  | '/' :: _ => [['/']]
  | _ => []

/-- Whether a segment is passed over. -/
def isIdle (segment : List Char) : Bool :=
  segment.isEmpty || segment == ['.']

/-- The segments of a path. -/
def segments (path : String) : List String :=
  let cs := path.toList
  (root cs ++ (split '/' cs).filter fun s => !isIdle s).map String.ofList

/-- Whether a segment is a root. -/
def isRoot (segment : String) : Bool :=
  segment == "/" || segment == "//"

/-- The last segment of a path, or the empty text if there is none but a root. -/
def name (path : String) : String :=
  match (segments path).getLast? with
  | none => ""
  | some s => if isRoot s then "" else s

/-- The parts of a name before and after its last dot, or `none` if it has no dot. -/
def cutAtLastDot? : List Char → Option (List Char × List Char)
  | [] => none
  | c :: cs =>
    match cutAtLastDot? cs with
    | some (before, after) => some (c :: before, after)
    | none => if c = '.' then some ([], cs) else none

/-- A name taken apart into its stem and its extension. The extension begins at the last dot,
which must be neither the first nor the last character. -/
def stemAndExtension (name : String) : String × String :=
  match cutAtLastDot? name.toList with
  | some (before, after) =>
    if before.isEmpty || after.isEmpty then (name, "")
    else (String.ofList before, String.ofList ('.' :: after))
  | none => (name, "")

/-- The name of a path without its extension. -/
def stem (path : String) : String :=
  (stemAndExtension (name path)).1

/-- The extension of a path, with its dot, or the empty text. -/
def extension (path : String) : String :=
  (stemAndExtension (name path)).2

/-- Segments written as a path, with `.` for none. -/
def render : List String → String
  | [] => "."
  | s :: rest =>
    if isRoot s then s ++ "/".intercalate rest else "/".intercalate (s :: rest)

/-- The path written without the segments that mean nothing. -/
def normalize (path : String) : String :=
  render (segments path)

/-- The path of `inner` seen from `outer`: an absolute path stays as it is. -/
def join (outer inner : String) : List String :=
  let inside := segments inner
  match inside with
  | s :: _ => if isRoot s then inside else segments outer ++ inside
  | [] => segments outer

/-- Whether segments hold the character that no path to a file can hold. -/
def holdsNul (segments : List String) : Bool :=
  segments.any fun s => s.toList.contains '\x00'

end ModuleLint.Path
