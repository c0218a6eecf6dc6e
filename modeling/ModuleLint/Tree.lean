import ModuleLint.Path
import ModuleLint.Text.Utf8

/-!
# Project trees

The files and directories of a project as a finite value. The entries of a directory stand in
some order; nothing that depends on the order alone can be learned from a tree.
-/

namespace ModuleLint

/-- A file or a directory. -/
inductive Entry
  /-- A file with the given bytes. -/
  | file (bytes : List UInt8)
  /-- A directory with the given entries by name. -/
  | directory (entries : List (String × Entry))
  deriving Inhabited

/-- The entries of a directory. -/
abbrev Directory := List (String × Entry)

namespace Directory

/-- The entry with the given name. -/
def entry? (d : Directory) (name : String) : Option Entry :=
  (d.find? fun e => e.1 == name).map (·.2)

/-- The entry that segments lead to, from the directory `d` that lies in the directories
`outer`, the innermost first. The segment `..` leads out of a directory, and nothing lies
outside the outermost one. -/
def findFrom? (outer : List Directory) (d : Directory) : List String → Option Entry
  | [] => some (.directory d)
  | name :: names =>
    if name = ".." then
      match outer with
      | [] => none
      | up :: outer => findFrom? outer up names
    else
      match d.entry? name with
      | none => none
      | some (.directory inner) => findFrom? (d :: outer) inner names
      | some (.file bytes) => if names.isEmpty then some (.file bytes) else none

/-- The entry that segments lead to. -/
def find? (d : Directory) (segments : List String) : Option Entry :=
  findFrom? [] d segments

/-- Whether the way along segments stops at a file although segments are left. -/
def passesFile (d : Directory) (segments : List String) : Bool :=
  (List.range segments.length).any fun i =>
    match d.find? (segments.take i) with
    | some (.file _) => true
    | _ => false

end Directory

/-- Why the text of a file cannot be had. -/
inductive ReadFault
  /-- Nothing has the path. -/
  | missing
  /-- A file stands where the path needs a directory. -/
  | notDirectory
  /-- The path leads to a directory. -/
  | isDirectory
  /-- The bytes are no UTF-8. -/
  | malformed (fault : Text.Utf8.Fault)
  deriving DecidableEq, Repr

/-- The bytes of the file that segments lead to. -/
def Directory.bytes (d : Directory) (segments : List String) : Except ReadFault (List UInt8) :=
  match d.find? segments with
  | some (.file bytes) => .ok bytes
  | some (.directory _) => .error .isDirectory
  | none => .error (if d.passesFile segments then .notDirectory else .missing)

/-- The text of bytes, with every line end as a line feed. -/
def textOfBytes (bytes : List UInt8) : Except Text.Utf8.Fault String :=
  (Text.Utf8.decode bytes).map fun cs => String.ofList (Text.unifyLineEnds cs)

/-- The text of the file that segments lead to. -/
def Directory.text (d : Directory) (segments : List String) : Except ReadFault String := do
  let bytes ← d.bytes segments
  match textOfBytes bytes with
  | .ok text => return text
  | .error fault => throw (.malformed fault)

end ModuleLint
