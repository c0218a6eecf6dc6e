import ModuleLint.Tree

/-!
# Editing project trees

Writing a file, making a directory, and removing an entry. Directories on the way are made
where they are missing.
-/

namespace ModuleLint.Directory

/-- Puts an entry under a name, in place of what has it. -/
def put (name : String) (entry : Entry) : Directory → Directory
  | [] => [(name, entry)]
  | e :: es => if e.1 = name then (name, entry) :: es else e :: put name entry es

/-- The entries of a subdirectory, none if there is no such directory. -/
def subdirectory (d : Directory) (name : String) : Directory :=
  match d.entry? name with
  | some (.directory inner) => inner
  | _ => []

/-- Writes a file, and the directories it lies in. -/
def write (bytes : List UInt8) : List String → Directory → Directory
  | [], d => d
  | [name], d => d.put name (.file bytes)
  | name :: names, d => d.put name (.directory (write bytes names (d.subdirectory name)))

/-- Makes a directory, and the directories it lies in. -/
def makeDirectory : List String → Directory → Directory
  | [], d => d
  | name :: names, d =>
    d.put name (.directory (makeDirectory names (d.subdirectory name)))

/-- Removes a file, or a directory with all it holds. -/
def remove : List String → Directory → Directory
  | [], d => d
  | [name], d => d.filter fun e => e.1 != name
  | name :: names, d =>
    match d.entry? name with
    | some (.directory inner) => d.put name (.directory (remove names inner))
    | _ => d

end ModuleLint.Directory
