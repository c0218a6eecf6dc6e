import ModuleLint.Config
import ModuleLint.Yaml.Value

/-!
# Configuration files

The configuration of a run is that of the file it names, else that of the project's own
configuration file, else the default.
-/

namespace ModuleLint

/-- What is wrong with a configuration file. -/
inductive ConfigFileFault
  /-- The file cannot be read. -/
  | unreadable (path : String) (fault : ReadFault)
  /-- Its text is no document. -/
  | badText (fault : Yaml.Fault)
  /-- The document describes no configuration. -/
  | badDocument (fault : ConfigFault)

/-- The wording of why a file cannot be read. -/
def ReadFault.message (path : String) : ReadFault → String
  | missing => "[Errno 2] No such file or directory: " ++ Text.quoted path
  | notDirectory => "[Errno 20] Not a directory: " ++ Text.quoted path
  | isDirectory => "[Errno 21] Is a directory: " ++ Text.quoted path
  | malformed fault => fault.message

/-- What a fault's message says, unless the fault has no message. -/
def ConfigFileFault.detail? : ConfigFileFault → Option String
  | unreadable path fault => some (fault.message path)
  | badText (.malformed m) => some (Config.fileName ++ ": invalid YAML: " ++ m.message)
  | badText fault => fault.message?
  | badDocument fault => fault.message?

/-- The wording of a fault, if it has one. -/
def ConfigFileFault.message? (fault : ConfigFileFault) : Option String :=
  fault.detail?.map fun detail => "Invalid configuration: " ++ detail

namespace Config

/-- The project's own configuration file, if there is one below `root`. -/
def find? (tree : Directory) (root : String) : Option String :=
  let segments := Path.join root fileName
  match tree.find? segments with
  | some (.file _) => some (Path.render segments)
  | _ => none

/-- The configuration that the text of a file describes. -/
def ofText (text : String) : Except ConfigFileFault Config := do
  let data ← (Yaml.read text).mapError .badText
  (ofData data).mapError .badDocument

/-- The configuration that the file at a path describes. -/
def load (tree : Directory) (path : String) : Except ConfigFileFault Config := do
  let text ← (tree.text (Path.segments path)).mapError (.unreadable (Path.normalize path))
  ofText text

/-- The path of the file that configures a run: the named one, or the project's own. -/
def path? (tree : Directory) (root : String) (named : Option String) : Option String :=
  match named with
  | some path => some (Path.normalize path)
  | none => find? tree root

/-- The configuration of a run. -/
def resolve (tree : Directory) (root : String) (named : Option String) :
    Except ConfigFileFault Config :=
  match path? tree root named with
  | some path => load tree path
  | none => .ok {}

end Config

end ModuleLint
