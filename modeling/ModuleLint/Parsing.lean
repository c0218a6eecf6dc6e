import ModuleLint.Extraction
import ModuleLint.Tree
import ModuleLint.TypeScript.Reader

/-!
# Parsing source files

From the text of a file to its declarations. Only files of a known dialect are parsed, and the
extension of a file tells its dialect.
-/

namespace ModuleLint.Parsing

/-- The declarations of a source text, if its extension is that of a known dialect. -/
def ofText (path extension source : String) : Option ParsedFile :=
  (TypeScript.Dialect.ofExtension? extension).map fun dialect =>
    Extraction.parsedFileOf path (TypeScript.read dialect source)

/-- The declarations of a file below the directory that `root` leads to, if it can be read. -/
def ofFile (tree : Directory) (root path : String) : Option ParsedFile :=
  match tree.text (Path.join root path) with
  | .ok source => ofText path (Path.extension path) source
  | .error _ => none

end ModuleLint.Parsing
