import ModuleLint.Finding
import ModuleLint.Grouping
import ModuleLint.ResolverIndex

/-!
# What rules look at

A rule looks at one module, or at all files of the project. A file that could not be read or
parsed still belongs to its module, but nothing is known of its declarations.
-/

namespace ModuleLint.Rules

/-- A module, as the rules see it. -/
structure Context where
  /-- Name of the module. -/
  module_ : String
  /-- Its files. -/
  files : List SourceFile
  /-- The declarations of a file, by its path. -/
  parsed : String → Option ParsedFile
  /-- The computed fields of the whole project. -/
  resolverFields : ResolverIndex

namespace Context

/-- The files with one of the roles. -/
def withRole (c : Context) (roles : List Role) : List SourceFile :=
  c.files.filter fun f => roles.contains f.role

/-- The files with none of the roles. -/
def withoutRole (c : Context) (roles : List Role) : List SourceFile :=
  c.files.filter fun f => !roles.contains f.role

/-- The findings of `check` in those of the files whose declarations are known. -/
def inParsed (c : Context) (files : List SourceFile)
    (check : SourceFile → ParsedFile → List Finding) : List Finding :=
  files.flatMap fun f => ((c.parsed f.path).map (check f)).getD []

/-- The findings of `check` in the classes of the files whose declarations are known. -/
def inClasses (c : Context) (files : List SourceFile)
    (check : SourceFile → Declaration → List Finding) : List Finding :=
  c.inParsed files fun f p => p.classes.flatMap (check f)

/-- The findings of `check` in the methods of the files whose declarations are known. -/
def inMethods (c : Context) (files : List SourceFile)
    (check : SourceFile → Declaration → List Finding) : List Finding :=
  c.inParsed files fun f p => p.methods.flatMap (check f)

end Context

/-- One finding if a condition holds, and none otherwise. -/
def whenever (condition : Bool) (finding : Finding) : List Finding :=
  if condition then [finding] else []

end ModuleLint.Rules
