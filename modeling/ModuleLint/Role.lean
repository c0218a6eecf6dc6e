import ModuleLint.Path

/-!
# File roles

A source file announces its role by a name of the form `name.category.ext`. The role of a file
follows from its path alone.
-/

namespace ModuleLint

/-- The declared role of a source file. -/
inductive Role
  | input
  | response
  | model
  | entity
  | repository
  | definition
  | resolver
  | service
  | other
  deriving DecidableEq, Repr, Inhabited

namespace Role

/-- The category that names a role. -/
def category : Role → String
  | input => "input"
  | response => "response"
  | model => "model"
  | entity => "entity"
  | repository => "repository"
  | definition => "module"
  | resolver => "resolver"
  | service => "service"
  | other => "other"

/-- The roles that a file name can announce. -/
def announced : List Role :=
  [input, response, model, entity, repository, definition, resolver, service]

/-- The role with the given category, if there is one. -/
def ofCategory? (category : String) : Option Role :=
  (announced ++ [other]).find? fun r => r.category == category

/-- The pieces of a name between its dots. -/
def nameParts (name : String) : List String :=
  (Text.split '.' name.toList).map String.ofList

/-- The category that a name announces: its last part but one, if there are at least three
parts and the first is not empty. -/
def categoryOf? (name : String) : Option String :=
  match nameParts name with
  | first :: rest =>
    if rest.length < 2 || first.isEmpty then none else rest.dropLast.getLast?
  | [] => none

/-- The role of the file at `path`. -/
def ofPath (path : String) : Role :=
  match categoryOf? (Path.name path) with
  | none => other
  | some category => (announced.find? fun r => r.category == category).getD other

end Role

/-- A source file: its path from the project root, and its role. -/
structure SourceFile where
  /-- Path from the project root. -/
  path : String
  /-- Declared role. -/
  role : Role
  deriving DecidableEq, Repr, Inhabited

namespace SourceFile

/-- The source file at `path`, with the role that its name announces. -/
def ofPath (path : String) : SourceFile :=
  ⟨path, Role.ofPath path⟩

@[simp] theorem ofPath_path (path : String) : (ofPath path).path = path := by
  rw [ofPath]

@[simp] theorem ofPath_role (path : String) : (ofPath path).role = Role.ofPath path := by
  rw [ofPath]

/-- The file's name. -/
def name (file : SourceFile) : String :=
  Path.name file.path

/-- The file's extension, with its dot. -/
def extension (file : SourceFile) : String :=
  Path.extension file.path

end SourceFile

end ModuleLint
