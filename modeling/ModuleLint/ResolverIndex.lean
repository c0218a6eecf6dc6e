import ModuleLint.Declaration
import ModuleLint.Text.Lines
import ModuleLint.Rules.Vocabulary

/-!
# Computed fields

Which fields of which entities are computed by resolver classes. The index is collected from
the resolver files of the whole project before any rule runs, and has an entry only for an
entity with at least one computed field.
-/

namespace ModuleLint

/-- Entities with the names of their computed fields. -/
abbrev ResolverIndex := List (String × List String)

namespace ResolverIndex

open ModuleLint.Rules

/-- The computed fields of an entity. -/
def fields (index : ResolverIndex) (entity : String) : List String :=
  (index.lookup entity).getD []

/-- The word that ends the name of a resolver class. -/
def resolverEnding : List Char := "Resolver".toList

/-- A class name without the word `Resolver` at its end. A line feed may follow the word. -/
def withoutEnding (name : String) : String :=
  let cs := name.toList
  let (body, rest) := if cs.getLast? = some '\n' ∧ !resolverEnding.isSuffixOf cs
    then (cs.dropLast, ['\n']) else (cs, [])
  if resolverEnding.isSuffixOf body then
    String.ofList (body.take (body.length - resolverEnding.length) ++ rest)
  else name

/-- The entity that an argument of a resolver's decorator names. -/
def entityOfArgument? (a : Argument) : Option String :=
  if a.kind = .thunk ∨ a.kind = .identifier then
    a.value.filter fun v => !v.isEmpty
  else none

/-- The entity of a resolver class: the one that its decorator names, else the one that the
class itself is named after. -/
def entityOf (c : Declaration) : String :=
  (((c.findDecorator? resolver).bind fun d => d.arguments.head?).bind entityOfArgument?).getD
    (withoutEnding c.nameOrEmpty)

/-- The name that a field decorator gives in its options. -/
def optionName? (d : Decorator) : Option String :=
  match d.arguments[1]? with
  | some options =>
    if options.kind = .object then (options.property? "name").bind Argument.stringValue?
    else none
  | none => none

/-- The name of the field that a decorator of a method computes. -/
def fieldOf? (method : Declaration) (d : Decorator) : Option String :=
  if fieldResolverDecorators.contains d.name then
    (d.stringArgument? 0 <|> optionName? d <|> method.name).filter fun name => !name.isEmpty
  else none

/-- The fields that a method computes. -/
def fieldsOf (method : Declaration) : List String :=
  method.decorators.filterMap (fieldOf? method)

/-- Adds the names to a list that are not yet in it. -/
def union (names more : List String) : List String :=
  more.foldl (fun names n => if names.contains n then names else names ++ [n]) names

/-- Adds computed fields to the entry of an entity. -/
def add (entity : String) (names : List String) : ResolverIndex → ResolverIndex
  | [] => [(entity, union [] names)]
  | e :: es => if e.1 = entity then (e.1, union e.2 names) :: es else e :: add entity names es

/-- Adds the computed fields of a class, if it is a resolver. -/
def addClass (index : ResolverIndex) (c : Declaration) : ResolverIndex :=
  if c.hasDecorator [resolver] then
    let names := c.methods.flatMap fieldsOf
    let entity := entityOf c
    if entity.isEmpty || names.isEmpty then index else index.add entity names
  else index

/-- The computed fields of the classes in a list of files. -/
def collect (files : List ParsedFile) : ResolverIndex :=
  files.foldl (fun index file => file.classes.foldl addClass index) []

end ResolverIndex

end ModuleLint
