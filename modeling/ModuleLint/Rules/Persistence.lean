import ModuleLint.Rules.Context

/-!
# Persistence rules

Persisted classes stand in model files, are marked as such, have a key, and say of each property
how it is stored or computed.
-/

namespace ModuleLint.Rules

/-- Whether a property is a column or a relation. -/
def isPersisted (p : Declaration) : Bool :=
  p.hasDecorator persistenceDecorators

/-- Entity files, whatever they hold. -/
def entityFileNotAllowed (files : List SourceFile) : List Finding :=
  (files.filter fun f => f.role == .entity).map fun f =>
    Rule.entityFileNotAllowed.finding f.path
      ("Entity files (.entity" ++ f.extension ++ ") are not allowed. TypeORM entities should be " ++
        "in .model" ++ f.extension ++ " files") none

/-- Classes with persisted properties that are not marked as persisted. -/
def missingEntityDecorator (ctx : Context) : List Finding :=
  ctx.inClasses (ctx.withRole [.model]) fun f c =>
    whenever (!c.hasDecorator [entity] && c.properties.any isPersisted) <|
      Rule.missingEntityDecorator.finding f.path
        ("Class '" ++ c.shownName ++ "' uses column or relation decorators but is missing the " ++
          "@Entity() decorator") c.line

/-- Persisted classes without a key. A class that extends another may inherit its key. -/
def missingPrimaryColumn (ctx : Context) : List Finding :=
  ctx.inClasses (ctx.withRole [.model]) fun f c =>
    whenever (c.hasDecorator [entity] && (c.base.getD "").isEmpty &&
        !c.properties.any fun p => p.hasDecorator primaryDecorators) <|
      Rule.missingPrimaryColumn.finding f.path
        "Entity must have @PrimaryColumn() or @PrimaryGeneratedColumn() decorator" c.line

/-- Whether a property of a persisted class must say how it is stored: it has a name, which is
not that of the constructor, and is neither persisted nor computed. -/
def lacksColumn (computed : List String) (p : Declaration) : Bool :=
  !p.nameOrEmpty.isEmpty && p.nameOrEmpty != "constructor" && !isPersisted p &&
    !computed.contains p.nameOrEmpty

/-- Properties of persisted classes that are neither persisted nor computed. -/
def missingColumnDecorator (ctx : Context) : List Finding :=
  ctx.inClasses (ctx.withRole [.model]) fun f c =>
    if c.hasDecorator [entity] then
      (c.properties.filter (lacksColumn (ctx.resolverFields.fields c.nameOrEmpty))).map fun p =>
        Rule.missingColumnDecorator.finding f.path
          ("Entity properties should have @Column() or relation decorator for persistence " ++
            "(or be computed via resolver)") p.line
    else []

end ModuleLint.Rules
