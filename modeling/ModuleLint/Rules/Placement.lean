import ModuleLint.Rules.Context

/-!
# Placement rules

Marked classes and methods must stand in files of the matching role, and input types must not
check again what their types already say.
-/

namespace ModuleLint.Rules

/-- Whether a class is a response type: its name tells. -/
def isResponse (c : Declaration) : Bool :=
  Text.occursIn "Response".toList c.nameOrEmpty.toList

/-- Where a class or file was found. -/
def foundIn (f : SourceFile) : String := " files, found in " ++ f.name

/-- Input types outside input files. -/
def inputLocation (ctx : Context) : List Finding :=
  ctx.inClasses (ctx.withoutRole [.input]) fun f c =>
    whenever (c.hasDecorator [inputType]) <|
      Rule.inputLocation.finding f.path
        ("GraphQL input types should be in .input" ++ f.extension ++ foundIn f) c.line

/-- Response types outside response files. -/
def responseLocation (ctx : Context) : List Finding :=
  ctx.inClasses (ctx.withoutRole [.response]) fun f c =>
    whenever (c.hasDecorator [objectType] && isResponse c) <|
      Rule.responseLocation.finding f.path
        ("GraphQL response types should be in .response" ++ f.extension ++ foundIn f) c.line

/-- Persisted classes, and object types that are no response types, outside model files. Each
of the two marks makes a finding of its own. -/
def modelLocation (ctx : Context) : List Finding :=
  ctx.inClasses (ctx.withoutRole [.model]) fun f c =>
    whenever (c.hasDecorator [entity])
      (Rule.modelLocation.finding f.path
        ("TypeORM entities should be in .model" ++ f.extension ++ foundIn f) c.line) ++
    whenever (c.hasDecorator [objectType] && !isResponse c)
      (Rule.modelLocation.finding f.path
        ("GraphQL object types (non-response) should be in .model" ++ f.extension ++ foundIn f)
        c.line)

/-- Operations and field resolvers outside resolver files. -/
def resolverLocation (ctx : Context) : List Finding :=
  ctx.inMethods (ctx.withoutRole [.resolver]) fun f m =>
    whenever (m.hasDecorator endpointDecorators) <|
      Rule.resolverLocation.finding f.path
        ("GraphQL operations (Query, Mutation, Subscription, Field resolvers) should only be in " ++
          ".resolver" ++ f.extension ++ " files") m.line

/-- The finding for a decorator that checks the type of a property. -/
def validationFinding (f : SourceFile) (property : Declaration) (d : Decorator) : Finding :=
  Rule.unnecessaryValidation.finding f.path
    ("@" ++ d.name ++ " validation is unnecessary in GraphQL input types. Type validation is " ++
      "enforced by the GraphQL layer. Remove this decorator for property '" ++
      property.shownName ++ "'.") d.line

/-- Type checks of the fields of input types, at the line of the check. -/
def unnecessaryValidation (ctx : Context) : List Finding :=
  ctx.inClasses (ctx.withRole [.input]) fun f c =>
    if c.hasDecorator [inputType] then
      c.properties.flatMap fun p =>
        if p.hasDecorator [field] then
          (p.decorators.filter fun d => typeValidators.contains d.name).map
            (validationFinding f p)
        else []
    else []

end ModuleLint.Rules
