import ModuleLint.Rules.Context

/-!
# Endpoint rules

Operations take one argument, and resolvers leave it to services to publish events.
-/

namespace ModuleLint.Rules

/-- A text, unless it is missing or empty. -/
def nonEmpty? (text : Option String) : Option String :=
  text.filter fun t => !t.isEmpty

/-- The name that a parameter is bound to by a decorator. -/
def boundName (parameter : Declaration) (d : Decorator) : String :=
  (nonEmpty? (d.stringArgument? 0) <|> nonEmpty? parameter.name).getD "unknown"

/-- The names that a method binds to arguments, each with the line of its parameter. -/
def argumentBindings (method : Declaration) : List (String × Int) :=
  method.parameters.flatMap fun p =>
    (p.decorators.filter fun d => d.name == args).map fun d => (boundName p d, p.line)

/-- The finding for an operation with several arguments. -/
def summaryFinding (f : SourceFile) (m : Declaration) (bindings : List (String × Int)) :
    Finding :=
  let listed := bindings.map fun b => "@Args('" ++ b.1 ++ "')"
  Rule.multipleArgsDecorators.finding f.path
    ("GraphQL endpoints should have maximum 1 @Args() decorator. Method '" ++ m.shownName ++
      "' has " ++ toString bindings.length ++ " @Args() decorators (" ++ ", ".intercalate listed ++
      "). When there are multiple arguments, combine them into a single input type.") m.line

/-- The finding for one of several arguments. -/
def argumentFinding (f : SourceFile) (binding : String × Int) : Finding :=
  Rule.multipleArgsDecorators.finding f.path
    ("Parameter '" ++ binding.1 ++ "' should be part of an input type instead of using @Args() " ++
      "directly") binding.2

/-- Operations with several arguments: a finding for the operation, and one for each argument
after it. -/
def multipleArgsDecorators (ctx : Context) : List Finding :=
  ctx.inMethods (ctx.withRole [.resolver]) fun f m =>
    let bindings := argumentBindings m
    if m.hasDecorator operationDecorators && 1 < bindings.length then
      summaryFinding f m bindings :: bindings.map (argumentFinding f)
    else []

/-- Events that are published from resolver files. -/
def eventInResolver (ctx : Context) : List Finding :=
  ctx.inParsed (ctx.withRole [.resolver]) fun f p =>
    (p.calls.filter fun c => eventMethods.contains c.method).map fun c =>
      Rule.eventInResolver.finding f.path
        ("Event publishing should only be done in service layer, not in resolvers. Move this." ++
          c.method ++ "() to a service method.") c.line

end ModuleLint.Rules
