import ModuleLint.Rules.Context

/-!
# Layout rules

Resolver and service files declare the classes they are for, and a module has a definition file
with the right name in the right place. The application's own module is free in this.
-/

namespace ModuleLint.Rules

/-- Whether a file declares a resolver. -/
def hasResolver (p : ParsedFile) : Bool :=
  p.classes.any fun c => c.hasDecorator [resolver]

/-- Resolver files without a resolver. -/
def resolverClass (ctx : Context) : List Finding :=
  ctx.inParsed (ctx.withRole [.resolver]) fun f p =>
    whenever (!hasResolver p) <|
      Rule.resolverClass.finding f.path
        "Resolver files should contain a class decorated with @Resolver()" none

/-- Resolver files whose resolvers resolve nothing. -/
def emptyResolver (ctx : Context) : List Finding :=
  ctx.inParsed (ctx.withRole [.resolver]) fun f p =>
    whenever (hasResolver p && !p.methods.any fun m => m.hasDecorator endpointDecorators) <|
      Rule.emptyResolver.finding f.path
        "Resolver file does not contain any Query, Mutation, Subscription, or Field resolvers"
        none

/-- Whether a class is a service: it can be injected, or its name tells. -/
def isService (c : Declaration) : Bool :=
  c.hasDecorator [injectable] || "Service".toList.isSuffixOf c.nameOrEmpty.toList

/-- Service files without a service. -/
def serviceClass (ctx : Context) : List Finding :=
  ctx.inParsed (ctx.withRole [.service]) fun f p =>
    whenever (!p.classes.any isService) <|
      Rule.serviceClass.finding f.path
        ("Service files should contain a class decorated with @Injectable() or a class name " ++
          "ending with Service") none

/-- Whether a file is that of a controller, as its name tells. -/
def isController (f : SourceFile) : Bool :=
  let parts := Role.nameParts f.name
  2 < parts.length && parts.dropLast.getLast? == some "controller"

/-- Whether a module has files that a definition must wire up. -/
def isWired (ctx : Context) : Bool :=
  !(ctx.withRole [.resolver, .service, .model]).isEmpty || ctx.files.any isController

/-- Whether a module is that of the application itself. -/
def isApplication (ctx : Context) : Bool :=
  ctx.module_ == Grouping.applicationModule

/-- Modules with files to wire up but no definition. -/
def missingModule (ctx : Context) : List Finding :=
  whenever (!isApplication ctx && (ctx.withRole [.definition]).isEmpty && isWired ctx) <|
    Rule.missingModule.finding ctx.module_
      ("Module \"" ++ ctx.module_ ++ "\" is missing a .module.ts file") none

/-- The name of a module's definition file, without its extension. -/
def definitionStem (ctx : Context) : String := ctx.module_ ++ ".module"

/-- Definition files that are not named after their module. -/
def moduleNaming (ctx : Context) : List Finding :=
  if isApplication ctx then []
  else
    (ctx.withRole [.definition]).flatMap fun f =>
      let stem := Path.stem f.name
      whenever (stem != definitionStem ctx) <|
        Rule.moduleNaming.finding f.path
          ("Module file should be named \"" ++ definitionStem ctx ++ f.extension ++
            "\", found \"" ++ stem ++ f.extension ++ "\"") none

/-- Definition files that do not lie in the directory of their module. -/
def modulePath (ctx : Context) : List Finding :=
  if isApplication ctx then []
  else
    (ctx.withRole [.definition]).flatMap fun f =>
      let expected := ctx.module_ ++ "/" ++ definitionStem ctx ++ f.extension
      whenever (f.path != expected && !(("/" ++ expected).toList.isSuffixOf f.path.toList)) <|
        Rule.modulePath.finding f.path
          ("Module file should be at path ending with \"" ++ expected ++ "\", found at \"" ++
            f.path ++ "\"") none

end ModuleLint.Rules
