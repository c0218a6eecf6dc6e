/-!
# The vocabulary of decorators

The decorators and methods that rules look for.
-/

namespace ModuleLint.Rules

/-- Marks an input type. -/
def inputType : String := "InputType"

/-- Marks an object type. -/
def objectType : String := "ObjectType"

/-- Marks a persisted class. -/
def entity : String := "Entity"

/-- Marks a resolver. -/
def resolver : String := "Resolver"

/-- Marks a class that can be injected. -/
def injectable : String := "Injectable"

/-- Marks a field of an input or object type. -/
def field : String := "Field"

/-- Binds a parameter to an argument. -/
def args : String := "Args"

/-- Mark a property that is a column. -/
def columnDecorators : List String :=
  ["Column", "PrimaryColumn", "PrimaryGeneratedColumn", "CreateDateColumn", "UpdateDateColumn",
    "DeleteDateColumn", "VersionColumn", "ObjectIdColumn", "Generated"]

/-- Mark a property that is the key of its class. -/
def primaryDecorators : List String :=
  ["PrimaryColumn", "PrimaryGeneratedColumn", "ObjectIdColumn"]

/-- Mark a property that relates persisted classes. -/
def relationDecorators : List String :=
  ["ManyToOne", "OneToMany", "OneToOne", "ManyToMany", "JoinColumn", "JoinTable", "RelationId"]

/-- Mark a property that is persisted. -/
def persistenceDecorators : List String :=
  columnDecorators ++ relationDecorators

/-- Mark a method that is an operation. -/
def operationDecorators : List String := ["Query", "Mutation", "Subscription"]

/-- Mark a method that computes a field. -/
def fieldResolverDecorators : List String := ["ResolveField", "FieldResolver"]

/-- Mark a method that is an operation or computes a field. -/
def endpointDecorators : List String :=
  operationDecorators ++ fieldResolverDecorators

/-- Check the type of a property. -/
def typeValidators : List String :=
  ["IsEnum", "IsString", "IsNumber", "IsBoolean", "IsInt", "IsArray", "IsObject", "IsDate"]

/-- Methods that publish events. -/
def eventMethods : List String := ["emit", "publish", "dispatchEvent", "publishEvent"]

end ModuleLint.Rules
