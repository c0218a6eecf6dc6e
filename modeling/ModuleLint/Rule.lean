/-!
# Rules

The rules of a project's structure: their identifiers, severities, and the families in which
they are switched on and off together.
-/

namespace ModuleLint

/-- How much a finding weighs. -/
inductive Severity
  | error
  | warning
  deriving DecidableEq, Repr, Inhabited

/-- The word for a severity. -/
def Severity.word : Severity → String
  | error => "error"
  | warning => "warning"

/-- A family of rules with one switch. -/
inductive Family
  | inputFiles
  | responseFiles
  | modelFiles
  | entityFiles
  | resolverFiles
  | serviceFiles
  | moduleNaming
  | resolverEndpoints
  deriving DecidableEq, Repr, Inhabited

namespace Family

/-- The key of the family's switch. -/
def key : Family → String
  | inputFiles => "check_input_files"
  | responseFiles => "check_response_files"
  | modelFiles => "check_model_files"
  | entityFiles => "check_entity_files"
  | resolverFiles => "check_resolver_files"
  | serviceFiles => "check_service_files"
  | moduleNaming => "check_module_naming"
  | resolverEndpoints => "check_resolver_endpoints"

/-- All families. -/
def all : List Family :=
  [inputFiles, responseFiles, modelFiles, entityFiles, resolverFiles, serviceFiles, moduleNaming,
    resolverEndpoints]

/-- The family with the given key. -/
def ofKey? (key : String) : Option Family :=
  all.find? fun f => f.key == key

/-- A family is found again by its key. -/
theorem ofKey?_key (f : Family) : ofKey? f.key = some f := by
  cases f <;> decide

end Family

/-- A rule. -/
inductive Rule
  | inputLocation
  | responseLocation
  | modelLocation
  | entityFileNotAllowed
  | missingEntityDecorator
  | missingPrimaryColumn
  | missingColumnDecorator
  | resolverClass
  | emptyResolver
  | serviceClass
  | missingModule
  | moduleNaming
  | modulePath
  | resolverLocation
  | multipleArgsDecorators
  | eventInResolver
  | unnecessaryValidation
  deriving DecidableEq, Repr, Inhabited

namespace Rule

/-- The identifier of a rule. -/
def id : Rule → String
  | inputLocation => "input-location"
  | responseLocation => "response-location"
  | modelLocation => "model-location"
  | entityFileNotAllowed => "entity-file-not-allowed"
  | missingEntityDecorator => "missing-entity-decorator"
  | missingPrimaryColumn => "missing-primary-column"
  | missingColumnDecorator => "missing-column-decorator"
  | resolverClass => "resolver-class"
  | emptyResolver => "empty-resolver"
  | serviceClass => "service-class"
  | missingModule => "missing-module"
  | moduleNaming => "module-naming"
  | modulePath => "module-path"
  | resolverLocation => "resolver-location"
  | multipleArgsDecorators => "multiple-args-decorators"
  | eventInResolver => "event-in-resolver"
  | unnecessaryValidation => "unnecessary-validation"

/-- All rules, in the order of their identifiers. -/
def all : List Rule :=
  [emptyResolver, entityFileNotAllowed, eventInResolver, inputLocation, missingColumnDecorator,
    missingEntityDecorator, missingModule, missingPrimaryColumn, modelLocation, moduleNaming,
    modulePath, multipleArgsDecorators, resolverClass, resolverLocation, responseLocation,
    serviceClass, unnecessaryValidation]

/-- The rule with the given identifier. -/
def ofId? (id : String) : Option Rule :=
  all.find? fun r => r.id == id

/-- How much the findings of a rule weigh. -/
def severity : Rule → Severity
  | missingColumnDecorator | emptyResolver | missingModule | moduleNaming | modulePath => .warning
  | _ => .error

/-- The family that a rule belongs to. -/
def family : Rule → Family
  | inputLocation | unnecessaryValidation => .inputFiles
  | responseLocation => .responseFiles
  | modelLocation => .modelFiles
  | entityFileNotAllowed | missingEntityDecorator | missingPrimaryColumn
  | missingColumnDecorator => .entityFiles
  | resolverClass | emptyResolver => .resolverFiles
  | serviceClass => .serviceFiles
  | missingModule | moduleNaming | modulePath => .moduleNaming
  | resolverLocation | multipleArgsDecorators | eventInResolver => .resolverEndpoints

/-- A rule is found again by its identifier. -/
theorem ofId?_id (r : Rule) : ofId? r.id = some r := by
  cases r <;> decide

end Rule

end ModuleLint
