import ModuleLint.RuleSet
import ModuleLint.Rules.Endpoints
import ModuleLint.Rules.Layout
import ModuleLint.Rules.Persistence
import ModuleLint.Rules.Placement

/-!
# Evaluation of rules

The rules in the order in which they run. A rule that is not enabled does not run at all.
-/

namespace ModuleLint.Evaluation

open ModuleLint.Rules (Context)

/-- The rules that look at all files of the project. -/
def projectRules : List (Rule × (List SourceFile → List Finding)) :=
  [(.entityFileNotAllowed, Rules.entityFileNotAllowed)]

/-- The rules that look at one module, in the order in which they run. -/
def moduleRules : List (Rule × (Context → List Finding)) :=
  [(.modelLocation, Rules.modelLocation),
    (.inputLocation, Rules.inputLocation),
    (.responseLocation, Rules.responseLocation),
    (.missingEntityDecorator, Rules.missingEntityDecorator),
    (.missingPrimaryColumn, Rules.missingPrimaryColumn),
    (.missingColumnDecorator, Rules.missingColumnDecorator),
    (.unnecessaryValidation, Rules.unnecessaryValidation),
    (.resolverClass, Rules.resolverClass),
    (.emptyResolver, Rules.emptyResolver),
    (.serviceClass, Rules.serviceClass),
    (.missingModule, Rules.missingModule),
    (.moduleNaming, Rules.moduleNaming),
    (.modulePath, Rules.modulePath),
    (.resolverLocation, Rules.resolverLocation),
    (.multipleArgsDecorators, Rules.multipleArgsDecorators),
    (.eventInResolver, Rules.eventInResolver)]

/-- The enabled ones among rules. -/
def enabled {α : Type} (rules : RuleSet) (checks : List (Rule × α)) : List (Rule × α) :=
  checks.filter fun c => rules.isEnabled c.1

/-- The findings of the enabled rules that look at all files. -/
def evaluateProject (files : List SourceFile) (rules : RuleSet) : List Finding :=
  (enabled rules projectRules).flatMap fun c => c.2 files

/-- The findings of the enabled rules in a module, rule by rule. -/
def evaluateModule (ctx : Context) (rules : RuleSet) : List Finding :=
  (enabled rules moduleRules).flatMap fun c => c.2 ctx

end ModuleLint.Evaluation
