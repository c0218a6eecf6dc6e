import ModuleLint.Data
import ModuleLint.Rule

/-!
# Rule sets

Which rules run: switches of families, and rules that are disabled one by one. A rule runs if
it is not disabled and its family is not switched off.
-/

namespace ModuleLint

/-- A choice of rules. -/
structure RuleSet where
  /-- The families that were switched, with what they were switched to. -/
  families : List (Family × Bool) := []
  /-- The rules that are disabled by themselves. -/
  disabled : List Rule := []
  deriving DecidableEq, Repr, Inhabited

/-- What is wrong with a switch or a list of rules. -/
inductive RuleFault
  /-- A switch is neither on nor off. -/
  | notBoolean (key value : Data)
  /-- A switch belongs to nothing. -/
  | unknownKey (key : Data)
  /-- Identifiers belong to no rule. -/
  | unknownRules (ids : List String)
  deriving Repr

/-- The wording of a fault. -/
def RuleFault.message : RuleFault → String
  | notBoolean key value =>
    "switch '" ++ key.plain ++ "' must be true or false, got " ++ value.shown
  | unknownKey key => "unknown rule family or rule id: '" ++ key.plain ++ "'"
  | unknownRules ids => "unknown rule id(s): " ++ commaJoined ids

/-- Texts in order and without repetition. -/
def sortedTexts (texts : List String) : List String :=
  (texts.mergeSort fun a b => decide (a ≤ b)).eraseDups

namespace RuleSet

/-- What a family is switched to. A family that was not switched is on. -/
def familyOn (rules : RuleSet) (family : Family) : Bool :=
  (rules.families.lookup family).getD true

/-- Whether a rule runs. -/
def isEnabled (rules : RuleSet) (rule : Rule) : Bool :=
  !rules.disabled.contains rule && rules.familyOn rule.family

/-- The rules that run, in the order of their identifiers. -/
def enabledRules (rules : RuleSet) : List Rule :=
  Rule.all.filter rules.isEnabled

/-- The rules that are disabled by themselves, in the order of their identifiers. -/
def disabledRules (rules : RuleSet) : List Rule :=
  Rule.all.filter rules.disabled.contains

/-- Switches a family. -/
def switch (rules : RuleSet) (family : Family) (on : Bool) : RuleSet :=
  { rules with families := (rules.families.filter fun f => f.1 != family) ++ [(family, on)] }

/-- Disables a rule. -/
def disable (rules : RuleSet) (rule : Rule) : RuleSet :=
  { rules with disabled := rules.disabled ++ [rule] }

/-- Takes in one switch. A rule that is switched on stays as it was. -/
def applySwitch (rules : RuleSet) (key value : Data) : Except RuleFault RuleSet :=
  match value with
  | .bool on =>
    match key.text?.bind Family.ofKey?, key.text?.bind Rule.ofId? with
    | some family, _ => .ok (rules.switch family on)
    | none, some rule => .ok (if on then rules else rules.disable rule)
    | none, none => .error (.unknownKey key)
  | _ => .error (.notBoolean key value)

/-- The rule set of a mapping of families and rules to truth values. -/
def ofSwitches (switches : List (Data × Data)) : Except RuleFault RuleSet :=
  switches.foldlM (fun rules (key, value) => rules.applySwitch key value) {}

/-- The rule set with further rules disabled. -/
def without (rules : RuleSet) (ids : List String) : Except RuleFault RuleSet :=
  let unknown := ids.filter fun id => (Rule.ofId? id).isNone
  if unknown.isEmpty then
    .ok { rules with disabled := rules.disabled ++ ids.filterMap Rule.ofId? }
  else .error (.unknownRules (sortedTexts unknown))

end RuleSet

end ModuleLint
