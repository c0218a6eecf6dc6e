import ModuleLint.Rule

/-!
# Findings

A finding reports one violation of a rule.
-/

namespace ModuleLint

/-- A violation of a rule. -/
structure Finding where
  /-- Path of the file, or the name of the module if a whole module is meant. -/
  file : String
  /-- Identifier of the rule. -/
  rule : String
  /-- What is wrong. -/
  message : String
  /-- Word for the severity. -/
  severity : String
  /-- The line in the file, counted from one. -/
  line : Option Int
  /-- The lines around it. -/
  snippet : Option String
  deriving DecidableEq, Repr, Inhabited

/-- Whether a finding is an error. -/
def Finding.isError (f : Finding) : Bool :=
  f.severity == Severity.error.word

/-- A finding of a rule, with the rule's severity. -/
def Rule.finding (rule : Rule) (file message : String) (line : Option Int) : Finding :=
  ⟨file, rule.id, message, rule.severity.word, line, none⟩

end ModuleLint
