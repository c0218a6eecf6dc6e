import ModuleLint.Proofs.Filtering

/-!
# Switching rules off

A disabled check does not run, yet a run with some rules switched off reports exactly what a
run with all rules reports under the others: no check depends on what another one has found,
and snippets, errors and warnings come out the same for each finding by itself.
-/

namespace ModuleLint

open ModuleLint.Text (CharacterNames)

namespace Survey

/-- The findings of the enabled rules are those findings of all rules that are admitted. -/
theorem findings_eq_filter (s : Survey) (rules : RuleSet) :
    s.findings rules = (s.findings {}).filter rules.admits := by
  have hmodule (ctx : Rules.Context) :
      Evaluation.evaluateModule ctx rules =
        (Evaluation.evaluateModule ctx {}).filter rules.admits := by
    unfold Evaluation.evaluateModule
    rw [Evaluation.flatMap_enabled Evaluation.truthful_moduleRules, Evaluation.enabled_default]
  have hproject : Evaluation.evaluateProject s.files rules =
      (Evaluation.evaluateProject s.files {}).filter rules.admits := by
    unfold Evaluation.evaluateProject
    rw [Evaluation.flatMap_enabled Evaluation.truthful_projectRules, Evaluation.enabled_default]
  rw [findings, findings, List.filter_append, ← hproject, List.filter_flatMap]
  simp only [hmodule]

/-- The report of the enabled rules is the report of all rules reduced to them. -/
theorem report_eq_filter (s : Survey) (rules : RuleSet) (read : String → Option String) :
    s.report rules read = (s.report {} read).filter rules.admits := by
  rw [report_filter s {} read _ (fun g => by simp [RuleSet.admits]), ← findings_eq_filter]
  rfl

end Survey

namespace Validation

/-- A run with rules switched off fails just as a run with all rules does, and else reports what
that run reports under the enabled rules: in the same order, with the same snippets, and with the
same modules and number of files. -/
theorem validate_eq_filter [CharacterNames] (tree : Directory) (root : String)
    (switches : Option (List (Data × Data))) (config : Config) (rules : RuleSet)
    (hrules : rulesOf switches config = .ok rules) :
    validate tree root switches config =
      (validate tree root none { config with rules := {} }).map (·.filter rules.admits) := by
  have hall : rulesOf none { config with rules := {} } = .ok {} := rfl
  unfold validate
  rw [hrules, hall]
  cases checkRoot tree root with
  | error fault => rfl
  | ok _ =>
    cases survey tree root config.discovery with
    | error fault => rfl
    | ok s =>
      simp only [bind, Except.bind, Except.map, pure, Except.pure, s.report_eq_filter rules]

/-- A project with a forbidden entity file and a misnamed definition file. -/
def misnamedProject : Directory :=
  [("src", .directory [("user", .directory
    [("user.entity.ts", .file []), ("users.module.ts", .file [])])])]

/-- Without the rule on names of definition files, the run on that project reports what the run
with all rules reports under the others. -/
theorem validate_eq_filter_misnamed :
    rulesOf (some [(.text "module-naming", .bool false)]) {} =
        .ok ⟨[], [.moduleNaming]⟩ ∧
      validate misnamedProject "" (some [(.text "module-naming", .bool false)]) {} =
        (validate misnamedProject "" none {}).map
          (·.filter (RuleSet.admits ⟨[], [.moduleNaming]⟩)) := by
  have hrules : rulesOf (some [(.text "module-naming", .bool false)]) {} =
      .ok ⟨[], [.moduleNaming]⟩ := rfl
  exact ⟨hrules, validate_eq_filter misnamedProject "" _ {} _ hrules⟩

end Validation

end ModuleLint
