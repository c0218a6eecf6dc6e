import ModuleLint.Proofs.ComputedFields
import ModuleLint.Proofs.Filtering
import ModuleLint.Proofs.Grouping
import ModuleLint.Proofs.Outcome

/-!
# Surveys and runs

A run that succeeds reports on the survey of the discovered paths. In a survey the declarations of
a file of some module are those that were read from it, the computed fields are those of the
resolver files of all modules, and the findings of a rule are those of its check in the modules.
-/

namespace ModuleLint

open ModuleLint.Text (CharacterNames)

/-- Looking up a key in a list of keys with values that follow from them gives the value. -/
theorem lookup_map_of_mem {α β γ : Type} [BEq β] [LawfulBEq β] {items : List α} {key : α → β}
    {value : β → γ} {a : α} (h : a ∈ items) :
    (items.map fun a => (key a, value (key a))).lookup (key a) = some (value (key a)) := by
  induction items with
  | nil => cases h
  | cons b items ih =>
    rw [List.map_cons, List.lookup_cons]
    by_cases hkey : key a = key b
    · simp [hkey]
    · rcases List.mem_cons.mp h with rfl | h
      · exact absurd rfl hkey
      · rw [beq_eq_false_iff_ne.mpr hkey]
        exact ih h

namespace Survey

section OfPaths

variable {extensions paths : List String} {parse : String → Option ParsedFile}

/-- The files of the modules in a survey are the files at its paths that belong to a module. -/
theorem moduleFiles_ofPaths_perm :
    (ofPaths extensions paths parse).moduleFiles.Perm
      ((paths.map SourceFile.ofPath).filter (Grouping.isGrouped extensions)) :=
  Grouping.flatMap_files_groups extensions _

/-- A file is among those of the modules in a survey if it stands at one of the paths and belongs to
a module. -/
theorem mem_moduleFiles_ofPaths {f : SourceFile} :
    f ∈ (ofPaths extensions paths parse).moduleFiles ↔
      (∃ path ∈ paths, f = SourceFile.ofPath path) ∧ Grouping.isGrouped extensions f = true := by
  rw [moduleFiles_ofPaths_perm.mem_iff, List.mem_filter, List.mem_map]
  simp only [eq_comm]

/-- What is known in a survey of the declarations of a file of a module is what was read from it. -/
theorem parsed_ofPaths {f : SourceFile} (h : f ∈ (ofPaths extensions paths parse).moduleFiles) :
    (ofPaths extensions paths parse).parsed f.path = parse f.path := by
  have hparses : (ofPaths extensions paths parse).parses =
      (ofPaths extensions paths parse).moduleFiles.map fun f => (f.path, parse f.path) := by
    simp [ofPaths, moduleFiles, List.map_flatMap]
  rw [parsed, hparses, lookup_map_of_mem h]
  rfl

/-- The modules in a report are those that the paths name. -/
theorem modules_report_ofPaths {rules : RuleSet} {read : String → Option String} :
    ((ofPaths extensions paths parse).report rules read).modules =
      (Grouping.groups extensions (paths.map SourceFile.ofPath)).map (·.name) :=
  rfl

/-- The files that a report counts are those of the modules that the paths name. -/
theorem checkedFiles_report_ofPaths {rules : RuleSet} {read : String → Option String} :
    ((ofPaths extensions paths parse).report rules read).checkedFiles =
      ((Grouping.groups extensions (paths.map SourceFile.ofPath)).flatMap (·.files)).length :=
  rfl

end OfPaths

/-- The computed fields of a survey are those that a class in the declarations of a resolver file
of some module computes. -/
theorem mem_fields_resolverFields {s : Survey} {entity field : String} :
    field ∈ s.resolverFields.fields entity ↔
      ∃ f ∈ s.moduleFiles, f.role = .resolver ∧ ∃ p, s.parsed f.path = some p ∧
        ∃ c ∈ p.classes, ResolverIndex.Computes c entity field := by
  simp only [resolverFields, ResolverIndex.mem_fields_collect, List.mem_filterMap, List.mem_filter,
    beq_iff_eq]
  constructor
  · intro h
    obtain ⟨p, ⟨f, ⟨hf, hrole⟩, hp⟩, hc⟩ := h
    exact ⟨f, hf, hrole, p, hp, hc⟩
  · intro h
    obtain ⟨f, hf, hrole, p, hp, hc⟩ := h
    exact ⟨p, ⟨f, ⟨hf, hrole⟩, hp⟩, hc⟩

/-- The findings of an enabled rule of modules are those of its check, module by module. -/
theorem filter_findings (s : Survey) {rules : RuleSet} {rule : Rule}
    {check : Rules.Context → List Finding} (hmem : (rule, check) ∈ Evaluation.moduleRules)
    (henabled : rules.isEnabled rule = true) :
    (s.findings rules).filter (fun g => g.rule == rule.id) =
      s.groups.flatMap fun g => check (s.context g) := by
  have hne : ∀ c ∈ Evaluation.projectRules, c.1 ≠ rule := by
    intro c hc heq
    obtain rfl := List.mem_singleton.mp hc
    obtain rfl : Rule.entityFileNotAllowed = rule := heq
    simp [Evaluation.moduleRules] at hmem
  have hproject : (Evaluation.evaluateProject s.files rules).filter
      (fun g => g.rule == rule.id) = [] :=
    Evaluation.filter_flatMap_of_ne
      (fun c hc => Evaluation.truthful_projectRules c (List.mem_filter.mp hc).1)
      (fun c hc => hne c (List.mem_filter.mp hc).1) s.files
  have hmodule (ctx : Rules.Context) : (Evaluation.evaluateModule ctx rules).filter
      (fun g => g.rule == rule.id) = check ctx :=
    Evaluation.filter_flatMap_enabled Evaluation.truthful_moduleRules
      Evaluation.nodup_moduleRules hmem henabled ctx
  rw [findings, List.filter_append, hproject, List.nil_append, List.filter_flatMap]
  simp only [hmodule]

end Survey

namespace Validation

variable [CharacterNames]

/-- The survey of a project is that of its discovered paths. -/
theorem survey_eq_ok {tree : Directory} {root : String} {settings : Discovery.Settings}
    {paths : List String} (hpaths : Discovery.discover tree root settings = .ok paths) :
    survey tree root settings =
      .ok (Survey.ofPaths settings.extensions paths (Parsing.ofFile tree root)) := by
  rw [survey, hpaths]
  rfl

/-- A run succeeds just if its root is a directory, its switches make sense and discovery succeeds.
It reports on the survey of the discovered paths then. -/
theorem validate_eq_ok_iff {tree : Directory} {root : String}
    {switches : Option (List (Data × Data))} {config : Config} {report : Report} :
    validate tree root switches config = .ok report ↔
      checkRoot tree root = .ok () ∧ ∃ rules, rulesOf switches config = .ok rules ∧
        ∃ paths, Discovery.discover tree root config.discovery = .ok paths ∧
          (Survey.ofPaths config.discovery.extensions paths (Parsing.ofFile tree root)).report
            rules (readText tree root) = report := by
  simp only [validate, survey, Outcome.bind_eq_ok_iff, Outcome.pure_eq_ok_iff,
    Outcome.mapError_eq_ok_iff]
  constructor
  · intro h
    obtain ⟨_, hroot, rules, hrules, s, ⟨paths, hpaths, rfl⟩, rfl⟩ := h
    exact ⟨hroot, rules, hrules, paths, hpaths, rfl⟩
  · intro h
    obtain ⟨hroot, rules, hrules, paths, hpaths, rfl⟩ := h
    exact ⟨(), hroot, rules, hrules, _, ⟨paths, hpaths, rfl⟩, rfl⟩

/-- A run with the default configuration reports on the survey of the discovered paths under all
rules. -/
theorem validate_default_eq_ok {tree : Directory} {root : String} {paths : List String}
    (hroot : checkRoot tree root = .ok ()) (hpaths : Discovery.discover tree root {} = .ok paths) :
    validate tree root none {} =
      .ok ((Survey.ofPaths Grouping.defaultExtensions paths (Parsing.ofFile tree root)).report {}
        (readText tree root)) :=
  validate_eq_ok_iff.mpr ⟨hroot, {}, rfl, paths, hpaths, rfl⟩

end Validation

end ModuleLint
