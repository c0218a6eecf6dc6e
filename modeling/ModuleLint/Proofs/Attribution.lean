import Mathlib
import ModuleLint.Proofs.Locations

/-!
# What findings are attributed to

Every finding in a report names an enabled rule and weighs as much as the rule, and it names a
discovered file, or a module if a definition is missing. If it has a line, the rule found it in a
file of the module it looked at, and the declarations of that file were known. So a report is valid
just if no rule that makes errors found anything.
-/

namespace ModuleLint

open ModuleLint.Text (CharacterNames)

/-- A finding, but for its snippet, is one of a rule in a module: it is about a file of the module,
and the declarations of that file are known. -/
def Survey.Locates (s : Survey) (rule : Rule) (g : Finding) : Prop :=
  ∃ group ∈ s.groups, ∃ check, (rule, check) ∈ Evaluation.moduleRules ∧
    { g with snippet := none } ∈ check (s.context group) ∧
    ∃ f ∈ group.files, g.file = f.path ∧ (s.parsed f.path).isSome = true

/-- A finding is rightly attributed to an enabled rule: it names the rule and weighs as much, it
names one of the paths, or one of the modules if a definition is missing, it has a line just if the
rule locates its findings, and where it has one, the rule found it there. -/
structure Survey.Attributes (s : Survey) (rules : RuleSet) (paths modules : List String)
    (rule : Rule) (g : Finding) : Prop where
  rule_eq : g.rule = rule.id
  severity_eq : g.severity = rule.severity.word
  enabled : rules.isEnabled rule = true
  file_mem : g.file ∈ if rule = .missingModule then modules else paths
  line_eq_none_iff : g.line = none ↔ rule.isLocated = false
  locates : g.line.isSome = true → s.Locates rule g

/-- A report on a survey is well formed: its errors and warnings are what they are called, each is
rightly attributed to an enabled rule, and it is valid just if no rule that makes errors found
anything. -/
structure Report.WellFormed (s : Survey) (rules : RuleSet) (paths : List String)
    (report : Report) : Prop where
  errors : ∀ g ∈ report.errors, g.severity = Severity.error.word
  warnings : ∀ g ∈ report.warnings, g.severity = Severity.warning.word
  attributed : ∀ g ∈ report.findings, ∃ rule, s.Attributes rules paths report.modules rule g
  isValid_iff : report.isValid = true ↔
    ∀ g ∈ s.findings rules, ∀ rule : Rule, g.rule = rule.id → rule.severity ≠ .error

namespace Survey

/-- A finding has no line just if its rule means a whole file or module. -/
theorem line_eq_none_iff_of_makes {rule : Rule} {file : String} {g : Finding}
    (h : rule.Makes file g) : g.line = none ↔ rule.isLocated = false := by
  rw [← h.isSome_line, Option.isSome_eq_false_iff, Option.isNone_iff_eq_none]

section OfPaths

variable {extensions paths : List String} {parse : String → Option ParsedFile} {rules : RuleSet}

/-- A finding on an entity file is rightly attributed if the rule on these is enabled. -/
theorem attributes_entityFileNotAllowed (s : Survey) (modules : List String) {g : Finding}
    (henabled : rules.isEnabled .entityFileNotAllowed = true)
    (hg : g ∈ Rules.entityFileNotAllowed (paths.map SourceFile.ofPath)) :
    s.Attributes rules paths modules .entityFileNotAllowed g := by
  obtain ⟨f, hf, hmakes⟩ := Rules.entityFileNotAllowed_makes _ g hg
  obtain ⟨path, hpath, rfl⟩ := List.mem_map.mp hf
  refine ⟨hmakes.rule_eq, hmakes.severity_eq, henabled, ?_, line_eq_none_iff_of_makes hmakes, ?_⟩
  · rw [if_neg (by decide), hmakes.file_eq]
    simpa using hpath
  · intro hline
    rw [hmakes.isSome_line] at hline
    cases hline

/-- What the check of a rule finds in a module is about one of the paths, or about the module if a
definition is missing. -/
theorem file_mem_of_mem_check {group : Grouping.Group}
    (hgroup : group ∈ (ofPaths extensions paths parse).groups)
    {c : Rule × (Rules.Context → List Finding)} (hc : c ∈ Evaluation.moduleRules) {g : Finding}
    (hg : g ∈ c.2 ((ofPaths extensions paths parse).context group)) :
    g.file ∈ if c.1 = .missingModule then (ofPaths extensions paths parse).groups.map (·.name)
      else paths := by
  split
  next hrule =>
    obtain ⟨rule, check⟩ := c
    obtain rfl : rule = .missingModule := hrule
    rw [Evaluation.eq_missingModule_of_mem hc] at hg
    rw [(Rules.missingModule_makes _ g hg).file_eq]
    exact List.mem_map_of_mem hgroup
  next hrule =>
    obtain ⟨f, hf, hmakes⟩ := (Evaluation.filewise_of_mem c hc hrule).exists_makes hg
    have hmem : f ∈ (ofPaths extensions paths parse).moduleFiles :=
      List.mem_flatMap.mpr ⟨group, hgroup, hf⟩
    obtain ⟨⟨path, hpath, rfl⟩, -⟩ := mem_moduleFiles_ofPaths.mp hmem
    rw [hmakes.file_eq]
    simpa using hpath

/-- What the check of an enabled rule finds in a module is rightly attributed to the rule. -/
theorem attributes_of_mem_check {group : Grouping.Group}
    (hgroup : group ∈ (ofPaths extensions paths parse).groups)
    {c : Rule × (Rules.Context → List Finding)} (hc : c ∈ Evaluation.moduleRules)
    (henabled : rules.isEnabled c.1 = true) {g : Finding}
    (hg : g ∈ c.2 ((ofPaths extensions paths parse).context group)) :
    (ofPaths extensions paths parse).Attributes rules paths
      ((ofPaths extensions paths parse).groups.map (·.name)) c.1 g := by
  obtain ⟨file, -, hmakes⟩ := Evaluation.exists_makes hc hg
  refine ⟨hmakes.rule_eq, hmakes.severity_eq, henabled, file_mem_of_mem_check hgroup hc hg,
    line_eq_none_iff_of_makes hmakes, ?_⟩
  intro hsome
  obtain ⟨line, hline⟩ := Option.isSome_iff_exists.mp hsome
  obtain ⟨f, hf, hfile, p, hp, -⟩ := Evaluation.points_of_mem c hc _ g hg line hline
  have hparsed : ((ofPaths extensions paths parse).parsed f.path).isSome = true :=
    Option.isSome_of_eq_some hp
  have hfound : { g with snippet := none } ∈
      c.2 ((ofPaths extensions paths parse).context group) := by
    rwa [← hmakes.snippet_eq_none]
  exact ⟨group, hgroup, c.2, hc, hfound, f, hf, hfile, hparsed⟩

/-- Every finding in a survey is rightly attributed to an enabled rule. -/
theorem exists_attributes {g : Finding}
    (hg : g ∈ (ofPaths extensions paths parse).findings rules) :
    ∃ rule, (ofPaths extensions paths parse).Attributes rules paths
      ((ofPaths extensions paths parse).groups.map (·.name)) rule g := by
  rcases mem_findings_iff.mp hg with ⟨henabled, hg⟩ | ⟨group, hgroup, c, hc, henabled, hg⟩
  · exact ⟨_, attributes_entityFileNotAllowed _ _ henabled hg⟩
  · exact ⟨_, attributes_of_mem_check hgroup hc henabled hg⟩

end OfPaths

/-- A snippet does not change what a finding is attributed to. -/
theorem Attributes.attachTo {s : Survey} {rules : RuleSet} {paths modules : List String}
    {rule : Rule} {g : Finding} (h : s.Attributes rules paths modules rule g)
    (read : String → Option String) :
    s.Attributes rules paths modules rule (Snippet.attachTo read g) := by
  obtain ⟨snippet, hattach⟩ := Snippet.attachTo_eq_withSnippet read g
  rw [hattach]
  exact ⟨h.rule_eq, h.severity_eq, h.enabled, h.file_mem, h.line_eq_none_iff, h.locates⟩

/-- A report on a survey is valid just if no rule that makes errors found anything. -/
theorem isValid_report_iff (s : Survey) (rules : RuleSet) (read : String → Option String) :
    (s.report rules read).isValid = true ↔
      ∀ g ∈ s.findings rules, ∀ rule : Rule, g.rule = rule.id → rule.severity ≠ .error := by
  have hvalid : (s.report rules read).isValid = true ↔
      ∀ g ∈ s.findings rules, g.isError = false := by
    simp [Report.isValid, report, Report.ofFindings, Snippet.attach_eq_map]
  rw [hvalid]
  refine forall₂_congr fun g hg => ?_
  obtain ⟨rule, file, hmakes, -⟩ := exists_makes hg
  rw [hmakes.isError_eq, decide_eq_false_iff_not]
  constructor
  · intro hseverity rule' hrule'
    rwa [← Rule.id_injective (hmakes.rule_eq.symm.trans hrule')]
  · intro hall
    exact hall rule hmakes.rule_eq

/-- Every report on a survey is well formed. -/
theorem wellFormed_report (extensions paths : List String) (parse : String → Option ParsedFile)
    (rules : RuleSet) (read : String → Option String) :
    ((ofPaths extensions paths parse).report rules read).WellFormed
      (ofPaths extensions paths parse) rules paths := by
  have hattributed : ∀ g ∈ ((ofPaths extensions paths parse).report rules read).findings,
      ∃ rule, (ofPaths extensions paths parse).Attributes rules paths
        ((ofPaths extensions paths parse).groups.map (·.name)) rule g := by
    intro g hg
    obtain ⟨g', hg', -, rfl⟩ := exists_of_mem_report hg
    obtain ⟨rule, hrule⟩ := exists_attributes hg'
    exact ⟨rule, hrule.attachTo read⟩
  refine ⟨?_, ?_, hattributed, isValid_report_iff _ rules read⟩
  · intro g hg
    exact beq_iff_eq.mp (List.mem_filter.mp hg).2
  · intro g hg
    obtain ⟨rule, hrule⟩ := hattributed g (List.mem_append_right _ hg)
    have hwarning : (g.severity == Severity.error.word) = false := by
      simpa [Finding.isError] using (List.mem_filter.mp hg).2
    rw [hrule.severity_eq] at hwarning ⊢
    cases hseverity : rule.severity with
    | error => simp [hseverity] at hwarning
    | warning => rfl

end Survey

namespace Validation

/-- Every run that succeeds gives a well-formed report: on the survey of the discovered paths, under
the rules of the run. -/
theorem report_wellFormed [CharacterNames] {tree : Directory} {root : String}
    {switches : Option (List (Data × Data))} {config : Config} {report : Report}
    (h : validate tree root switches config = .ok report) :
    ∃ rules paths s, rulesOf switches config = .ok rules ∧
      Discovery.discover tree root config.discovery = .ok paths ∧
      survey tree root config.discovery = .ok s ∧ report.WellFormed s rules paths := by
  obtain ⟨-, rules, hrules, paths, hpaths, rfl⟩ := validate_eq_ok_iff.mp h
  exact ⟨rules, paths, _, hrules, hpaths, survey_eq_ok hpaths, Survey.wellFormed_report _ _ _ _ _⟩

/-- A project with a misplaced input type in a module that has no definition. -/
def misplacedProject : Directory :=
  [("src", .directory [("user", .directory
    [("user.service.ts", .file (Text.Utf8.encode
      "@InputType()\nexport class UserService \x7b\x7d"))])])]

/-- The report on that project is well formed. It has an error with a line of the file, and a
warning about the module. -/
theorem report_wellFormed_misplaced :
    ∃ report, validate misplacedProject "" none {} = .ok report ∧
      (report.errors.map fun g => (g.rule, g.file, g.line)) =
        [("input-location", "src/user/user.service.ts", some 1)] ∧
      (report.warnings.map fun g => (g.rule, g.file, g.line)) = [("missing-module", "user", none)] ∧
      ∃ rules paths s, rulesOf none {} = .ok rules ∧
        Discovery.discover misplacedProject "" {} = .ok paths ∧
        survey misplacedProject "" {} = .ok s ∧ report.WellFormed s rules paths := by
  have hpaths : Discovery.discover misplacedProject "" {} = .ok ["src/user/user.service.ts"] := by
    cbv
  have hrun := validate_default_eq_ok rfl hpaths
  exact ⟨_, hrun, by decide +kernel, by decide +kernel, report_wellFormed hrun⟩

end Validation

end ModuleLint
