import ModuleLint.Proofs.Caching
import ModuleLint.Proofs.Evaluation
import ModuleLint.Validation

/-!
# Reports reduced to some findings

Snippets, errors and warnings come out for each finding by itself. A report can therefore be
reduced to some of its findings before they are made into a report as well as afterwards.
-/

namespace ModuleLint

/-- The report reduced to the findings that pass a test. -/
def Report.filter (report : Report) (keeps : Finding → Bool) : Report :=
  { report with
    errors := report.errors.filter keeps
    warnings := report.warnings.filter keeps }

/-- The report on some findings is the report on all of them, reduced to these. -/
theorem Report.ofFindings_filter (keeps : Finding → Bool) (findings : List Finding)
    (checkedFiles : Int) (modules : List String) :
    ofFindings (findings.filter keeps) checkedFiles modules =
      (ofFindings findings checkedFiles modules).filter keeps := by
  simp only [ofFindings, filter, List.filter_filter, Bool.and_comm]

/-- A report has the findings it is made of, sorted into errors and warnings. -/
theorem Report.mem_findings_ofFindings {findings : List Finding} {checkedFiles : Int}
    {modules : List String} {g : Finding} :
    g ∈ (ofFindings findings checkedFiles modules).findings ↔ g ∈ findings := by
  simp only [Report.findings, ofFindings, List.mem_append, List.mem_filter]
  cases g.isError <;> simp

namespace Snippet

/-- Findings can be sorted out before they get their snippets, if the snippets do not matter to
that. -/
theorem attach_filter {keeps : Finding → Bool} {read : String → Option String}
    (hkeeps : ∀ g, keeps (attachTo read g) = keeps g) (findings : List Finding) :
    attach read (findings.filter keeps) = (attach read findings).filter keeps := by
  have hcomp : keeps ∘ attachTo read = keeps := funext hkeeps
  rw [attach_eq_map, attach_eq_map, List.filter_map, hcomp]

/-- The snippet of a finding depends on the text of its own file alone, and on none if the finding
has no line. -/
theorem attachTo_congr {read read' : String → Option String} {g : Finding}
    (h : g.line.isSome = true → read g.file = read' g.file) :
    attachTo read g = attachTo read' g := by
  unfold attachTo
  split
  · next line _ hline _ => rw [h (by simp [hline])]
  · rfl

end Snippet

namespace Survey

/-- The report on a survey, reduced to some findings, is made of these alone. -/
theorem report_filter (s : Survey) (rules : RuleSet) (read : String → Option String)
    (keeps : Finding → Bool) (hkeeps : ∀ g, keeps (Snippet.attachTo read g) = keeps g) :
    (s.report rules read).filter keeps =
      .ofFindings (Snippet.attach read ((s.findings rules).filter keeps)) s.moduleFiles.length
        (s.groups.map (·.name)) := by
  rw [report, ← Report.ofFindings_filter, Snippet.attach_filter hkeeps]

/-- The findings in a survey are those on entity files and those of the checks in the modules, as
far as their rules are enabled. -/
theorem mem_findings_iff {s : Survey} {rules : RuleSet} {g : Finding} :
    g ∈ s.findings rules ↔
      (rules.isEnabled .entityFileNotAllowed = true ∧ g ∈ Rules.entityFileNotAllowed s.files) ∨
      ∃ group ∈ s.groups, ∃ c ∈ Evaluation.moduleRules, rules.isEnabled c.1 = true ∧
        g ∈ c.2 (s.context group) := by
  simp only [findings, Evaluation.evaluateProject, Evaluation.evaluateModule, Evaluation.enabled,
    Evaluation.projectRules, List.mem_append, List.mem_flatMap, List.mem_filter,
    List.mem_singleton, and_assoc, exists_eq_left]

/-- Every finding in a survey is made by some rule, and about a file of some module if the rule
locates its findings. -/
theorem exists_makes {s : Survey} {rules : RuleSet} {g : Finding} (hg : g ∈ s.findings rules) :
    ∃ (rule : Rule) (file : String), rule.Makes file g ∧
      (rule.isLocated = true → ∃ f ∈ s.moduleFiles, file = f.path) := by
  rcases mem_findings_iff.mp hg with ⟨-, hg⟩ | ⟨group, hgroup, c, hc, -, hg⟩
  · obtain ⟨f, -, hmakes⟩ := Rules.entityFileNotAllowed_makes s.files g hg
    exact ⟨_, _, hmakes, nofun⟩
  · obtain ⟨file, hfile, hmakes⟩ := Evaluation.exists_makes hc hg
    refine ⟨c.1, file, hmakes, fun hlocated => ?_⟩
    rcases hfile with ⟨-, hrule⟩ | ⟨f, hf, rfl⟩
    · rw [hrule] at hlocated
      cases hlocated
    · exact ⟨f, List.mem_flatMap.mpr ⟨group, hgroup, hf⟩, rfl⟩

/-- A finding with a line in a survey is about a file of some module. -/
theorem exists_file_eq {s : Survey} {rules : RuleSet} {g : Finding} (hg : g ∈ s.findings rules)
    (hline : g.line.isSome = true) : ∃ f ∈ s.moduleFiles, g.file = f.path := by
  obtain ⟨rule, file, hmakes, hlocated⟩ := exists_makes hg
  obtain ⟨f, hf, hfile⟩ := hlocated (hmakes.isSome_line ▸ hline)
  exact ⟨f, hf, hmakes.file_eq.trans hfile⟩

/-- A finding in a report is one of the survey that got its snippet. -/
theorem exists_of_mem_report {s : Survey} {rules : RuleSet} {read : String → Option String}
    {g : Finding} (hg : g ∈ (s.report rules read).findings) :
    ∃ g' ∈ s.findings rules, g'.snippet = none ∧ g = Snippet.attachTo read g' := by
  obtain ⟨g', hg', rfl⟩ := Snippet.mem_attach.mp (Report.mem_findings_ofFindings.mp hg)
  obtain ⟨rule, file, ⟨message, line, rfl, -⟩, -⟩ := exists_makes hg'
  exact ⟨_, hg', rfl, rfl⟩

end Survey

end ModuleLint
