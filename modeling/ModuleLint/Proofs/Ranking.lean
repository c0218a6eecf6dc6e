import Mathlib
import ModuleLint.Proofs.Discovery
import ModuleLint.Proofs.Survey

/-!
# The order of a report

Findings on the whole project come first, by the paths of their files. The others come module by
module, in each module rule by rule, and under each rule file by file in the order of the paths.
Modules come in the order of the smallest paths in them. Errors and warnings each keep this order,
so the same project is always reported in the same way.
-/

namespace ModuleLint

open ModuleLint.Text (CharacterNames)

/-- The module that a finding belongs to: the one it names if a definition is missing, and else that
of its file. -/
def Finding.owner (extensions : List String) (g : Finding) : Option String :=
  if g.rule = Rule.missingModule.id then some g.file else Grouping.moduleOf? extensions g.file

/-- The turn of a rule, told by its identifier: its place in the order of the rules on modules. -/
def Rule.turn (id : String) : ℕ :=
  (Evaluation.moduleRules.map fun c => c.1.id).idxOf id

/-- The rank of a finding in a report on modules. The rule on entity files looks at the whole
project: its findings belong to no module, and it has no turn among the rules on modules. -/
def Finding.rank (extensions modules : List String) (g : Finding) : ℕ ×ₗ ℕ ×ₗ ℕ ×ₗ String :=
  if g.rule = Rule.entityFileNotAllowed.id then toLex (0, toLex (0, toLex (0, g.file)))
  else toLex (1, toLex ((modules.map some).idxOf (g.owner extensions),
    toLex (Rule.turn g.rule, g.file)))

/-- Findings are in order: none of them ranks above a later one. -/
def InOrder (extensions modules : List String) (findings : List Finding) : Prop :=
  findings.Pairwise fun g g' => g.rank extensions modules ≤ g'.rank extensions modules

/-- The findings of a report under a rule. -/
def Report.under (report : Report) (rule : Rule) : List Finding :=
  report.findings.filter fun g => g.rule == rule.id

/-- A path is the smallest of those that belong to a module. -/
def IsSmallestPath (extensions paths : List String) (name path : String) : Prop :=
  path ∈ paths ∧ Grouping.moduleOf? extensions path = some name ∧
    ∀ other ∈ paths, Grouping.moduleOf? extensions other = some name → path ≤ other

/-- The items of a list without repetition have increasing places in it. -/
theorem pairwise_idxOf_lt {α : Type} [BEq α] [LawfulBEq α] {items : List α} (h : items.Nodup) :
    items.Pairwise fun a b => items.idxOf a < items.idxOf b := by
  rw [List.pairwise_iff_getElem]
  intro i j hi hj hij
  rwa [h.idxOf_getElem i hi, h.idxOf_getElem j hj]

/-- The rules on modules run in the order of their turns. -/
theorem pairwise_turn_moduleRules :
    Evaluation.moduleRules.Pairwise fun c c' => Rule.turn c.1.id < Rule.turn c'.1.id := by
  decide +kernel

namespace Rules

/-- A check that goes file by file reports in the order of the files. -/
theorem Filewise.pairwise_file {rule : Rule} {check : Context → List Finding}
    (h : Filewise rule check) {ctx : Context}
    (hfiles : ctx.files.Pairwise fun f f' => f.path < f'.path) :
    (check ctx).Pairwise fun g g' => g.file ≤ g'.file := by
  rw [h.eq_flatMap, List.pairwise_flatMap]
  constructor
  · intro f hf
    refine List.pairwise_of_forall_mem_list fun g hg g' hg' => ?_
    rw [(h.makes ctx f g hg).file_eq, (h.makes ctx f g' hg').file_eq]
  · refine hfiles.imp fun {f f'} hlt g hg g' hg' => ?_
    rw [(h.makes ctx f g hg).file_eq, (h.makes ctx f' g' hg').file_eq]
    exact hlt.le

/-- A missing definition is reported once at most. -/
theorem pairwise_missingModule (ctx : Context) (R : Finding → Finding → Prop) :
    (missingModule ctx).Pairwise R := by
  unfold missingModule whenever
  split
  · exact List.pairwise_singleton R _
  · exact .nil

end Rules

namespace Evaluation

/-- Every check of modules reports in the order of the files. -/
theorem pairwise_file_of_mem {c : Rule × (Rules.Context → List Finding)} (hc : c ∈ moduleRules)
    {ctx : Rules.Context} (hfiles : ctx.files.Pairwise fun f f' => f.path < f'.path) :
    (c.2 ctx).Pairwise fun g g' => g.file ≤ g'.file := by
  by_cases hrule : c.1 = .missingModule
  · obtain ⟨rule, check⟩ := c
    subst hrule
    rw [eq_missingModule_of_mem hc]
    exact Rules.pairwise_missingModule ctx _
  · exact (filewise_of_mem c hc hrule).pairwise_file hfiles

/-- No rule on modules is the one on entity files. -/
theorem ne_entityFileNotAllowed_of_mem :
    ∀ c ∈ moduleRules, c.1.id ≠ Rule.entityFileNotAllowed.id := by
  decide +kernel

end Evaluation

namespace Survey

variable {extensions paths : List String} {parse : String → Option ParsedFile} {rules : RuleSet}

/-- The modules of a survey come out of the files at its paths. -/
theorem isGrouping_ofPaths :
    Grouping.IsGrouping extensions (paths.map SourceFile.ofPath)
      (ofPaths extensions paths parse).groups :=
  Grouping.isGrouping_groups extensions _

/-- The files of a module of a survey belong to it. -/
theorem moduleOf?_of_mem_files {group : Grouping.Group}
    (hgroup : group ∈ (ofPaths extensions paths parse).groups) {f : SourceFile}
    (hf : f ∈ group.files) : Grouping.moduleOf? extensions f.path = some group.name := by
  rw [isGrouping_ofPaths.files_eq group hgroup] at hf
  simpa using (List.mem_filter.mp hf).2

/-- The files at increasing paths are increasing in each module. -/
theorem pairwise_path_files (hsorted : paths.Pairwise (· < ·)) {group : Grouping.Group}
    (hgroup : group ∈ (ofPaths extensions paths parse).groups) :
    group.files.Pairwise fun f f' => f.path < f'.path := by
  have hfiles : (paths.map SourceFile.ofPath).Pairwise fun f f' => f.path < f'.path :=
    List.pairwise_map.mpr (by simpa using hsorted)
  rw [isGrouping_ofPaths.files_eq group hgroup]
  exact hfiles.filter _

/-- What a check finds in a module belongs to the module. -/
theorem owner_of_mem_check {group : Grouping.Group}
    (hgroup : group ∈ (ofPaths extensions paths parse).groups)
    {c : Rule × (Rules.Context → List Finding)} (hc : c ∈ Evaluation.moduleRules) {g : Finding}
    (hg : g ∈ c.2 ((ofPaths extensions paths parse).context group)) :
    g.owner extensions = some group.name := by
  have hrule := Evaluation.truthful_moduleRules c hc _ g hg
  by_cases hmissing : c.1 = .missingModule
  · obtain ⟨rule, check⟩ := c
    subst hmissing
    rw [Evaluation.eq_missingModule_of_mem hc] at hg
    rw [Finding.owner, if_pos hrule, (Rules.missingModule_makes _ g hg).file_eq]
    rfl
  · obtain ⟨f, hf, hmakes⟩ := (Evaluation.filewise_of_mem c hc hmissing).exists_makes hg
    have hne : g.rule ≠ Rule.missingModule.id := by
      rw [hrule]
      exact fun hid => hmissing (Rule.id_injective hid)
    rw [Finding.owner, if_neg hne, hmakes.file_eq]
    exact moduleOf?_of_mem_files hgroup hf

/-- Every finding but those on entity files belongs to a module of the survey. -/
theorem exists_owner {g : Finding}
    (hg : g ∈ (ofPaths extensions paths parse).findings rules)
    (hrule : g.rule ≠ Rule.entityFileNotAllowed.id) :
    ∃ name ∈ (ofPaths extensions paths parse).groups.map (·.name),
      g.owner extensions = some name := by
  rcases mem_findings_iff.mp hg with ⟨-, hg⟩ | ⟨group, hgroup, c, hc, -, hg⟩
  · obtain ⟨f, -, hmakes⟩ := Rules.entityFileNotAllowed_makes _ g hg
    exact (hrule hmakes.rule_eq).elim
  · exact ⟨group.name, List.mem_map_of_mem hgroup, owner_of_mem_check hgroup hc hg⟩

/-- The rank of what a check finds in a module. -/
theorem rank_of_mem_check {group : Grouping.Group}
    (hgroup : group ∈ (ofPaths extensions paths parse).groups)
    {c : Rule × (Rules.Context → List Finding)} (hc : c ∈ Evaluation.moduleRules) {g : Finding}
    (hg : g ∈ c.2 ((ofPaths extensions paths parse).context group)) (modules : List String) :
    g.rank extensions modules = toLex (1, toLex ((modules.map some).idxOf (some group.name),
      toLex (Rule.turn c.1.id, g.file))) := by
  have hrule := Evaluation.truthful_moduleRules c hc _ g hg
  rw [Finding.rank, hrule, if_neg (Evaluation.ne_entityFileNotAllowed_of_mem c hc),
    owner_of_mem_check hgroup hc hg]

/-- The findings in one module are in order. -/
theorem inOrder_evaluateModule (hsorted : paths.Pairwise (· < ·)) {group : Grouping.Group}
    (hgroup : group ∈ (ofPaths extensions paths parse).groups) (modules : List String) :
    InOrder extensions modules
      (Evaluation.evaluateModule ((ofPaths extensions paths parse).context group) rules) := by
  have hmem {c : Rule × (Rules.Context → List Finding)}
      (hc : c ∈ Evaluation.enabled rules Evaluation.moduleRules) : c ∈ Evaluation.moduleRules :=
    (List.mem_filter.mp hc).1
  rw [InOrder, Evaluation.evaluateModule, List.pairwise_flatMap]
  constructor
  · intro c hc
    have hfiles : (c.2 ((ofPaths extensions paths parse).context group)).Pairwise
        fun g g' => g.file ≤ g'.file :=
      Evaluation.pairwise_file_of_mem (hmem hc) (pairwise_path_files hsorted hgroup)
    refine hfiles.imp_of_mem fun {g g'} hg hg' hle => ?_
    rw [rank_of_mem_check hgroup (hmem hc) hg, rank_of_mem_check hgroup (hmem hc) hg']
    exact .right _ (.right _ (.right _ hle))
  · refine (pairwise_turn_moduleRules.filter _).imp_of_mem fun {c c'} hc hc' hlt g hg g' hg' => ?_
    rw [rank_of_mem_check hgroup (hmem hc) hg, rank_of_mem_check hgroup (hmem hc') hg']
    exact .right _ (.right _ (.left _ _ hlt))

/-- The findings on the whole project are those on entity files. -/
theorem evaluateProject_eq (files : List SourceFile) :
    Evaluation.evaluateProject files rules =
      if rules.isEnabled .entityFileNotAllowed then Rules.entityFileNotAllowed files else [] := by
  rw [Evaluation.evaluateProject, Evaluation.enabled, Evaluation.projectRules]
  cases henabled : rules.isEnabled .entityFileNotAllowed <;> simp [henabled]

/-- The findings on entity files name them in their order. -/
theorem map_file_entityFiles (paths : List String) :
    (Rules.entityFileNotAllowed (paths.map SourceFile.ofPath)).map (·.file) =
      paths.filter fun path => Role.ofPath path == .entity := by
  simp [Rules.entityFileNotAllowed, List.filter_map, Function.comp_def, Rule.finding]

/-- What is found on the whole project is made by the rule on entity files. -/
theorem exists_makes_of_mem_evaluateProject {files : List SourceFile} {g : Finding}
    (hg : g ∈ Evaluation.evaluateProject files rules) :
    ∃ file, Rule.entityFileNotAllowed.Makes file g := by
  rw [evaluateProject_eq] at hg
  split at hg
  · obtain ⟨f, -, hmakes⟩ := Rules.entityFileNotAllowed_makes files g hg
    exact ⟨f.path, hmakes⟩
  · cases hg

/-- The rank of what is found on the whole project. -/
theorem rank_of_mem_evaluateProject {files : List SourceFile} {g : Finding}
    (hg : g ∈ Evaluation.evaluateProject files rules) (modules : List String) :
    g.rank extensions modules = toLex (0, toLex (0, toLex (0, g.file))) := by
  obtain ⟨file, hmakes⟩ := exists_makes_of_mem_evaluateProject hg
  rw [Finding.rank, if_pos hmakes.rule_eq]

/-- The findings on the whole project are in order. -/
theorem inOrder_evaluateProject (hsorted : paths.Pairwise (· < ·)) (modules : List String) :
    InOrder extensions modules
      (Evaluation.evaluateProject (paths.map SourceFile.ofPath) rules) := by
  have hfiles : (Evaluation.evaluateProject (paths.map SourceFile.ofPath) rules).Pairwise
      fun g g' => g.file < g'.file := by
    rw [evaluateProject_eq]
    split
    · rw [← List.pairwise_map, map_file_entityFiles]
      exact hsorted.filter _
    · exact .nil
  refine hfiles.imp_of_mem fun {g g'} hg hg' hlt => ?_
  rw [rank_of_mem_evaluateProject hg, rank_of_mem_evaluateProject hg']
  exact .right _ (.right _ (.right _ hlt.le))

/-- The findings of a survey at increasing paths are in order. -/
theorem inOrder_findings (hsorted : paths.Pairwise (· < ·)) :
    InOrder extensions ((ofPaths extensions paths parse).groups.map (·.name))
      ((ofPaths extensions paths parse).findings rules) := by
  generalize hmodules : (ofPaths extensions paths parse).groups.map (·.name) = modules
  have hnodup : (modules.map some).Nodup :=
    (hmodules ▸ isGrouping_ofPaths.nodup).map fun _ _ => Option.some.inj
  have hgroups : (ofPaths extensions paths parse).groups.Pairwise fun group group' =>
      (modules.map some).idxOf (some group.name) < (modules.map some).idxOf (some group'.name) := by
    have hindices := pairwise_idxOf_lt hnodup
    rw [List.pairwise_map, ← hmodules, List.pairwise_map] at hindices
    rwa [← hmodules]
  refine List.pairwise_append.mpr ⟨inOrder_evaluateProject hsorted modules, ?_, ?_⟩
  · refine List.pairwise_flatMap.mpr ⟨?_, ?_⟩
    · exact fun group hgroup => inOrder_evaluateModule hsorted hgroup modules
    · refine hgroups.imp_of_mem fun {group group'} hgroup hgroup' hlt g hg g' hg' => ?_
      obtain ⟨c, hc, hg⟩ := List.mem_flatMap.mp hg
      obtain ⟨c', hc', hg'⟩ := List.mem_flatMap.mp hg'
      rw [rank_of_mem_check hgroup (List.mem_filter.mp hc).1 hg,
        rank_of_mem_check hgroup' (List.mem_filter.mp hc').1 hg']
      exact .right _ (.left _ _ hlt)
  · intro g hg g' hg'
    obtain ⟨group, hgroup, hg'⟩ := List.mem_flatMap.mp hg'
    obtain ⟨c, hc, hg'⟩ := List.mem_flatMap.mp hg'
    rw [rank_of_mem_evaluateProject hg,
      rank_of_mem_check hgroup (List.mem_filter.mp hc).1 hg']
    exact .left _ _ Nat.zero_lt_one

section Modules

variable {group : Grouping.Group}

/-- The first file of a module has the smallest path. -/
theorem isSmallestPath_of_head? (hsorted : paths.Pairwise (· < ·))
    (hgroup : group ∈ (ofPaths extensions paths parse).groups) {f : SourceFile}
    (hf : f ∈ group.files.head?) : IsSmallestPath extensions paths group.name f.path := by
  have hmem := List.mem_of_mem_head? hf
  have hfiles := isGrouping_ofPaths.files_eq group hgroup
  refine ⟨?_, moduleOf?_of_mem_files hgroup hmem, ?_⟩
  · rw [hfiles] at hmem
    obtain ⟨path, hpath, rfl⟩ := List.mem_map.mp (List.mem_filter.mp hmem).1
    exact hpath
  · intro other hother hmodule
    have hother' : SourceFile.ofPath other ∈ group.files := by
      rw [hfiles, Grouping.filesOf, List.mem_filter]
      exact ⟨List.mem_map_of_mem hother, by simpa using hmodule⟩
    have hpairwise := pairwise_path_files hsorted hgroup
    obtain ⟨rest, hrest⟩ := List.head?_eq_some_iff.mp hf
    rw [hrest] at hother' hpairwise
    rcases List.mem_cons.mp hother' with heq | hother'
    · rw [← heq]
      exact le_rfl
    · exact ((List.pairwise_cons.mp hpairwise).1 _ hother').le

/-- Every module of a survey has a smallest path. -/
theorem exists_isSmallestPath (hsorted : paths.Pairwise (· < ·)) :
    ∀ name ∈ (ofPaths extensions paths parse).groups.map (·.name),
      ∃ path, IsSmallestPath extensions paths name path := by
  intro name hname
  obtain ⟨group, hgroup, rfl⟩ := List.mem_map.mp hname
  have hhead := List.head?_eq_some_head (isGrouping_ofPaths.files_ne_nil group hgroup)
  exact ⟨_, isSmallestPath_of_head? hsorted hgroup hhead⟩

/-- The modules of a survey at increasing paths are in the order of their smallest paths. -/
theorem pairwise_isSmallestPath (hsorted : paths.Pairwise (· < ·)) :
    ((ofPaths extensions paths parse).groups.map (·.name)).Pairwise fun name name' =>
      ∀ path path', IsSmallestPath extensions paths name path →
        IsSmallestPath extensions paths name' path' → path < path' := by
  have hfiles : (paths.map SourceFile.ofPath).Pairwise fun f f' => f.path < f'.path :=
    List.pairwise_map.mpr (by simpa using hsorted)
  have hunique {name path path' : String} (h : IsSmallestPath extensions paths name path)
      (h' : IsSmallestPath extensions paths name path') : path = path' :=
    le_antisymm (h.2.2 path' h'.1 h'.2.1) (h'.2.2 path h.1 h.2.1)
  refine List.pairwise_map.mpr (isGrouping_ofPaths.firsts.imp_of_mem ?_)
  intro group group' hgroup hgroup' hfirst path path' hpath hpath'
  have hhead := List.head?_eq_some_head (isGrouping_ofPaths.files_ne_nil group hgroup)
  have hhead' := List.head?_eq_some_head (isGrouping_ofPaths.files_ne_nil group' hgroup')
  rw [hunique hpath (isSmallestPath_of_head? hsorted hgroup hhead),
    hunique hpath' (isSmallestPath_of_head? hsorted hgroup' hhead')]
  simpa using hfiles.sublist (hfirst _ hhead _ hhead')

end Modules

/-- The findings under the rule on entity files are those on the whole project. -/
theorem filter_entityFileNotAllowed (s : Survey) :
    (s.findings rules).filter (fun g => g.rule == Rule.entityFileNotAllowed.id) =
      Evaluation.evaluateProject s.files rules := by
  have hproject : ∀ g ∈ Evaluation.evaluateProject s.files rules,
      (g.rule == Rule.entityFileNotAllowed.id) = true := by
    intro g hg
    obtain ⟨file, hmakes⟩ := exists_makes_of_mem_evaluateProject hg
    simpa using hmakes.rule_eq
  have hmodule (ctx : Rules.Context) : (Evaluation.evaluateModule ctx rules).filter
      (fun g => g.rule == Rule.entityFileNotAllowed.id) = [] :=
    Evaluation.filter_flatMap_of_ne
      (fun c hc => Evaluation.truthful_moduleRules c (List.mem_filter.mp hc).1)
      (fun c hc heq => Evaluation.ne_entityFileNotAllowed_of_mem c (List.mem_filter.mp hc).1
        (congrArg Rule.id heq)) ctx
  rw [findings, List.filter_append, List.filter_eq_self.mpr hproject, List.filter_flatMap]
  simp [hmodule]

/-- The findings on entity files in a report are those on the whole project, with their snippets. -/
theorem under_entityFileNotAllowed (s : Survey) (read : String → Option String) :
    (s.report rules read).under .entityFileNotAllowed =
      Snippet.attach read (Evaluation.evaluateProject s.files rules) := by
  have hfilter : (s.report rules read).under .entityFileNotAllowed =
      ((s.report rules read).filter fun g => g.rule == Rule.entityFileNotAllowed.id).findings := by
    simp [Report.under, Report.findings, Report.filter]
  have herror : ∀ g ∈ Snippet.attach read (Evaluation.evaluateProject s.files rules),
      g.isError = true := by
    intro g hg
    obtain ⟨g', hg', rfl⟩ := Snippet.mem_attach.mp hg
    obtain ⟨file, hmakes⟩ := exists_makes_of_mem_evaluateProject hg'
    rw [Snippet.isError_attachTo, hmakes.isError_eq]
    rfl
  rw [hfilter, report_filter s rules read _ (by simp), filter_entityFileNotAllowed,
    Report.findings, Report.ofFindings, List.filter_eq_self.mpr herror,
    List.filter_eq_nil_iff.mpr (by simpa using herror), List.append_nil]

/-- The findings on entity files in a report name the entity files among the paths, each once. -/
theorem map_file_under {read : String → Option String} :
    (((ofPaths extensions paths parse).report rules read).under .entityFileNotAllowed).map
        (·.file) =
      if rules.isEnabled .entityFileNotAllowed then
        paths.filter fun path => Role.ofPath path == .entity
      else [] := by
  rw [under_entityFileNotAllowed, evaluateProject_eq]
  split
  · rw [← map_file_entityFiles, Snippet.attach_eq_map, List.map_map]
    simp [Function.comp_def, ofPaths]
  · rfl

end Survey

namespace Snippet

/-- A snippet does not change which module a finding belongs to. -/
@[simp] theorem owner_attachTo (read : String → Option String) (g : Finding)
    (extensions : List String) : (attachTo read g).owner extensions = g.owner extensions := by
  simp [Finding.owner]

/-- A snippet does not change the rank of a finding. -/
@[simp] theorem rank_attachTo (read : String → Option String) (g : Finding)
    (extensions modules : List String) :
    (attachTo read g).rank extensions modules = g.rank extensions modules := by
  simp [Finding.rank]

/-- Findings with their snippets are in order if they are without. -/
theorem inOrder_attach {extensions modules : List String} {findings : List Finding}
    (h : InOrder extensions modules findings) (read : String → Option String) :
    InOrder extensions modules (attach read findings) := by
  rw [attach_eq_map]
  exact List.pairwise_map.mpr (by simpa [InOrder] using h)

end Snippet

namespace Validation

open ModuleLint.Discovery (projectAt)

/-- Every report is in one order: its errors and its warnings are in the order of their ranks, where
all findings but those on entity files belong to modules of the report; its modules are in the order
of their smallest paths; and the findings on entity files name all discovered entity files, in the
order of the paths. -/
theorem report_in_order [CharacterNames] {tree : Directory} {root : String}
    {switches : Option (List (Data × Data))} {config : Config} {report : Report}
    (hwf : (projectAt tree root).WellFormed)
    (h : validate tree root switches config = .ok report) :
    InOrder config.discovery.extensions report.modules report.errors ∧
    InOrder config.discovery.extensions report.modules report.warnings ∧
    (∀ g ∈ report.findings, g.rule ≠ Rule.entityFileNotAllowed.id →
      ∃ name ∈ report.modules, g.owner config.discovery.extensions = some name) ∧
    ∃ rules paths, rulesOf switches config = .ok rules ∧
      Discovery.discover tree root config.discovery = .ok paths ∧
      (∀ name ∈ report.modules, ∃ path,
        IsSmallestPath config.discovery.extensions paths name path) ∧
      (report.modules.Pairwise fun name name' => ∀ path path',
        IsSmallestPath config.discovery.extensions paths name path →
        IsSmallestPath config.discovery.extensions paths name' path' → path < path') ∧
      (report.under .entityFileNotAllowed).map (·.file) =
        (if rules.isEnabled .entityFileNotAllowed then
          paths.filter fun path => Role.ofPath path == .entity
        else []) ∧
      ((report.under .entityFileNotAllowed).map (·.file)).Pairwise (· < ·) := by
  obtain ⟨-, rules, hrules, paths, hpaths, rfl⟩ := validate_eq_ok_iff.mp h
  have hsorted := Discovery.pairwise_lt_of_discover hwf hpaths
  have horder := Snippet.inOrder_attach
    (@Survey.inOrder_findings config.discovery.extensions paths (Parsing.ofFile tree root) rules
      hsorted) (readText tree root)
  refine ⟨List.Pairwise.filter _ horder, List.Pairwise.filter _ horder, ?_, rules, paths, hrules,
    hpaths, Survey.exists_isSmallestPath hsorted, Survey.pairwise_isSmallestPath hsorted,
    Survey.map_file_under, ?_⟩
  · intro g hg hrule
    obtain ⟨g', hg', -, rfl⟩ := Survey.exists_of_mem_report hg
    rw [Snippet.attachTo_rule] at hrule
    rw [Snippet.owner_attachTo]
    exact Survey.exists_owner hg' hrule
  · rw [Survey.map_file_under]
    split
    · exact hsorted.filter _
    · exact .nil

/-- A project with entity files in two modules. The smallest path of the module `a` comes before
that of the module `b`, and its entity file after that of the other. -/
def interleavedProject : Directory :=
  [("a", .directory [("a.service.ts", .file [])]),
    ("b", .directory [("b.entity.ts", .file [])]),
    ("c", .directory [("modules", .directory [("a", .directory [("x.entity.ts", .file [])])])])]

/-- The report on that project is in order: the entity files come first, by their paths, and the
modules by their smallest paths. -/
theorem report_in_order_interleaved :
    (projectAt interleavedProject "").WellFormed ∧
      ∃ report, validate interleavedProject "" none {} = .ok report ∧
        InOrder [".ts"] report.modules report.errors ∧
        InOrder [".ts"] report.modules report.warnings ∧ report.modules = ["a", "b"] ∧
        (report.under .entityFileNotAllowed).map (·.file) =
          ["b/b.entity.ts", "c/modules/a/x.entity.ts"] := by
  have hwf : (projectAt interleavedProject "").WellFormed := by decide +kernel
  have hpaths : Discovery.discover interleavedProject "" {} =
      .ok ["a/a.service.ts", "b/b.entity.ts", "c/modules/a/x.entity.ts"] := by cbv
  have hrun : ∃ report, validate interleavedProject "" none {} = .ok report ∧
      report.modules = ["a", "b"] :=
    ⟨_, validate_eq_ok_iff.mpr ⟨rfl, {}, rfl, _, hpaths, rfl⟩, by decide +kernel⟩
  obtain ⟨report, hreport, hmodules⟩ := hrun
  obtain ⟨herrors, hwarnings, -, rules, paths, hrules, hpaths', -, -, hentities, -⟩ :=
    report_in_order hwf hreport
  obtain rfl : ({} : RuleSet) = rules := Except.ok.inj hrules
  obtain rfl := Except.ok.inj (hpaths.symm.trans hpaths')
  exact ⟨hwf, report, hreport, herrors, hwarnings, hmodules, hentities.trans (by decide +kernel)⟩

end Validation

end ModuleLint
