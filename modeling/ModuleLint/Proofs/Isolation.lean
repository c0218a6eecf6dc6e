import Mathlib.Data.List.Basic
import ModuleLint.Proofs.Survey

/-!
# What one file can change

What a check says of a file depends on no other file but through the computed fields, and those
matter to one check only. So if two readings of the same paths tell the same of all files but one,
the findings about the other files are the same, up to those of that check if the one file is a
resolver file. The rules that look at names and paths alone find the same in any case.
-/

namespace ModuleLint

namespace Rules

/-- The rules that look at names and paths alone. -/
def pathRules : List Rule :=
  [.entityFileNotAllowed, .missingModule, .moduleNaming, .modulePath]

/-- Whether a finding is that of a rule on names and paths. -/
def isPathFinding (g : Finding) : Bool :=
  pathRules.any fun rule => g.rule == rule.id

/-- A finding is that of a rule on names and paths if it names such a rule. -/
theorem isPathFinding_iff {rule : Rule} {g : Finding} (h : g.rule = rule.id) :
    isPathFinding g = true ↔ rule ∈ pathRules := by
  rw [isPathFinding, List.any_eq_true, h]
  constructor
  · intro hany
    obtain ⟨rule', hmem, hid⟩ := hany
    rwa [Rule.id_injective (beq_iff_eq.mp hid)]
  · exact fun hmem => ⟨rule, hmem, beq_self_eq_true _⟩

/-- Two views of a module that tell the same of the declarations in all its files but one. -/
structure Context.AgreesBut (path : String) (ctx ctx' : Context) : Prop where
  same_module : ctx.module_ = ctx'.module_
  same_files : ctx.files = ctx'.files
  same_parsed : ∀ f ∈ ctx.files, f.path ≠ path → ctx.parsed f.path = ctx'.parsed f.path

/-- The same view of a module with other computed fields. -/
def Context.withFields (ctx : Context) (index : ResolverIndex) : Context :=
  { ctx with resolverFields := index }

/-- A file other than the one looks the same in both views but for the computed fields. -/
theorem Context.AgreesBut.only_eq {path : String} {ctx ctx' : Context} (h : ctx.AgreesBut path ctx')
    {f : SourceFile} (hf : f ∈ ctx.files) (hpath : f.path ≠ path) :
    ctx'.only f = (ctx.only f).withFields ctx'.resolverFields := by
  simp only [Context.only, Context.withFields, h.same_module, h.same_parsed f hf hpath]

/-- Rules on names and paths do not locate their findings. -/
theorem isLocated_of_mem_pathRules : ∀ rule ∈ pathRules, rule.isLocated = false := by
  decide

end Rules

namespace Evaluation

open ModuleLint.Rules (Context Filewise pathRules isPathFinding isPathFinding_iff)

/-- The computed fields of the project matter to one check only. -/
theorem check_withFields : ∀ c ∈ moduleRules, c.1 ≠ .missingColumnDecorator →
    ∀ (ctx : Context) (index : ResolverIndex), c.2 (ctx.withFields index) = c.2 ctx := by
  simp only [moduleRules, List.forall_mem_cons, List.not_mem_nil, IsEmpty.forall_iff, implies_true,
    and_true]
  and_intros <;> intro hrule
  all_goals first | exact absurd rfl hrule | exact fun _ _ => rfl

/-- Checks of names and paths find the same in two views of the same files. -/
theorem check_eq_of_mem_pathRules : ∀ c ∈ moduleRules, c.1 ∈ pathRules →
    ∀ (ctx : Context) (parsed : String → Option ParsedFile) (index : ResolverIndex),
      c.2 { ctx with parsed, resolverFields := index } = c.2 ctx := by
  simp only [moduleRules, List.forall_mem_cons, List.not_mem_nil, IsEmpty.forall_iff, implies_true,
    and_true]
  and_intros <;> intro hrule
  all_goals first | exact absurd hrule (by decide) | exact fun _ _ _ => rfl

section Agreement

variable {path : String} {ctx ctx' : Context} {c : Rule × (Context → List Finding)}

/-- What a check of names and paths finds does not depend on any declarations. -/
theorem check_eq_of_agreesBut (h : ctx.AgreesBut path ctx') (hc : c ∈ moduleRules)
    (hrule : c.1 ∈ pathRules) : c.2 ctx = c.2 ctx' := by
  obtain ⟨name, files, parsed, index⟩ := ctx
  obtain ⟨name', files', parsed', index'⟩ := ctx'
  obtain ⟨hname, hfiles, -⟩ := h
  obtain rfl : name = name' := hname
  obtain rfl : files = files' := hfiles
  exact (check_eq_of_mem_pathRules c hc hrule ⟨name, files, parsed, index⟩ parsed' index').symm

/-- What a check that goes file by file finds in the other files does not depend on the declarations
in the one file, nor on the computed fields if they do not matter to it. -/
theorem filter_check_of_filewise (h : ctx.AgreesBut path ctx') (hc : c ∈ moduleRules)
    (hfilewise : Filewise c.1 c.2)
    (hindex : ctx.resolverFields = ctx'.resolverFields ∨ c.1 ≠ .missingColumnDecorator) :
    (c.2 ctx).filter (fun g => g.file != path) = (c.2 ctx').filter fun g => g.file != path := by
  rw [hfilewise.eq_flatMap ctx, hfilewise.eq_flatMap ctx', List.filter_flatMap,
    List.filter_flatMap, ← h.same_files]
  refine List.flatMap_congr fun f hf => ?_
  by_cases hpath : f.path = path
  · have hnone (ctx : Context) : (c.2 (ctx.only f)).filter (fun g => g.file != path) = [] := by
      rw [List.filter_eq_nil_iff]
      intro g hg
      simp [(hfilewise.makes ctx f g hg).file_eq, hpath]
    rw [hnone, hnone]
  · rw [h.only_eq hf hpath]
    rcases hindex with hindex | hrule
    · rw [← hindex]
      rfl
    · rw [check_withFields c hc hrule]

/-- What a check finds in the other files does not depend on the declarations in the one file, nor
on the computed fields if they do not matter to it. -/
theorem filter_check_eq (h : ctx.AgreesBut path ctx') (hc : c ∈ moduleRules)
    (hindex : ctx.resolverFields = ctx'.resolverFields ∨ c.1 ≠ .missingColumnDecorator) :
    (c.2 ctx).filter (fun g => g.file != path) = (c.2 ctx').filter fun g => g.file != path := by
  by_cases hrule : c.1 = .missingModule
  · rw [check_eq_of_agreesBut h hc (by simp [hrule, pathRules])]
  · exact filter_check_of_filewise h hc (filewise_of_mem c hc hrule) hindex

/-- The findings of a check on names and paths do not depend on any declarations. -/
theorem filter_isPathFinding_check (h : ctx.AgreesBut path ctx') (hc : c ∈ moduleRules) :
    (c.2 ctx).filter isPathFinding = (c.2 ctx').filter isPathFinding := by
  by_cases hrule : c.1 ∈ pathRules
  · rw [check_eq_of_agreesBut h hc hrule]
  · have hnone (ctx : Context) : (c.2 ctx).filter isPathFinding = [] := by
      rw [List.filter_eq_nil_iff]
      intro g hg
      simpa [isPathFinding_iff (truthful_moduleRules c hc ctx g hg)] using hrule
    rw [hnone, hnone]

/-- But for the properties that nothing covers, what a check finds in the other files does not
depend on the one file. -/
theorem filter_check_of_ne (h : ctx.AgreesBut path ctx') (hc : c ∈ moduleRules) :
    (c.2 ctx).filter (fun g => g.rule != Rule.missingColumnDecorator.id && g.file != path) =
      (c.2 ctx').filter fun g => g.rule != Rule.missingColumnDecorator.id && g.file != path := by
  rw [← List.filter_filter, ← List.filter_filter]
  by_cases hrule : c.1 = .missingColumnDecorator
  · have hnone (ctx : Context) : ((c.2 ctx).filter fun g => g.file != path).filter
        (fun g => g.rule != Rule.missingColumnDecorator.id) = [] := by
      rw [List.filter_eq_nil_iff]
      intro g hg
      simp [truthful_moduleRules c hc ctx g (List.mem_filter.mp hg).1, hrule]
    rw [hnone, hnone]
  · rw [filter_check_eq h hc (.inr hrule)]

end Agreement

end Evaluation

namespace Survey

open ModuleLint.Rules (isPathFinding isPathFinding_iff)

section Findings

variable {extensions paths : List String} {path : String}
  {parse parse' : String → Option ParsedFile}
  {rules : RuleSet}

/-- Two surveys of the same paths, with the same read from all files but one, know the same of the
other files. -/
theorem parsed_congr (hparse : ∀ p ∈ paths, p ≠ path → parse p = parse' p) {f : SourceFile}
    (hf : f ∈ (ofPaths extensions paths parse).moduleFiles) (hpath : f.path ≠ path) :
    (ofPaths extensions paths parse).parsed f.path =
      (ofPaths extensions paths parse').parsed f.path := by
  have hf' : f ∈ (ofPaths extensions paths parse').moduleFiles := hf
  obtain ⟨⟨p, hp, rfl⟩, -⟩ := mem_moduleFiles_ofPaths.mp hf
  rw [parsed_ofPaths hf, parsed_ofPaths hf']
  rw [SourceFile.ofPath_path] at hpath ⊢
  exact hparse p hp hpath

/-- Two surveys of the same paths, with the same read from all files but one, agree on each module
up to that file. -/
theorem context_agreesBut (hparse : ∀ p ∈ paths, p ≠ path → parse p = parse' p)
    {g : Grouping.Group} (hg : g ∈ (ofPaths extensions paths parse).groups) :
    ((ofPaths extensions paths parse).context g).AgreesBut path
      ((ofPaths extensions paths parse').context g) where
  same_module := rfl
  same_files := rfl
  same_parsed := fun _ hf hpath => parsed_congr hparse (List.mem_flatMap.mpr ⟨g, hg, hf⟩) hpath

/-- The computed fields do not depend on a file that is no resolver file. -/
theorem resolverFields_congr (hparse : ∀ p ∈ paths, p ≠ path → parse p = parse' p)
    (hrole : Role.ofPath path ≠ .resolver) :
    (ofPaths extensions paths parse).resolverFields =
      (ofPaths extensions paths parse').resolverFields := by
  refine congrArg ResolverIndex.collect (List.filterMap_congr fun f hf => ?_)
  obtain ⟨hmem, hresolver⟩ := List.mem_filter.mp hf
  refine parsed_congr hparse hmem fun hpath => hrole ?_
  obtain ⟨⟨p, hp, rfl⟩, -⟩ := mem_moduleFiles_ofPaths.mp hmem
  simpa [← hpath] using hresolver

/-- Two surveys of the same paths have the same findings of some kind, if each check finds the same
of this kind in each module. -/
theorem filter_findings_congr {keeps : Finding → Bool}
    (hchecks : ∀ g ∈ (ofPaths extensions paths parse).groups, ∀ c ∈ Evaluation.moduleRules,
      (c.2 ((ofPaths extensions paths parse).context g)).filter keeps =
        (c.2 ((ofPaths extensions paths parse').context g)).filter keeps) :
    ((ofPaths extensions paths parse).findings rules).filter keeps =
      ((ofPaths extensions paths parse').findings rules).filter keeps := by
  rw [findings, findings, List.filter_append, List.filter_append, List.filter_flatMap,
    List.filter_flatMap]
  refine congrArg (List.filter keeps _ ++ ·) (List.flatMap_congr fun g hg => ?_)
  rw [Evaluation.evaluateModule, Evaluation.evaluateModule, List.filter_flatMap,
    List.filter_flatMap]
  exact List.flatMap_congr fun c hc => hchecks g hg c (List.mem_filter.mp hc).1

end Findings

section Reports

variable {extensions paths : List String} {path : String}
  {parse parse' : String → Option ParsedFile}
  {read read' : String → Option String}

/-- Two surveys of the same paths give the same report on findings of some kind, if they have the
same of them and the texts around these are the same. -/
theorem report_filter_congr {rules : RuleSet} {keeps : Finding → Bool}
    (hkeeps : ∀ read g, keeps (Snippet.attachTo read g) = keeps g)
    (hfindings : ((ofPaths extensions paths parse).findings rules).filter keeps =
      ((ofPaths extensions paths parse').findings rules).filter keeps)
    (htexts : ∀ g ∈ (ofPaths extensions paths parse).findings rules, keeps g = true →
      g.line.isSome = true → read g.file = read' g.file) :
    ((ofPaths extensions paths parse).report rules read).filter keeps =
      ((ofPaths extensions paths parse').report rules read').filter keeps := by
  rw [report_filter _ _ _ _ (hkeeps read), report_filter _ _ _ _ (hkeeps read'), ← hfindings]
  have hattach : Snippet.attach read
      (((ofPaths extensions paths parse).findings rules).filter keeps) =
      Snippet.attach read' (((ofPaths extensions paths parse).findings rules).filter keeps) := by
    rw [Snippet.attach_eq_map, Snippet.attach_eq_map]
    refine List.map_congr_left fun g hg => Snippet.attachTo_congr ?_
    obtain ⟨hg, hkept⟩ := List.mem_filter.mp hg
    exact htexts g hg hkept
  rw [hattach]
  rfl

/-- The text around a finding is that of one of the paths. -/
theorem file_mem_of_isSome_line {rules : RuleSet} {g : Finding}
    (hg : g ∈ (ofPaths extensions paths parse).findings rules) (hline : g.line.isSome = true) :
    g.file ∈ paths := by
  obtain ⟨f, hf, hfile⟩ := exists_file_eq hg hline
  obtain ⟨⟨p, hp, rfl⟩, -⟩ := mem_moduleFiles_ofPaths.mp hf
  rw [hfile]
  simpa using hp

variable (hparse : ∀ p ∈ paths, p ≠ path → parse p = parse' p)
  (hread : ∀ p ∈ paths, p ≠ path → read p = read' p) (rules : RuleSet)
include hparse

/-- The findings of rules on names and paths do not depend on the one file. -/
theorem report_filter_isPathFinding :
    ((ofPaths extensions paths parse).report rules read).filter isPathFinding =
      ((ofPaths extensions paths parse').report rules read').filter isPathFinding := by
  refine report_filter_congr (fun read g => by simp [isPathFinding]) ?_ ?_
  · exact filter_findings_congr fun g hg c hc =>
      Evaluation.filter_isPathFinding_check (context_agreesBut hparse hg) hc
  · intro g hg hkept hline
    obtain ⟨rule, file, hmakes, -⟩ := exists_makes hg
    have hrule := (isPathFinding_iff hmakes.rule_eq).mp hkept
    rw [hmakes.isSome_line, Rules.isLocated_of_mem_pathRules rule hrule] at hline
    cases hline

include hread

/-- The findings in other files do not depend on a file that is no resolver file. -/
theorem report_filter_file_ne (hrole : Role.ofPath path ≠ .resolver) :
    ((ofPaths extensions paths parse).report rules read).filter (fun g => g.file != path) =
      ((ofPaths extensions paths parse').report rules read').filter fun g => g.file != path := by
  refine report_filter_congr (fun read g => by simp) ?_ ?_
  · exact filter_findings_congr fun g hg c hc => Evaluation.filter_check_eq
      (context_agreesBut hparse hg) hc (.inl (resolverFields_congr hparse hrole))
  · intro g hg hkept hline
    exact hread g.file (file_mem_of_isSome_line hg hline) (by simpa using hkept)

/-- But for the properties that nothing covers, the findings in other files do not depend on the one
file. -/
theorem report_filter_rule_ne :
    ((ofPaths extensions paths parse).report rules read).filter
        (fun g => g.rule != Rule.missingColumnDecorator.id && g.file != path) =
      ((ofPaths extensions paths parse').report rules read').filter
        fun g => g.rule != Rule.missingColumnDecorator.id && g.file != path := by
  refine report_filter_congr (fun read g => by simp) ?_ ?_
  · exact filter_findings_congr fun g hg c hc =>
      Evaluation.filter_check_of_ne (context_agreesBut hparse hg) hc
  · intro g hg hkept hline
    refine hread g.file (file_mem_of_isSome_line hg hline) ?_
    simpa using (Bool.and_eq_true_iff.mp hkept).2

end Reports

end Survey

end ModuleLint
