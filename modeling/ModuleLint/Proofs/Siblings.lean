import Mathlib.Data.List.Basic
import Mathlib.Data.List.Perm.Basic
import ModuleLint.Proofs.Evaluation

/-!
# Files side by side in a module

What a rule finds in a module it finds in the files one by one, in their order, and it needs to know
nothing of one file to look at another. So findings come and go with their files. A definition file
is the one thing a module can miss, and whether it does is the one question about a file that its
siblings answer.
-/

namespace ModuleLint

namespace Rules

/-- The module with other files in place of its own. -/
def Context.withFiles (ctx : Context) (files : List SourceFile) : Context :=
  { ctx with files }

/-- Nothing is found in files whose declarations are not known. -/
theorem Context.inParsed_eq_nil {ctx : Context} {files : List SourceFile}
    {body : SourceFile → ParsedFile → List Finding}
    (h : ∀ f ∈ files, ctx.parsed f.path = none) : ctx.inParsed files body = [] := by
  rw [Context.inParsed, List.flatMap_eq_nil_iff]
  intro f hf
  rw [h f hf, Option.map_none, Option.getD_none]

/-- A check that goes file by file says of files what it says of each of them. -/
theorem Filewise.withFiles {rule : Rule} {check : Context → List Finding}
    (h : Filewise rule check) (ctx : Context) (files : List SourceFile) :
    check (ctx.withFiles files) = files.flatMap fun f => check (ctx.only f) :=
  h.eq_flatMap (ctx.withFiles files)

/-- The order of the files decides nothing about whether a definition is missing. -/
theorem missingModule_perm (ctx : Context) {xs ys : List SourceFile} (h : xs.Perm ys) :
    missingModule (ctx.withFiles xs) = missingModule (ctx.withFiles ys) := by
  have hroles (roles : List Role) : ((ctx.withFiles xs).withRole roles).isEmpty =
      ((ctx.withFiles ys).withRole roles).isEmpty :=
    (h.filter _).isEmpty_eq
  have hcontroller : (ctx.withFiles xs).files.any isController =
      (ctx.withFiles ys).files.any isController := h.any_eq
  simp only [missingModule, isWired, hroles, hcontroller]
  rfl

end Rules

namespace Evaluation

open ModuleLint.Rules (Context Filewise)

/-- The findings of a rule among those of the enabled rules in a module. -/
def findingsOf (rules : RuleSet) (rule : Rule) (ctx : Context) : List Finding :=
  (evaluateModule ctx rules).filter fun g => g.rule == rule.id

/-- A rule looks at the files of a module one by one. What it finds in two lists of files is what it
finds in the first and then in the second. With the files in another order it finds the same, in
another order, and without a file it finds the same but for what it found in that file. Of the
declarations in other files it needs to know nothing to look at a file, and unless it is one of the
two rules on the names and paths of definition files, it finds nothing in a file whose declarations
are not known. -/
structure LooksAtFiles (rules : RuleSet) (rule : Rule) (ctx : Context) : Prop where
  append : ∀ xs ys, findingsOf rules rule (ctx.withFiles (xs ++ ys)) =
    findingsOf rules rule (ctx.withFiles xs) ++ findingsOf rules rule (ctx.withFiles ys)
  perm : ∀ xs ys, List.Perm xs ys →
    (findingsOf rules rule (ctx.withFiles xs)).Perm (findingsOf rules rule (ctx.withFiles ys))
  remove : ∀ xs f ys, (∀ other ∈ xs ++ ys, other.path ≠ f.path) →
    findingsOf rules rule (ctx.withFiles (xs ++ ys)) =
      (findingsOf rules rule (ctx.withFiles (xs ++ f :: ys))).filter fun g => g.file != f.path
  single : ∀ f, findingsOf rules rule (ctx.withFiles [f]) = findingsOf rules rule (ctx.only f)
  unparsed : rule ≠ .moduleNaming → rule ≠ .modulePath → ∀ files (f : SourceFile),
    ctx.parsed f.path = none → ∀ g ∈ findingsOf rules rule (ctx.withFiles files), g.file ≠ f.path

/-- The findings of a rule are those of its check if it is enabled, and else there are none. -/
theorem findingsOf_cases (rules : RuleSet) (rule : Rule) :
    (∃ check, (rule, check) ∈ moduleRules ∧ ∀ ctx, findingsOf rules rule ctx = check ctx) ∨
      ∀ ctx, findingsOf rules rule ctx = [] := by
  have hsub : enabled rules moduleRules ⊆ moduleRules := List.filter_sublist.subset
  by_cases h : ∃ check, (rule, check) ∈ enabled rules moduleRules
  · obtain ⟨check, hcheck⟩ := h
    obtain ⟨hmem, henabled⟩ := List.mem_filter.mp hcheck
    exact .inl ⟨check, hmem, fun ctx =>
      filter_flatMap_enabled truthful_moduleRules nodup_moduleRules hmem henabled ctx⟩
  · refine .inr fun ctx =>
      filter_flatMap_of_ne (fun c hc => truthful_moduleRules c (hsub hc)) ?_ ctx
    rintro ⟨other, check⟩ hc rfl
    exact h ⟨check, hc⟩

/-- But for the rules on names and paths, no check finds anything in a file whose declarations are
not known. -/
theorem check_only_eq_nil : ∀ c ∈ moduleRules,
    c.1 ≠ .missingModule → c.1 ≠ .moduleNaming → c.1 ≠ .modulePath →
      ∀ (ctx : Context) (f : SourceFile), ctx.parsed f.path = none → c.2 (ctx.only f) = [] := by
  simp only [moduleRules, List.forall_mem_cons, List.not_mem_nil, IsEmpty.forall_iff, implies_true,
    and_true]
  and_intros <;> intro hmissing hnaming hpath ctx f hf
  all_goals first
    | exact absurd rfl hmissing
    | exact absurd rfl hnaming
    | exact absurd rfl hpath
    | exact Rules.Context.inParsed_eq_nil fun _ _ => hf

/-- A rule that finds nothing looks at the files one by one. -/
theorem looksAtFiles_of_eq_nil {rules : RuleSet} {rule : Rule}
    (h : ∀ ctx, findingsOf rules rule ctx = []) (ctx : Context) :
    LooksAtFiles rules rule ctx := by
  constructor <;> simp [h]

/-- A rule whose check goes file by file looks at the files one by one. -/
theorem looksAtFiles_of_filewise {rules : RuleSet} {rule : Rule} {check : Context → List Finding}
    (h : Filewise rule check) (hfindings : ∀ ctx, findingsOf rules rule ctx = check ctx)
    (ctx : Context) (hunparsed : rule ≠ .moduleNaming → rule ≠ .modulePath → ∀ f : SourceFile,
      ctx.parsed f.path = none → check (ctx.only f) = []) : LooksAtFiles rules rule ctx := by
  constructor
  · intro xs ys
    simp only [hfindings, h.withFiles, List.flatMap_append]
  · intro xs ys hperm
    simp only [hfindings, h.withFiles]
    exact hperm.flatMap_right _
  · intro xs f ys hother
    have hgone : (check (ctx.only f)).filter (fun g => g.file != f.path) = [] := by
      rw [List.filter_eq_nil_iff]
      intro g hg
      simp [(h.makes ctx f g hg).file_eq]
    have hkept (files : List SourceFile) (hfiles : files ⊆ xs ++ ys) :
        (files.flatMap fun f => check (ctx.only f)).filter (fun g => g.file != f.path) =
          files.flatMap fun f => check (ctx.only f) := by
      rw [List.filter_eq_self]
      intro g hg
      obtain ⟨other, hmem, hg⟩ := List.mem_flatMap.mp hg
      simpa [(h.makes ctx other g hg).file_eq] using hother other (hfiles hmem)
    simp only [hfindings, h.withFiles, List.flatMap_append, List.flatMap_cons, List.filter_append]
    rw [hgone, hkept xs (List.subset_append_left xs ys), hkept ys (List.subset_append_right xs ys),
      List.nil_append]
  · intro f
    rw [hfindings, hfindings, h.withFiles, List.flatMap_singleton]
  · intro hnaming hpath files f hf g hg heq
    rw [hfindings, h.withFiles] at hg
    obtain ⟨other, -, hg⟩ := List.mem_flatMap.mp hg
    have hsame : other.path = f.path := (h.makes ctx other g hg).file_eq.symm.trans heq
    rw [hunparsed hnaming hpath other (hsame ▸ hf)] at hg
    cases hg

/-- Every rule but the one on missing definitions looks at the files one by one. -/
theorem looksAtFiles_of_ne {rules : RuleSet} {rule : Rule} (hrule : rule ≠ .missingModule)
    (ctx : Context) : LooksAtFiles rules rule ctx := by
  rcases findingsOf_cases rules rule with ⟨check, hmem, hfindings⟩ | hnone
  · exact looksAtFiles_of_filewise (filewise_of_mem _ hmem hrule) hfindings ctx
      fun hnaming hpath => check_only_eq_nil _ hmem hrule hnaming hpath ctx
  · exact looksAtFiles_of_eq_nil hnone ctx

/-- With the files of a module in another order all rules together find the same, in another
order. -/
theorem evaluateModule_perm (rules : RuleSet) (ctx : Context) {xs ys : List SourceFile}
    (h : xs.Perm ys) :
    (evaluateModule (ctx.withFiles xs) rules).Perm (evaluateModule (ctx.withFiles ys) rules) := by
  refine List.Perm.flatMap_left _ fun c hc => ?_
  have hmem : c ∈ moduleRules := (List.mem_filter.mp hc).1
  by_cases hrule : c.1 = .missingModule
  · obtain ⟨rule, check⟩ := c
    obtain rfl : rule = .missingModule := hrule
    obtain rfl := eq_missingModule_of_mem hmem
    exact .of_eq (Rules.missingModule_perm ctx h)
  · have hfilewise := filewise_of_mem c hmem hrule
    rw [hfilewise.withFiles, hfilewise.withFiles]
    exact h.flatMap_right _

/-- Outside the application's own module a resolver file asks for a definition, and a definition
file beside it answers. -/
theorem missingModule_sibling {rules : RuleSet} (hrule : rules.isEnabled .missingModule = true)
    {ctx : Context} (hname : ctx.module_ ≠ Grouping.applicationModule) {f sibling : SourceFile}
    (hf : f.role = .resolver) (hsibling : sibling.role = .definition) :
    findingsOf rules .missingModule (ctx.withFiles [f]) ≠ [] ∧
      findingsOf rules .missingModule (ctx.withFiles [f, sibling]) = [] := by
  have hmem : (Rule.missingModule, Rules.missingModule) ∈ moduleRules := by simp [moduleRules]
  have hfindings (ctx : Context) : findingsOf rules .missingModule ctx = Rules.missingModule ctx :=
    filter_flatMap_enabled truthful_moduleRules nodup_moduleRules hmem hrule ctx
  have happ (files : List SourceFile) : Rules.isApplication (ctx.withFiles files) = false :=
    beq_eq_false_iff_ne.mpr hname
  rw [hfindings, hfindings, Rules.missingModule, Rules.missingModule, happ, happ]
  simp [Rules.whenever, Rules.isWired, Context.withRole, Context.withFiles, hf, hsibling]

/-- Every rule but the one on missing definitions looks at the files of a module one by one. To no
rule does their order matter, not even to that one, but whether a file misses a definition is up to
its siblings. -/
theorem looksAtFiles_but_missingModule (rules : RuleSet) (ctx : Context) :
    (∀ rule, rule ≠ .missingModule → LooksAtFiles rules rule ctx) ∧
    (∀ xs ys, List.Perm xs ys →
      (evaluateModule (ctx.withFiles xs) rules).Perm (evaluateModule (ctx.withFiles ys) rules)) ∧
    (rules.isEnabled .missingModule = true → ctx.module_ ≠ Grouping.applicationModule →
      ∃ f sibling, findingsOf rules .missingModule (ctx.withFiles [f]) ≠ [] ∧
        findingsOf rules .missingModule (ctx.withFiles [f, sibling]) = []) := by
  refine ⟨fun rule hrule => looksAtFiles_of_ne hrule ctx,
    fun xs ys => evaluateModule_perm rules ctx, fun hrule hname => ?_⟩
  exact ⟨.ofPath "a.resolver.ts", .ofPath "a.module.ts",
    missingModule_sibling hrule hname (by decide +kernel) (by decide +kernel)⟩

/-- A module with a resolver file that declares nothing, and of whose other files nothing is
known. -/
def bareModule : Context where
  module_ := "user"
  files := []
  parsed := fun path => if path = "user.resolver.ts" then some ⟨path, [], []⟩ else none
  resolverFields := []

/-- In that module it is found that the resolver file has no resolver class, and nothing is found
about the file beside it. Whether a file misses a definition is up to its siblings. -/
theorem looksAtFiles_but_missingModule_bare :
    Rule.resolverClass ≠ .missingModule ∧ bareModule.parsed "old.resolver.ts" = none ∧
      LooksAtFiles {} .resolverClass bareModule ∧
      (findingsOf {} .resolverClass (bareModule.withFiles
        [.ofPath "user.resolver.ts", .ofPath "old.resolver.ts"])).map (·.file) =
          ["user.resolver.ts"] ∧
      ({} : RuleSet).isEnabled .missingModule = true ∧
      bareModule.module_ ≠ Grouping.applicationModule ∧
      ∃ f sibling, findingsOf {} .missingModule (bareModule.withFiles [f]) ≠ [] ∧
        findingsOf {} .missingModule (bareModule.withFiles [f, sibling]) = [] := by
  have hlooks := (looksAtFiles_but_missingModule {} bareModule).1 .resolverClass (by decide)
  have hmissing := (looksAtFiles_but_missingModule {} bareModule).2.2 (by decide) (by decide)
  exact ⟨by decide, by decide, hlooks, by decide +kernel, by decide, by decide, hmissing⟩

end Evaluation

end ModuleLint
