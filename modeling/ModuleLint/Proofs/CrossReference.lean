import Mathlib
import ModuleLint.Proofs.Survey

/-!
# Properties that nothing covers

A property of a persisted class must be stored or computed, and a resolver class anywhere in the
project may compute it. The warnings about properties that are neither are told here without the
resolver index, from the paths of the source files and the declarations in them: there is exactly
one for each such property, however the files are spread over modules.
-/

namespace ModuleLint

open ModuleLint.Text (CharacterNames)

/-- Where a finding is reported. -/
def Finding.place (g : Finding) : String × Option Int := (g.file, g.line)

namespace Rules

section Project

variable (extensions paths : List String) (parse : String → Option ParsedFile)

/-- The file at a path has a role, and belongs to some module. -/
def HasRole (role : Role) (path : String) : Prop :=
  Role.ofPath path = role ∧ (Grouping.moduleOf? extensions path).isSome = true

instance (role : Role) (path : String) : Decidable (HasRole extensions role path) :=
  inferInstanceAs (Decidable (_ ∧ _))

/-- The role of a path and its module are those of the source file at it. -/
theorem hasRole_iff {role : Role} {path : String} : HasRole extensions role path ↔
    (SourceFile.ofPath path).role = role ∧
      Grouping.isGrouped extensions (SourceFile.ofPath path) = true := by
  rw [HasRole, Grouping.isGrouped, SourceFile.ofPath_role, SourceFile.ofPath_path]

/-- Some class in a resolver file of any module computes a field of an entity. -/
def IsComputed (entity field : String) : Prop :=
  ∃ path ∈ paths, HasRole extensions .resolver path ∧ ∃ file ∈ parse path,
    ∃ c ∈ file.classes, ResolverIndex.Computes c entity field

instance (entity field : String) : Decidable (IsComputed extensions paths parse entity field) :=
  inferInstanceAs (Decidable (∃ path ∈ paths, _))

/-- A property of a persisted class is not covered: it has a name, which is not that of the
constructor, no decorator makes it a column or a relation, and no resolver computes it. -/
def IsUncovered (c property : Declaration) : Prop :=
  property.nameOrEmpty ≠ "" ∧ property.nameOrEmpty ≠ "constructor" ∧
    (∀ d ∈ property.decorators, d.name ∉ columnDecorators ∧ d.name ∉ relationDecorators) ∧
    ¬ IsComputed extensions paths parse c.nameOrEmpty property.nameOrEmpty

instance (c property : Declaration) :
    Decidable (IsUncovered extensions paths parse c property) :=
  inferInstanceAs (Decidable (_ ∧ _))

/-- The properties of the persisted classes of a file that are not covered, each by its line. -/
def uncoveredIn (file : ParsedFile) : List Int :=
  (file.classes.filter fun c => c.hasDecorator [entity]).flatMap fun c =>
    (c.properties.filter fun p => IsUncovered extensions paths parse c p).map (·.line)

/-- The properties of persisted classes in the model files of all modules that are not covered,
each by its file and line. -/
def uncovered : List (String × Int) :=
  (paths.filter fun path => HasRole extensions .model path).flatMap fun path =>
    (parse path).toList.flatMap fun file =>
      (uncoveredIn extensions paths parse file).map fun line => (path, line)

end Project

section Warnings

variable {extensions paths : List String} {parse : String → Option ParsedFile}

/-- The check lets a property pass just if it is covered, if it is told just the computed fields of
the property's class. -/
theorem lacksColumn_iff {computed : List String} {c property : Declaration}
    (hcomputed : ∀ field, field ∈ computed ↔
      IsComputed extensions paths parse c.nameOrEmpty field) :
    lacksColumn computed property = true ↔ IsUncovered extensions paths parse c property := by
  have hpersisted : isPersisted property = false ↔
      ∀ d ∈ property.decorators, d.name ∉ columnDecorators ∧ d.name ∉ relationDecorators := by
    simp [isPersisted, Declaration.hasDecorator, persistenceDecorators]
  rw [IsUncovered, ← hpersisted, ← hcomputed]
  simp [lacksColumn, and_assoc]

/-- In a module whose computed fields are those of the project, the check warns at the lines of the
uncovered properties in model files. -/
theorem map_missingColumnDecorator {ctx : Context}
    (hcomputed : ∀ entity field, field ∈ ctx.resolverFields.fields entity ↔
      IsComputed extensions paths parse entity field) :
    (missingColumnDecorator ctx).map Finding.place =
      ctx.files.flatMap fun f => if f.role = .model then
        (ctx.parsed f.path).toList.flatMap fun file =>
          (uncoveredIn extensions paths parse file).map fun line => (f.path, some line)
        else [] := by
  have hlacks (c p : Declaration) : lacksColumn (ctx.resolverFields.fields c.nameOrEmpty) p =
      decide (IsUncovered extensions paths parse c p) :=
    Bool.eq_iff_iff.mpr (by simpa using lacksColumn_iff (hcomputed c.nameOrEmpty))
  rw [missingColumnDecorator, Context.inClasses, Context.withRole, Context.inParsed_filter,
    List.map_flatMap]
  refine List.flatMap_congr fun f _ => ?_
  have hrole : [Role.model].contains f.role = true ↔ f.role = .model := by
    rw [List.contains_iff_mem, List.mem_singleton]
  simp only [hrole]
  split
  · cases ctx.parsed f.path with
    | none => rfl
    | some file =>
      rw [Option.map_some, Option.getD_some, Option.toList_some, List.flatMap_singleton,
        List.map_flatMap, uncoveredIn, flatMap_filter, List.map_flatMap]
      refine List.flatMap_congr fun c _ => ?_
      split
      · rw [List.filter_congr fun p _ => hlacks c p, List.map_map, List.map_map]
        rfl
      · rfl
  · rfl

end Warnings

end Rules

namespace Survey

/-- The places of the warnings of an enabled rule are those that its check finds, module by module,
if the rule makes no errors. -/
theorem map_place_warnings (s : Survey) {rules : RuleSet} {rule : Rule}
    {check : Rules.Context → List Finding} (hmem : (rule, check) ∈ Evaluation.moduleRules)
    (henabled : rules.isEnabled rule = true) (hseverity : rule.severity ≠ .error)
    (read : String → Option String) :
    ((s.report rules read).warnings.filter fun g => g.rule == rule.id).map Finding.place =
      s.groups.flatMap fun g => (check (s.context g)).map Finding.place := by
  have hwarnings : (s.report rules read).warnings.filter (fun g => g.rule == rule.id) =
      (Snippet.attach read (s.groups.flatMap fun g => check (s.context g))).filter
        fun g => !g.isError := by
    have hreport := s.report_filter rules read (fun g => g.rule == rule.id) fun g => by simp
    rw [s.filter_findings hmem henabled] at hreport
    exact congrArg Report.warnings hreport
  have hkeeps : ∀ g ∈ Snippet.attach read (s.groups.flatMap fun g => check (s.context g)),
      (!g.isError) = true := by
    intro g hg
    obtain ⟨made, hmade, rfl⟩ := Snippet.mem_attach.mp hg
    obtain ⟨group, -, hmade⟩ := List.mem_flatMap.mp hmade
    obtain ⟨file, -, hmakes⟩ := Evaluation.exists_makes hmem hmade
    simp [hmakes.isError_eq, hseverity]
  have hplace : Finding.place ∘ Snippet.attachTo read = Finding.place := by
    funext g
    simp [Finding.place]
  rw [hwarnings, List.filter_eq_self.mpr hkeeps, Snippet.attach_eq_map, List.map_map, hplace,
    List.map_flatMap]

/-- In a survey the files of modules are taken from the paths that belong to a module, and what is
said of each file of a role may be told from its path. -/
theorem flatMap_moduleFiles_perm {extensions paths : List String}
    {parse : String → Option ParsedFile} {β : Type} (role : Role) (f : String → List β) :
    ((ofPaths extensions paths parse).moduleFiles.flatMap fun file =>
      if file.role = role then f file.path else []).Perm
      ((paths.filter fun path => Rules.HasRole extensions role path).flatMap f) := by
  refine (moduleFiles_ofPaths_perm.flatMap_right _).trans (.of_eq ?_)
  rw [Rules.flatMap_filter, Rules.flatMap_filter, List.flatMap_map]
  refine List.flatMap_congr fun path _ => ?_
  by_cases hrole : Role.ofPath path = role
  · simp [Grouping.isGrouped, SourceFile.ofPath, Rules.HasRole, hrole]
  · simp [SourceFile.ofPath, Rules.HasRole, hrole]

/-- The computed fields of a survey are those that some class in a resolver file of any module
computes. -/
theorem mem_fields_ofPaths {extensions paths : List String} {parse : String → Option ParsedFile}
    {entity field : String} :
    field ∈ (ofPaths extensions paths parse).resolverFields.fields entity ↔
      Rules.IsComputed extensions paths parse entity field := by
  rw [mem_fields_resolverFields]
  constructor
  · intro h
    obtain ⟨f, hf, hrole, file, hfile, hc⟩ := h
    obtain ⟨⟨path, hpath, rfl⟩, hgrouped⟩ := mem_moduleFiles_ofPaths.mp hf
    rw [parsed_ofPaths hf] at hfile
    rw [SourceFile.ofPath_path] at hfile
    exact ⟨path, hpath, (Rules.hasRole_iff extensions).mpr ⟨hrole, hgrouped⟩, file, hfile, hc⟩
  · intro h
    obtain ⟨path, hpath, hhas, file, hfile, hc⟩ := h
    obtain ⟨hrole, hgrouped⟩ := (Rules.hasRole_iff extensions).mp hhas
    have hf : SourceFile.ofPath path ∈ (ofPaths extensions paths parse).moduleFiles :=
      mem_moduleFiles_ofPaths.mpr ⟨⟨path, hpath, rfl⟩, hgrouped⟩
    exact ⟨_, hf, hrole, file, (parsed_ofPaths hf).trans (by rwa [SourceFile.ofPath_path]), hc⟩

/-- The check finds the uncovered properties in the modules of a survey. -/
theorem flatMap_missingColumnDecorator_perm {extensions paths : List String}
    {parse : String → Option ParsedFile} :
    ((ofPaths extensions paths parse).groups.flatMap fun g =>
      (Rules.missingColumnDecorator ((ofPaths extensions paths parse).context g)).map
        Finding.place).Perm
      ((Rules.uncovered extensions paths parse).map fun (path, line) => (path, some line)) := by
  have hmodules : ((ofPaths extensions paths parse).groups.flatMap fun g =>
      (Rules.missingColumnDecorator ((ofPaths extensions paths parse).context g)).map
        Finding.place) =
      (ofPaths extensions paths parse).moduleFiles.flatMap fun f => if f.role = .model then
        (parse f.path).toList.flatMap fun file =>
          (Rules.uncoveredIn extensions paths parse file).map fun line => (f.path, some line)
        else [] := by
    rw [moduleFiles, List.flatMap_assoc]
    refine List.flatMap_congr fun g hg => ?_
    rw [Rules.map_missingColumnDecorator fun _ _ => mem_fields_ofPaths]
    refine List.flatMap_congr fun f hf => ?_
    have hparsed : ((ofPaths extensions paths parse).context g).parsed f.path = parse f.path :=
      parsed_ofPaths (List.mem_flatMap.mpr ⟨g, hg, hf⟩)
    rw [hparsed]
  have huncovered : ((Rules.uncovered extensions paths parse).map
      fun (path, line) => (path, some line)) =
      (paths.filter fun path => Rules.HasRole extensions .model path).flatMap fun path =>
        (parse path).toList.flatMap fun file =>
          (Rules.uncoveredIn extensions paths parse file).map fun line => (path, some line) := by
    simp only [Rules.uncovered, List.map_flatMap, List.map_map]
    rfl
  rw [hmodules, huncovered]
  exact flatMap_moduleFiles_perm .model fun path => (parse path).toList.flatMap fun file =>
    (Rules.uncoveredIn extensions paths parse file).map fun line => (path, some line)

end Survey

namespace Validation

/-- Where the root, the switches and the ignore patterns of a run are in order and the rule is
enabled, there is exactly one warning for each property of a persisted class that nothing covers,
at the property's line. -/
theorem warnings_perm_uncovered [CharacterNames] (tree : Directory) (root : String)
    (switches : Option (List (Data × Data))) (config : Config) (rules : RuleSet)
    (paths : List String) (hroot : checkRoot tree root = .ok ())
    (hrules : rulesOf switches config = .ok rules)
    (henabled : rules.isEnabled .missingColumnDecorator = true)
    (hpaths : Discovery.discover tree root config.discovery = .ok paths) :
    ∃ report, validate tree root switches config = .ok report ∧
      ((report.warnings.filter fun g => g.rule == Rule.missingColumnDecorator.id).map
        Finding.place).Perm
        ((Rules.uncovered config.discovery.extensions paths (Parsing.ofFile tree root)).map
          fun (path, line) => (path, some line)) := by
  refine ⟨_, validate_eq_ok_iff.mpr ⟨hroot, rules, hrules, paths, hpaths, rfl⟩, ?_⟩
  have hmem : (Rule.missingColumnDecorator, Rules.missingColumnDecorator) ∈
      Evaluation.moduleRules := by simp [Evaluation.moduleRules]
  rw [Survey.map_place_warnings _ hmem henabled (by decide)]
  exact Survey.flatMap_missingColumnDecorator_perm

/-- A project with a persisted class of two properties that are no columns. A resolver computes the
first. -/
def resolvedProject : Directory :=
  [("src", .directory [("a", .directory
    [("a.model.ts", .file (Text.Utf8.encode "@Entity()\nclass A \x7b\n  b: B;\n  c: C;\n\x7d")),
      ("a.resolver.ts", .file (Text.Utf8.encode
        "@Resolver(A)\nclass R \x7b\n  @ResolveField() b() \x7b\x7d\n\x7d"))])])]

/-- There is one warning for that class, about the second property. -/
theorem warnings_perm_uncovered_resolved :
    checkRoot resolvedProject "" = .ok () ∧
      rulesOf none {} = .ok {} ∧
      ({} : RuleSet).isEnabled .missingColumnDecorator = true ∧
      Discovery.discover resolvedProject "" {} =
        .ok ["src/a/a.model.ts", "src/a/a.resolver.ts"] ∧
      ∃ report, validate resolvedProject "" none {} = .ok report ∧
        ((report.warnings.filter fun g => g.rule == Rule.missingColumnDecorator.id).map
          Finding.place).Perm [("src/a/a.model.ts", some 4)] := by
  have hroot : checkRoot resolvedProject "" = .ok () := rfl
  have hpaths : Discovery.discover resolvedProject "" {} =
      .ok ["src/a/a.model.ts", "src/a/a.resolver.ts"] := by cbv
  have huncovered : Rules.uncovered ({} : Config).discovery.extensions
      ["src/a/a.model.ts", "src/a/a.resolver.ts"] (Parsing.ofFile resolvedProject "") =
        [("src/a/a.model.ts", 4)] := by decide +kernel
  obtain ⟨report, hreport, hwarnings⟩ :=
    warnings_perm_uncovered resolvedProject "" none {} {} _ hroot rfl rfl hpaths
  rw [huncovered] at hwarnings
  exact ⟨hroot, rfl, rfl, hpaths, report, hreport, hwarnings⟩

end Validation

end ModuleLint
